import Libcma.Lib.Book
import Libcma.Ledger.Basic

/-!
# What the calls of the basic ledger do

The invariant of `cma_ledger_basic`, the ends of its calls, and the book of supplies and holdings
it keeps.
-/

namespace Libcma

open Exec

namespace Basic

/-- The invariant of a basic ledger: ids are the numbers below the number of items, keys and ids
name each other, and balances are of registered assets and accounts. -/
structure Sound (ledger : Basic) : Prop where
  /-- The ids of assets are the numbers below their count. -/
  assetIds : ∀ assetId,
    (∃ asset, ledger.lassidToAsset.lookup assetId = some asset) ↔ assetId < ledger.getAssetCount
  /-- The ids of accounts are the numbers below their count. -/
  accountIds : ∀ accountId, (∃ account, ledger.laccidToAccount.lookup accountId = some account) ↔
    accountId < ledger.getAccountCount
  /-- An asset key names the asset registered under it. -/
  assetKeys : Finmap.Names ledger.assetToLassid ledger.lassidToAsset.lookup Asset.key
  /-- An account key names the account registered under it. -/
  accountKeys : Finmap.Names ledger.accountToLaccid ledger.laccidToAccount.lookup Account.key
  /-- No asset is of type base. -/
  unbased : ∀ assetId asset, ledger.lassidToAsset.lookup assetId = some asset → asset.type ≠ .base
  /-- No balance is of an asset yet to come. -/
  issued : ∀ key balance, ledger.accountAssetBalance.lookup key = some balance →
    key.1 < ledger.getAssetCount
  /-- No balance is of an account yet to come. -/
  owned : ∀ key balance, ledger.accountAssetBalance.lookup key = some balance →
    key.2 < ledger.getAccountCount

/-- What a basic ledger reports of itself. -/
def view (ledger : Basic) : View where
  asset := ledger.lassidToAsset.lookup
  account accountId := (ledger.laccidToAccount.lookup accountId).isSome
  balance assetId accountId := some (ledger.amount assetId accountId)

variable {ledger after : Basic} {assetId : AssetId} {accountId source target : AccountId}
  {asset : Asset} {amount balance supply : Amount}

/-- The reading methods report the view. -/
theorem Sound.reports (sound : ledger.Sound) : ops.Reports ledger ledger.view where
  asset assetId := by
    simp only [ops, findAsset, view, bind_run, read_run, Outcome.andThen_ok]
    cases found : ledger.lassidToAsset.lookup assetId with
    | none => rfl
    | some asset => simp [sound.unbased assetId asset found]
  account _ := rfl
  balance _ _ := rfl

/-- Register an asset under the next id. -/
def addAsset (ledger : Basic) (asset : Asset) : Basic :=
  { ledger with
    lassidToAsset := ledger.lassidToAsset.insert ledger.getAssetCount asset
    assetToLassid := Finmap.insertKey ledger.assetToLassid asset.key ledger.getAssetCount }

/-- Register an account under the next id. -/
def addAccount (ledger : Basic) (account : Account) : Basic :=
  { ledger with
    laccidToAccount := ledger.laccidToAccount.insert ledger.getAccountCount account
    accountToLaccid := Finmap.insertKey ledger.accountToLaccid account.key ledger.getAccountCount }

/-- Set the balance of an account. -/
def written (ledger : Basic) (assetId : AssetId) (accountId : AccountId) (balance : Amount) :
    Basic :=
  { ledger with
    accountAssetBalance := ledger.accountAssetBalance.insert (assetId, accountId) balance }

/-- Set the supply of an asset. -/
def supplied (ledger : Basic) (assetId : AssetId) (asset : Asset) (supply : Amount) : Basic :=
  { ledger with
    lassidToAsset := ledger.lassidToAsset.insert assetId { asset with supply := supply } }

/-- The next asset id is free. -/
theorem Sound.asset_fresh (sound : ledger.Sound) :
    ledger.lassidToAsset.lookup ledger.getAssetCount = none := by
  refine Option.eq_none_iff_forall_ne_some.mpr fun asset found => ?_
  exact Nat.lt_irrefl _ ((sound.assetIds _).mp ⟨asset, found⟩)

/-- The next account id is free. -/
theorem Sound.account_fresh (sound : ledger.Sound) :
    ledger.laccidToAccount.lookup ledger.getAccountCount = none := by
  refine Option.eq_none_iff_forall_ne_some.mpr fun account found => ?_
  exact Nat.lt_irrefl _ ((sound.accountIds _).mp ⟨account, found⟩)

section Retrievals

/-- An asset that `retrieve_asset` may add. -/
structure Addable (ledger : Basic) (asset : Asset) : Prop where
  fresh : ∀ key, asset.key = some key → ledger.assetToLassid.lookup key = none
  unbased : asset.type ≠ .base
  unsupplied : asset.supply = zeros 32

/-- The ledger `retrieve_asset` leaves: the one it met, or one with a new asset. -/
def AfterAsset (ledger after : Basic) : Prop :=
  after = ledger ∨ ∃ asset, ledger.Addable asset ∧ after = ledger.addAsset asset

/-- The ledger `retrieve_account` leaves: the one it met, or one with a new account. -/
def AfterAccount (ledger after : Basic) : Prop :=
  after = ledger ∨ ∃ account : Account,
    (∀ key, account.key = some key → ledger.accountToLaccid.lookup key = none) ∧
    after = ledger.addAccount account

/-- Looking an asset up leaves the ledger as it is. -/
theorem findAssetInto_ensures (assetId : AssetId) (state : Basic × AssetArgs) :
    ((findAssetInto assetId).run state).Satisfies (fun _ reached => reached.1 = state.1)
      (fun _ reached => reached.1 = state.1) := by
  simp only [findAssetInto, satisfies_bind, satisfies_read]
  cases state.1.lassidToAsset.lookup assetId with
  | none => exact rfl
  | some asset =>
    simp only [satisfies_bind, satisfies_update, satisfies_refuseIf, satisfies_pure]
    exact ⟨fun _ => trivial, fun _ => trivial⟩

/-- Looking an asset up by id leaves the ledger as it is. -/
theorem lookForAssetId_ensures (operation : Operation) (assetId : AssetId)
    (state : Basic × AssetArgs) :
    ((lookForAssetId operation assetId).run state).Satisfies (fun _ reached => reached.1 = state.1)
      (fun _ reached => reached.1 = state.1) := by
  simp only [lookForAssetId, satisfies_ite, satisfies_bind, satisfies_refuseIf, satisfies_pure]
  refine ⟨fun _ => ?_, fun _ => trivial⟩
  exact (findAssetInto_ensures assetId state).mono (fun _ _ kept => ⟨fun _ => kept, fun _ => kept⟩)
    fun _ _ kept => kept

/-- Looking an asset up by key leaves the ledger as it is. -/
theorem lookForAssetKey_ensures (operation : Operation) (assetKey : AssetKey)
    (state : Basic × AssetArgs) :
    ((lookForAssetKey operation assetKey).run state).Satisfies
      (fun _ reached => reached.1 = state.1) (fun _ reached => reached.1 = state.1) := by
  simp only [lookForAssetKey, satisfies_ite, satisfies_bind, satisfies_read, satisfies_pure]
  refine ⟨fun _ => ?_, fun _ => trivial⟩
  cases state.1.assetToLassid.lookup assetKey with
  | none =>
    simp only [satisfies_bind, satisfies_refuseIf, satisfies_pure]
    exact ⟨fun _ => trivial, fun _ => trivial⟩
  | some assetId =>
    simp only [satisfies_bind, satisfies_refuseIf, satisfies_update, satisfies_pure]
    exact (findAssetInto_ensures assetId state).mono
      (fun _ _ kept => ⟨fun _ => kept, fun _ => kept⟩) fun _ _ kept => kept

/-- `retrieve_asset` for a type with a key. -/
theorem retrieveKeyedAsset_ensures (sound : ledger.Sound) (operation : Operation)
    {assetKey : AssetKey} {newAsset : Asset} (keyed : newAsset.key = some assetKey)
    (unsupplied : newAsset.supply = zeros 32) (args : AssetArgs) :
    ((retrieveKeyedAsset operation ledger.getAssetCount assetKey newAsset).run
      (ledger, args)).Satisfies (fun _ reached => AfterAsset ledger reached.1)
      (fun _ reached => reached.1 = ledger) := by
  have next := sound.asset_fresh
  simp only [retrieveKeyedAsset, insertAssetKey, insertAsset, satisfies_bind, satisfies_ite,
    satisfies_read, satisfies_refuseIf, satisfies_update, satisfies_pure]
  refine (lookForAssetKey_ensures operation assetKey (ledger, args)).mono ?_ fun _ _ kept => kept
  rintro settled ⟨reached, filled⟩ rfl
  refine ⟨fun _ => ⟨fun _ => rfl, fun absent => ⟨fun taken => ?_, fun _ => .inr ?_⟩⟩,
    fun _ => .inl rfl⟩
  · simp [next] at taken
  · refine ⟨newAsset, ⟨fun key same => ?_, fun base => ?_, unsupplied⟩, ?_⟩
    · rw [keyed, Option.some.injEq] at same
      subst same
      simpa using absent
    · simp [Asset.key, base] at keyed
    · simp only [addAsset, keyed, Finmap.insertKey]

/-- `retrieve_asset` leaves the ledger as it is or adds an asset; when it throws it has changed
nothing. -/
theorem retrieveAsset_ensures (sound : ledger.Sound) (operation : Operation) (args : AssetArgs) :
    ((retrieveAsset operation).run (ledger, args)).Satisfies
      (fun _ reached => AfterAsset ledger reached.1) (fun _ reached => reached.1 = ledger) := by
  have next := sound.asset_fresh
  simp only [retrieveAsset, satisfies_bind, satisfies_read]
  cases args.assetType with
  | none => exact rfl
  | some assetType =>
    cases assetType with
    | id =>
      simp only [insertAsset, satisfies_bind, satisfies_orRaise, satisfies_ite, satisfies_read,
        satisfies_refuseIf, satisfies_update, satisfies_pure]
      refine ⟨fun _ => trivial, fun assetId _ => ?_⟩
      refine (lookForAssetId_ensures operation assetId (ledger, args)).mono ?_ fun _ _ kept => kept
      rintro settled ⟨reached, filled⟩ rfl
      refine ⟨fun _ => ⟨fun _ => rfl, fun _ => .inr ⟨_, ⟨?_, ?_, rfl⟩, rfl⟩⟩, fun _ => .inl rfl⟩
      · exact fun _ same => by simp [Asset.key, Asset.ofType] at same
      · simp [Asset.ofType]
    | base => exact rfl
    | tokenAddress =>
      simp only [satisfies_bind, satisfies_orRaise]
      exact ⟨fun _ => trivial, fun _ _ => retrieveKeyedAsset_ensures sound operation rfl rfl args⟩
    | tokenAddressId =>
      simp only [satisfies_bind, satisfies_orRaise]
      exact ⟨fun _ => trivial, fun _ _ => ⟨fun _ => trivial, fun _ _ =>
        retrieveKeyedAsset_ensures sound operation rfl rfl args⟩⟩
    | tokenAddressIdAmount =>
      simp only [satisfies_bind, satisfies_orRaise]
      exact ⟨fun _ => trivial, fun _ _ => ⟨fun _ => trivial, fun _ _ =>
        retrieveKeyedAsset_ensures sound operation rfl rfl args⟩⟩

/-- Looking an account up leaves the ledger as it is. -/
theorem findAccountInto_ensures (accountId : AccountId) (state : Basic × AccountArgs) :
    ((findAccountInto accountId).run state).Satisfies (fun _ reached => reached.1 = state.1)
      (fun _ reached => reached.1 = state.1) := by
  simp only [findAccountInto, satisfies_bind, satisfies_read]
  cases state.1.laccidToAccount.lookup accountId with
  | none => exact rfl
  | some account => exact rfl

/-- Looking an account up by id leaves the ledger as it is. -/
theorem lookForAccountId_ensures (operation : Operation) (accountId : AccountId)
    (state : Basic × AccountArgs) :
    ((lookForAccountId operation accountId).run state).Satisfies
      (fun _ reached => reached.1 = state.1) (fun _ reached => reached.1 = state.1) := by
  simp only [lookForAccountId, satisfies_ite, satisfies_bind, satisfies_refuseIf, satisfies_update,
    satisfies_pure]
  refine ⟨fun _ => ?_, fun _ => trivial⟩
  exact (findAccountInto_ensures accountId state).mono
    (fun _ _ kept => ⟨fun _ => kept, fun _ => ⟨fun _ => kept, fun _ => kept⟩⟩) fun _ _ kept => kept

/-- Looking an account up by key leaves the ledger as it is. -/
theorem lookForAccountKey_ensures (operation : Operation) (accountKey : Bytes32)
    (state : Basic × AccountArgs) :
    ((lookForAccountKey operation accountKey).run state).Satisfies
      (fun _ reached => reached.1 = state.1) (fun _ reached => reached.1 = state.1) := by
  simp only [lookForAccountKey, satisfies_ite, satisfies_bind, satisfies_read, satisfies_pure]
  refine ⟨fun _ => ?_, fun _ => trivial⟩
  cases state.1.accountToLaccid.lookup accountKey with
  | none =>
    simp only [satisfies_bind, satisfies_refuseIf, satisfies_pure]
    exact ⟨fun _ => trivial, fun _ => trivial⟩
  | some accountId =>
    simp only [satisfies_bind, satisfies_refuseIf, satisfies_update, satisfies_pure]
    exact (findAccountInto_ensures accountId state).mono
      (fun _ _ kept => ⟨fun _ => kept, fun _ => kept⟩) fun _ _ kept => kept

/-- `retrieve_account` for an account with a key. -/
theorem retrieveKeyedAccount_ensures (sound : ledger.Sound) (operation : Operation)
    {accountType : AccountType} (typed : accountType ≠ .id) (args : AccountArgs) :
    ((retrieveKeyedAccount operation ledger.getAccountCount accountType).run
      (ledger, args)).Satisfies (fun _ reached => AfterAccount ledger reached.1)
      (fun _ reached => reached.1 = ledger) := by
  have next := sound.account_fresh
  simp only [retrieveKeyedAccount, localAccount, insertAccountKey, insertAccount, satisfies_bind,
    satisfies_ite, satisfies_read, satisfies_orRaise, satisfies_refuseIf, satisfies_update,
    satisfies_pure]
  refine ⟨fun _ => trivial, fun account built => ?_⟩
  have keyed : account.key = some account.accountId :=
    Account.key_some (AccountArgs.local?_plain typed built).1
  refine (lookForAccountKey_ensures operation account.accountId (ledger, args)).mono ?_
    fun _ _ kept => kept
  rintro settled ⟨reached, filled⟩ rfl
  refine ⟨fun _ => ⟨fun _ => rfl, fun absent => ⟨fun taken => ?_, fun _ => .inr ?_⟩⟩,
    fun _ => .inl rfl⟩
  · simp [next] at taken
  · refine ⟨account, fun key same => ?_, ?_⟩
    · rw [keyed, Option.some.injEq] at same
      subst same
      simpa using absent
    · simp only [addAccount, keyed, Finmap.insertKey]

/-- `retrieve_account` leaves the ledger as it is or adds an account; when it throws it has changed
nothing. -/
theorem retrieveAccount_ensures (sound : ledger.Sound) (operation : Operation)
    (args : AccountArgs) :
    ((retrieveAccount operation).run (ledger, args)).Satisfies
      (fun _ reached => AfterAccount ledger reached.1) (fun _ reached => reached.1 = ledger) := by
  have next := sound.account_fresh
  simp only [retrieveAccount, satisfies_bind, satisfies_read]
  cases args.accountType with
  | none => exact rfl
  | some accountType =>
    cases accountType with
    | id =>
      simp only [insertAccount, satisfies_bind, satisfies_orRaise, satisfies_ite, satisfies_read,
        satisfies_refuseIf, satisfies_update, satisfies_pure]
      refine ⟨fun _ => trivial, fun accountId _ => ?_⟩
      refine (lookForAccountId_ensures operation accountId (ledger, args)).mono ?_
        fun _ _ kept => kept
      rintro settled ⟨reached, filled⟩ rfl
      refine ⟨fun _ => ⟨fun _ => rfl, fun _ => .inr ⟨_, ?_, rfl⟩⟩, fun _ => .inl rfl⟩
      exact fun _ same => by simp [Account.key] at same
    | walletAddress => exact retrieveKeyedAccount_ensures sound operation (by decide) args
    | accountId => exact retrieveKeyedAccount_ensures sound operation (by decide) args

end Retrievals

/-- What a call does, with one constructor for each way to end. -/
inductive Step (ledger : Basic) : Call → Response → Basic → Prop
  /-- The call is refused before it writes anything. -/
  | refused (call : Call) (error : CmaException) (output : Output) :
      Step ledger call ⟨some error, output⟩ ledger
  /-- An asset is found or added. -/
  | asset (args : AssetArgs) (operation : Operation) (output : Output) {after : Basic}
      (result : AfterAsset ledger after) :
      Step ledger (.retrieveAsset args operation) ⟨none, output⟩ after
  /-- An account is found or added. -/
  | account (args : AccountArgs) (operation : Operation) (output : Output) {after : Basic}
      (result : AfterAccount ledger after) :
      Step ledger (.retrieveAccount args operation) ⟨none, output⟩ after
  /-- A balance is reported. -/
  | balance (assetId : AssetId) (accountId : AccountId) (asked : Option Amount)
      (info : Option BalanceInfo) (output : Output) :
      Step ledger (.getBalance assetId accountId asked info) ⟨none, output⟩ ledger
  /-- A deposit is carried out. -/
  | deposit {assetId : AssetId} {accountId : AccountId} {amount : Amount} {asset : Asset}
      {balance : Amount}
      (accepts : ledger.view.AcceptsDeposit assetId accountId amount asset balance) :
      Step ledger (.deposit assetId accountId amount) ⟨none, .nothing⟩
        ((ledger.written assetId accountId (amountCheckedAdd balance amount).1).supplied assetId
          asset (amountCheckedAdd asset.supply amount).1)
  /-- A withdrawal is carried out. -/
  | withdraw {assetId : AssetId} {accountId : AccountId} {amount : Amount} {asset : Asset}
      {balance : Amount}
      (accepts : ledger.view.AcceptsWithdraw assetId accountId amount asset balance) :
      Step ledger (.withdraw assetId accountId amount) ⟨none, .nothing⟩
        ((ledger.written assetId accountId (amountCheckedSub balance amount).1).supplied assetId
          asset (amountCheckedSub asset.supply amount).1)
  /-- A transfer is carried out. -/
  | transfer {assetId : AssetId} {source target : AccountId} {amount : Amount} {asset : Asset}
      {balanceFrom balanceTo : Amount}
      (accepts : ledger.view.AcceptsTransfer assetId source target amount asset balanceFrom
        balanceTo) :
      Step ledger (.transfer assetId source target amount) ⟨none, .nothing⟩
        ((ledger.written assetId source (amountCheckedSub balanceFrom amount).1).written assetId
          target (amountCheckedAdd balanceTo amount).1)
  /-- The ledger is cleared. -/
  | clear : Step ledger .clear ⟨none, .nothing⟩ empty

/-- Writing a balance and then the supply. -/
theorem write_then_supply (registered : ledger.lassidToAsset.lookup assetId = some asset)
    (accountId : AccountId) (balance supply : Amount) :
    (setAccountAssetBalance assetId accountId balance >>= fun _ =>
      setAssetSupply assetId supply).run ledger =
      .ok () ((ledger.written assetId accountId balance).supplied assetId asset supply) := by
  simp [setAccountAssetBalance, setAssetSupply, registered, written, supplied]

/-- Every call with a defined end is a step. -/
theorem call_step (sound : ledger.Sound) {request : Call} {response : Response}
    (called : ledger.call request = some (after, response)) :
    Step ledger request response after := by
  cases request with
  | retrieveAsset args operation =>
    rcases settle_ensures (retrieveAsset_ensures sound operation args) called with
      ⟨answer, result, rfl⟩ | ⟨error, answer, kept, rfl⟩
    · exact .asset args operation _ result
    · obtain rfl : after = ledger := kept
      exact .refused _ _ _
  | retrieveAccount args operation =>
    rcases settle_ensures (retrieveAccount_ensures sound operation args) called with
      ⟨answer, result, rfl⟩ | ⟨error, answer, kept, rfl⟩
    · exact .account args operation _ result
    · obtain rfl : after = ledger := kept
      exact .refused _ _ _
  | getBalance assetId accountId asked info =>
    cases info with
    | none =>
      obtain ⟨rfl, rfl⟩ := Prod.mk.inj (Option.some.inj called)
      exact .balance assetId accountId asked none _
    | some told =>
      obtain ⟨rfl, rfl⟩ := Prod.mk.inj (Option.some.inj called)
      exact .refused _ _ _
  | deposit assetId accountId amount =>
    simp only [call, onFirst_run, deposit] at called
    rcases LedgerOps.deposit_cases sound.reports assetId accountId amount with
      ⟨error, -, -, thrown⟩ | ⟨-, undefined⟩ | ⟨asset, balance, accepts, continues⟩
    · rw [thrown] at called
      obtain ⟨rfl, rfl⟩ := Prod.mk.inj (Option.some.inj called)
      exact .refused _ _ _
    · rw [undefined] at called
      contradiction
    · rw [continues] at called
      simp only [ops, write_then_supply accepts.registered] at called
      obtain ⟨rfl, rfl⟩ := Prod.mk.inj (Option.some.inj called)
      exact .deposit accepts
  | withdraw assetId accountId amount =>
    simp only [call, onFirst_run, withdraw] at called
    rcases LedgerOps.withdraw_cases sound.reports assetId accountId amount with
      ⟨error, -, -, thrown⟩ | ⟨-, undefined⟩ | ⟨asset, balance, accepts, continues⟩
    · rw [thrown] at called
      obtain ⟨rfl, rfl⟩ := Prod.mk.inj (Option.some.inj called)
      exact .refused _ _ _
    · rw [undefined] at called
      contradiction
    · rw [continues] at called
      simp only [ops, write_then_supply accepts.registered] at called
      obtain ⟨rfl, rfl⟩ := Prod.mk.inj (Option.some.inj called)
      exact .withdraw accepts
  | transfer assetId source target amount =>
    simp only [call, onFirst_run, transfer] at called
    rcases LedgerOps.transfer_cases sound.reports assetId source target amount with
      ⟨error, -, -, thrown⟩ | ⟨-, undefined⟩ |
      ⟨asset, balanceFrom, balanceTo, accepts, continues⟩
    · rw [thrown] at called
      obtain ⟨rfl, rfl⟩ := Prod.mk.inj (Option.some.inj called)
      exact .refused _ _ _
    · rw [undefined] at called
      contradiction
    · rw [continues] at called
      obtain ⟨rfl, rfl⟩ := Prod.mk.inj (Option.some.inj called)
      exact .transfer accepts
  | clear =>
    obtain ⟨rfl, rfl⟩ := Prod.mk.inj (Option.some.inj called)
    exact .clear

section Invariant

/-- A new ledger is sound. -/
theorem sound_empty : empty.Sound := by
  constructor <;>
    simp [empty, getAssetCount, getAccountCount, Finmap.lookup_empty, Finmap.names_empty]

/-- A balance of a registered asset and account keeps the invariant. -/
theorem Sound.written (sound : ledger.Sound)
    (registered : ledger.view.asset assetId = some asset)
    (member : ledger.view.account accountId = true) (balance : Amount) :
    (ledger.written assetId accountId balance).Sound := by
  have known := (sound.accountIds accountId).mp (Option.isSome_iff_exists.mp member)
  refine { sound with issued := ?_, owned := ?_ } <;> intro key entry found <;>
    simp only [Basic.written, Finmap.lookup_insert_if] at found <;> split at found
  · rw [‹key = (assetId, accountId)›]
    exact (sound.assetIds assetId).mp ⟨asset, registered⟩
  · exact sound.issued key entry found
  · rw [‹key = (assetId, accountId)›]
    exact known
  · exact sound.owned key entry found

/-- A new supply keeps the invariant. -/
theorem Sound.supplied (sound : ledger.Sound)
    (registered : ledger.lassidToAsset.lookup assetId = some asset) (supply : Amount) :
    (ledger.supplied assetId asset supply).Sound := by
  have count : (ledger.supplied assetId asset supply).getAssetCount = ledger.getAssetCount :=
    Finmap.size_insert_old _ registered
  have recorded {other : AssetId} {found : Asset}
      (there : (ledger.supplied assetId asset supply).lassidToAsset.lookup other = some found) :
      ∃ before, ledger.lassidToAsset.lookup other = some before ∧ found.key = before.key ∧
        found.type = before.type := by
    simp only [Basic.supplied, Finmap.lookup_insert_if] at there
    split at there
    · rw [← Option.some.inj there, ‹other = assetId›]
      exact ⟨asset, registered, rfl, rfl⟩
    · exact ⟨found, there, rfl, rfl⟩
  have still {other : AssetId} {before : Asset}
      (there : ledger.lassidToAsset.lookup other = some before) :
      ∃ found, (ledger.supplied assetId asset supply).lassidToAsset.lookup other = some found ∧
        found.key = before.key := by
    simp only [Basic.supplied, Finmap.lookup_insert_if]
    by_cases same : other = assetId
    · rw [same, registered, Option.some.injEq] at there
      exact ⟨_, if_pos same, by rw [← there]; rfl⟩
    · exact ⟨before, (if_neg same).trans there, rfl⟩
  refine ⟨fun other => ?assetIds, sound.accountIds, ?assetKeys,
    sound.accountKeys, fun other found there => ?unbased, ?issued, sound.owned⟩
  case assetIds =>
    rw [count, ← sound.assetIds]
    constructor
    · rintro ⟨found, there⟩
      obtain ⟨before, was, -⟩ := recorded there
      exact ⟨before, was⟩
    · rintro ⟨before, was⟩
      obtain ⟨found, there, -⟩ := still was
      exact ⟨found, there⟩
  case assetKeys =>
    exact sound.assetKeys.replace { asset with supply := supply } registered rfl fun _ =>
      Finmap.lookup_insert_if ..
  case unbased =>
    obtain ⟨before, was, -, same⟩ := recorded there
    exact same ▸ sound.unbased other before was
  case issued =>
    rw [count]
    exact sound.issued

/-- A new asset keeps the invariant. -/
theorem Sound.addAsset (sound : ledger.Sound) (addable : ledger.Addable asset) :
    (ledger.addAsset asset).Sound := by
  have next := sound.asset_fresh
  have count : (ledger.addAsset asset).getAssetCount = ledger.getAssetCount + 1 :=
    Finmap.size_insert_new _ next
  refine ⟨fun other => ?assetIds, sound.accountIds, ?assetKeys,
    sound.accountKeys, fun other found there => ?unbased, fun key entry found => ?issued,
    sound.owned⟩
  case assetIds =>
    rw [count, Nat.lt_succ_iff_lt_or_eq, ← sound.assetIds]
    simp only [Basic.addAsset, Finmap.lookup_insert_if]
    by_cases same : other = ledger.getAssetCount <;> simp [same]
  case assetKeys =>
    exact sound.assetKeys.insertKey next addable.fresh fun _ => Finmap.lookup_insert_if ..
  case unbased =>
    simp only [Basic.addAsset, Finmap.lookup_insert_if] at there
    split at there
    · rw [← Option.some.inj there]
      exact addable.unbased
    · exact sound.unbased other found there
  case issued =>
    rw [count]
    exact Nat.lt_succ_of_lt (sound.issued key entry found)

/-- A new account keeps the invariant. -/
theorem Sound.addAccount (sound : ledger.Sound) {added : Account}
    (fresh : ∀ key, added.key = some key → ledger.accountToLaccid.lookup key = none) :
    (ledger.addAccount added).Sound := by
  have next := sound.account_fresh
  have count : (ledger.addAccount added).getAccountCount = ledger.getAccountCount + 1 :=
    Finmap.size_insert_new _ next
  refine ⟨sound.assetIds, fun other => ?accountIds, sound.assetKeys,
    ?accountKeys, sound.unbased, sound.issued, fun key entry found => ?owned⟩
  case accountIds =>
    rw [count, Nat.lt_succ_iff_lt_or_eq, ← sound.accountIds]
    simp only [Basic.addAccount, Finmap.lookup_insert_if]
    by_cases same : other = ledger.getAccountCount <;> simp [same]
  case accountKeys =>
    exact sound.accountKeys.insertKey next fresh fun _ => Finmap.lookup_insert_if ..
  case owned =>
    rw [count]
    exact Nat.lt_succ_of_lt (sound.owned key entry found)

/-- Every step keeps the invariant. -/
theorem Step.sound {request : Call} {response : Response}
    (step : Step ledger request response after) (sound : ledger.Sound) : after.Sound := by
  cases step with
  | refused => exact sound
  | asset _ _ _ result =>
    rcases result with rfl | ⟨asset, addable, rfl⟩
    · exact sound
    · exact sound.addAsset addable
  | account _ _ _ result =>
    rcases result with rfl | ⟨account, fresh, rfl⟩
    · exact sound
    · exact sound.addAccount fresh
  | balance => exact sound
  | deposit accepts =>
    exact (sound.written accepts.registered accepts.member _).supplied accepts.registered _
  | withdraw accepts =>
    exact (sound.written accepts.registered accepts.member _).supplied accepts.registered _
  | transfer accepts =>
    exact (sound.written accepts.registered accepts.sender _).written accepts.registered
      accepts.receiver _
  | clear => exact sound_empty

end Invariant

end Basic

end Libcma

import Libcma.AccountTypes
import Libcma.Memory.Runs
import Libcma.Lib.Named
import Libcma.Lib.Orders
import Libcma.Wallet.App

/-!
# What the application keeps custody of

The ledger keeps its book by ids. Depositors know ether, the tokens by the keys of their assets, and
the accounts by their bytes; read through these names, the book of the ledger is the custody of the
application. Retrievals add and remove only names under which nothing is recorded, so they change no
custody; a deposit, a withdrawal and a transfer are the orders of their names.
-/

namespace Libcma.Wallet

open Exec Custody Memory

/-- What the application keeps. -/
inductive Token where
  /-- The base asset. -/
  | ether
  /-- What is registered under the key of an asset. -/
  | key (key : AssetKey)
  deriving DecidableEq

/-- The token of an ERC-20 contract. -/
def Token.ofAddress (token : Address) : Token := .key (addressKey token)

/-- The token of a contract with token ids. -/
def Token.ofId (token : Address) (tokenId : TokenId) : Token := .key (addressIdKey token tokenId)

/-- An order for the application. -/
abbrev Order : Type := Custody.Order Token Bytes32 Emitted

/-- The names of the assets and accounts. -/
def App.naming (app : App) : Naming Token Bytes32 AssetId AccountId where
  asset
    | .ether => some app.etherId
    | .key key => app.ledger.assetToLassid.lookup key
  member := app.ledger.accountToLaccid.lookup
  names := app.ledger.accountToLaccid.keys
  unnamed account outside := by
    cases found : app.ledger.accountToLaccid.lookup account with
    | none => rfl
    | some accountId => exact absurd ((Finmap.mem_keys_iff _ _).mpr ⟨accountId, found⟩) outside

/-- What the application keeps. The holding of an account without a wallet is a virtual balance:
past 2048 of these an entry can dangle, and then the holding is the amount last written. No run goes
on from a request that accesses such an entry. -/
noncomputable def App.custody (app : App) : Custody Token Bytes32 Emitted :=
  app.naming.custody app.ledger.book app.vouchers

/-- The invariant of the application. -/
structure App.Sound (config : Config) (app : App) : Prop where
  /-- The ledger is sound. -/
  ledger : app.ledger.Sound config
  /-- The supplies cover the holdings. -/
  covered : app.ledger.book.Covered
  /-- The ether asset is the base asset of the ledger. -/
  ether : ∃ asset, app.ledger.lassidToAsset.lookup app.etherId = some asset ∧ asset.type = .base
  /-- The accounts of wallets are registered as such. -/
  typed : TypedByKey app.ledger.account

/-- The application as a custodian. -/
noncomputable def custodian (config : Config) : Custodian App Token Bytes32 Emitted :=
  ⟨App.custody, App.Sound config⟩

/-- The application after a call of its ledger. -/
def App.leave (app : App) (ledger : Memory) : App := { app with ledger := ledger }

variable {config : Config} {app : App} {ledger after : Memory} {request : Call}
  {response : Response}

/-- The names of a sound application are names of different things. -/
theorem App.Sound.distinct (sound : app.Sound config) : app.naming.Distinct where
  assets one two assetId first second := by
    have keyed {key : AssetKey} (named : app.ledger.assetToLassid.lookup key = some assetId) :
        ∃ asset, app.ledger.lassidToAsset.lookup assetId = some asset ∧ asset.key = some key :=
      (sound.ledger.registry.assetKeys key assetId).mp named
    -- The ether asset has no key.
    have unkeyed {key : AssetKey} (named : app.ledger.assetToLassid.lookup key = some assetId)
        (base : app.etherId = assetId) : False := by
      obtain ⟨asset, present, type⟩ := sound.ether
      obtain ⟨other, there, has⟩ := keyed named
      rw [base, there] at present
      rw [Option.some.inj present, Asset.key, type] at has
      contradiction
    cases one with
    | ether =>
      cases two with
      | ether => rfl
      | key key => exact (unkeyed second (Option.some.inj first)).elim
    | key key =>
      cases two with
      | ether => exact (unkeyed first (Option.some.inj second)).elim
      | key other =>
        obtain ⟨asset, present, has⟩ := keyed first
        obtain ⟨same, there, also⟩ := keyed second
        rw [Option.some.inj (present.symm.trans there), also] at has
        rw [Option.some.inj has]
  members one two accountId first second := by
    obtain ⟨account, present, has⟩ := (sound.ledger.registry.accountKeys one accountId).mp first
    obtain ⟨same, there, also⟩ := (sound.ledger.registry.accountKeys two accountId).mp second
    rw [Option.some.inj (present.symm.trans there), also] at has
    exact (Option.some.inj has).symm

/-- A step keeps the supplies above the holdings. -/
theorem covered_step (sound : ledger.Sound config) (covered : ledger.book.Covered)
    (step : Step config ledger request response after) : after.book.Covered := by
  rcases step.book sound with honest | ⟨lossy, -⟩
  · exact covered.lossy (.move honest)
  · exact covered.lossy lossy

section Registering

variable {asset : Asset} {account : Account} {assetId : AssetId} {accountId : AccountId}
  {owner : AccountStruct}

/-- The names of assets after one is added. -/
theorem App.asset_addAsset (app : App) (asset : Asset) (key : AssetKey) :
    (app.leave (app.ledger.addAsset asset)).naming.asset (.key key) =
      if asset.key = some key then some app.ledger.nextAssetId
      else app.naming.asset (.key key) :=
  Finmap.lookup_insertKey ..

/-- The names of assets after one is removed. -/
theorem App.asset_dropAsset (app : App) (assetId : AssetId) (asset : Asset) (key : AssetKey) :
    (app.leave (app.ledger.dropAsset assetId asset)).naming.asset (.key key) =
      if asset.key = some key then none else app.naming.asset (.key key) :=
  Finmap.lookup_eraseKey ..

/-- The names of accounts after one is added. -/
theorem App.member_addAccount (app : App) (account : Account) (key : Bytes32) :
    (app.leave (app.ledger.addAccount account)).naming.member key =
      if account.key = some key then some app.ledger.nextAccountId
      else app.naming.member key :=
  Finmap.lookup_insertKey ..

/-- The names of accounts after one is removed. -/
theorem App.member_dropAccount (app : App) (accountId : AccountId) (account : Account)
    (key : Bytes32) :
    (app.leave (app.ledger.dropAccount accountId account)).naming.member key =
      if account.key = some key then none else app.naming.member key :=
  Finmap.lookup_eraseKey ..

/-- Where names come and go at idle ids, the custody stays. -/
theorem App.custody_leave
    (shifts : Naming.Shifts app.ledger.book app.naming (app.leave after).naming)
    (reserves : after.book.outstanding = app.ledger.book.outstanding)
    (holdings : after.book.holding = app.ledger.book.holding) :
    (app.leave after).custody = app.custody :=
  shifts.custody reserves holdings app.vouchers

/-- A new asset changes no custody. -/
theorem App.Sound.custody_addAsset (sound : app.Sound config)
    (fresh : ∀ key, asset.key = some key → app.ledger.assetToLassid.lookup key = none)
    (unsupplied : asset.supply = zeros 32) :
    (app.leave (app.ledger.addAsset asset)).custody = app.custody := by
  have vacant := sound.ledger.registry.asset_fresh
  have reserves : (app.ledger.addAsset asset).book.outstanding = app.ledger.book.outstanding := by
    funext other
    simp only [Book.outstanding, book, addAsset, Finmap.lookup_insert_if]
    split
    · rw [‹other = _›, vacant, Option.map_some, unsupplied, toNat_zeros]
      rfl
    · rfl
  have idle : Naming.IdleAsset app.ledger.book app.ledger.nextAssetId := by
    have nothing : app.ledger.book.outstanding app.ledger.nextAssetId = 0 := by
      simp only [Book.outstanding, book, vacant, Option.map_none, Option.getD_none]
    exact ⟨nothing, sound.covered.holding_zero nothing⟩
  refine App.custody_leave ⟨fun token => ?_, fun _ => .inl rfl⟩ reserves rfl
  cases token with
  | ether => exact .inl rfl
  | key key =>
    have renamed := app.asset_addAsset asset key
    by_cases same : asset.key = some key
    · right
      rw [renamed, if_pos same]
      constructor
      · intro found named
        exact absurd (named.symm.trans (fresh key same)) (Option.some_ne_none found)
      · intro found named
        rw [← Option.some.inj named]
        exact idle
    · left
      rw [renamed, if_neg same]

/-- The removal of an asset without supply changes no custody. -/
theorem App.Sound.custody_dropAsset (sound : app.Sound config)
    (present : app.ledger.lassidToAsset.lookup assetId = some asset)
    (unsupplied : asset.supply.toNat = 0) :
    (app.leave (app.ledger.dropAsset assetId asset)).custody = app.custody := by
  have nothing : app.ledger.book.outstanding assetId = 0 := by
    simp only [Book.outstanding, book, present, Option.map_some, unsupplied, Option.getD_some]
  have reserves :
      (app.ledger.dropAsset assetId asset).book.outstanding = app.ledger.book.outstanding := by
    funext other
    by_cases same : other = assetId
    · subst same
      rw [nothing]
      simp [Book.outstanding, book, dropAsset, Finmap.lookup_erase_if]
    · simp [Book.outstanding, book, dropAsset, Finmap.lookup_erase_if, same]
  refine App.custody_leave ⟨fun token => ?_, fun _ => .inl rfl⟩ reserves rfl
  cases token with
  | ether => exact .inl rfl
  | key key =>
    have renamed := app.asset_dropAsset assetId asset key
    by_cases same : asset.key = some key
    · right
      rw [renamed, if_pos same]
      constructor
      · intro found named
        have its := (sound.ledger.registry.assetKeys key assetId).mpr ⟨asset, present, same⟩
        rw [Option.some.inj (named.symm.trans its)]
        exact ⟨nothing, sound.covered.holding_zero nothing⟩
      · intro found named
        contradiction
    · left
      rw [renamed, if_neg same]

/-- A new account changes no custody. -/
theorem App.Sound.custody_addAccount (sound : app.Sound config)
    (fresh : ∀ key, account.key = some key → app.ledger.accountToLaccid.lookup key = none) :
    (app.leave (app.ledger.addAccount account)).custody = app.custody := by
  have idle : Naming.IdleMember app.ledger.book app.ledger.nextAccountId := by
    intro assetId
    apply sound.covered.contained
    intro member
    obtain ⟨owner, present⟩ := (Finmap.mem_keys_iff _ _).mp member
    exact absurd (present.symm.trans sound.ledger.registry.account_fresh)
      (Option.some_ne_none owner)
  refine App.custody_leave ⟨fun _ => .inl rfl, fun key => ?_⟩ rfl rfl
  have renamed := app.member_addAccount account key
  by_cases same : account.key = some key
  · right
    rw [renamed, if_pos same]
    constructor
    · intro found named
      exact absurd (named.symm.trans (fresh key same)) (Option.some_ne_none found)
    · intro found named
      rw [← Option.some.inj named]
      exact idle
  · left
    rw [renamed, if_neg same]

/-- The removal of an account without balances changes no custody. -/
theorem App.Sound.custody_dropAccount (sound : app.Sound config)
    (present : app.ledger.laccidToAccount.lookup accountId = some owner)
    (empty : owner.nBalances = 0) :
    (app.leave (app.ledger.dropAccount accountId owner.account)).custody = app.custody := by
  have idle : Naming.IdleMember app.ledger.book accountId := by
    intro assetId
    change (app.ledger.stored (assetId, accountId)).toNat = 0
    rw [stored_none (sound.ledger.unheld present empty assetId), toNat_zeros]
  refine App.custody_leave ⟨fun _ => .inl rfl, fun key => ?_⟩ rfl rfl
  have renamed := app.member_dropAccount accountId owner.account key
  by_cases same : owner.account.key = some key
  · right
    rw [renamed, if_pos same]
    have registered : app.ledger.account accountId = some owner.account := by
      rw [Memory.account, present, Option.map_some]
    constructor
    · intro found named
      have its := (sound.ledger.registry.accountKeys key accountId).mpr
        ⟨owner.account, registered, same⟩
      rw [Option.some.inj (named.symm.trans its)]
      exact idle
    · intro found named
      contradiction
  · left
    rw [renamed, if_neg same]

end Registering

section Moving

variable {token : Token} {account source target : Bytes32} {assetId : AssetId}
  {accountId payer payee : AccountId} {amount : Amount} {output : Output}

/-- The names after a call that left the keys of the ledger. -/
theorem App.naming_leave (assetKeys : after.assetToLassid = app.ledger.assetToLassid)
    (accountKeys : after.accountToLaccid = app.ledger.accountToLaccid) :
    (app.leave after).naming = app.naming := by
  refine Naming.ext ?_ ?_ ?_
  · funext token
    cases token with
    | ether => rfl
    | key key => exact congrArg (Finmap.lookup key) assetKeys
  · exact congrArg (fun table account => Finmap.lookup account table) accountKeys
  · exact congrArg Finmap.keys accountKeys

/-- What is kept after a call that left the keys of the ledger. -/
theorem App.custody_of_naming (renamed : (app.leave after).naming = app.naming) :
    (app.leave after).custody = app.naming.custody after.book app.vouchers :=
  congrArg (fun naming : Naming Token Bytes32 AssetId AccountId =>
    naming.custody after.book app.vouchers) renamed

/-- A deposit of the ledger is a deposit under the names. -/
theorem App.Sound.moves_deposit (sound : app.Sound config)
    (named : app.naming.asset token = some assetId)
    (owner : app.naming.member account = some accountId)
    (step : Step config app.ledger (.deposit assetId accountId amount) ⟨none, output⟩ after) :
    (app.leave after).naming = app.naming ∧
      Moves app.custody (.deposit token account amount.toNat) (app.leave after).custody := by
  cases step with
  | @deposit _ _ _ asset balance holder accepts member =>
    have same := sameRegistry_written config (assetId, accountId) member asset
      (amountCheckedAdd balance amount).1
    have renamed : (app.leave (Memory.supplied (written config app.ledger (assetId, accountId) asset
        holder (amountCheckedAdd balance amount).1) assetId asset
        (amountCheckedAdd asset.supply amount).1)).naming = app.naming :=
      App.naming_leave same.assetKeys same.accountKeys
    refine ⟨renamed, ?_⟩
    rw [App.custody_of_naming renamed, book_supplied, book_written sound.ledger member,
      amountCheckedAdd_toNat accepts.balanceFits, amountCheckedAdd_toNat accepts.supplyFits,
      ← book_holding accepts.held]
    exact sound.distinct.deposit named owner (book_supply accepts.registered) amount.toNat
      app.vouchers

/-- A withdrawal of the ledger is a withdrawal under the names. -/
theorem App.Sound.moves_withdraw (sound : app.Sound config)
    (named : app.naming.asset token = some assetId)
    (owner : app.naming.member account = some accountId)
    (step : Step config app.ledger (.withdraw assetId accountId amount) ⟨none, output⟩ after) :
    (app.leave after).naming = app.naming ∧
      Moves app.custody (.withdraw token account amount.toNat) (app.leave after).custody := by
  cases step with
  | @withdraw _ _ _ asset balance holder accepts member =>
    have same := sameRegistry_written config (assetId, accountId) member asset
      (amountCheckedSub balance amount).1
    have renamed : (app.leave (Memory.supplied (written config app.ledger (assetId, accountId) asset
        holder (amountCheckedSub balance amount).1) assetId asset
        (amountCheckedSub asset.supply amount).1)).naming = app.naming :=
      App.naming_leave same.assetKeys same.accountKeys
    have enough := accepts.enough
    rw [← book_holding accepts.held] at enough
    refine ⟨renamed, ?_⟩
    rw [App.custody_of_naming renamed, book_supplied, book_written sound.ledger member,
      amountCheckedSub_toNat accepts.enough, amountCheckedSub_toNat accepts.supplied,
      ← book_holding accepts.held]
    exact sound.distinct.withdraw named owner (book_supply accepts.registered) enough
      accepts.supplied app.vouchers

/-- A transfer of the ledger is a transfer under the names. -/
theorem App.Sound.moves_transfer (sound : app.Sound config)
    (named : app.naming.asset token = some assetId)
    (sender : app.naming.member source = some payer)
    (receiver : app.naming.member target = some payee)
    (step : Step config app.ledger (.transfer assetId payer payee amount) ⟨none, output⟩ after) :
    (app.leave after).naming = app.naming ∧
      Moves app.custody (.transfer token source target amount.toNat)
        (app.leave after).custody := by
  cases step with
  | @transfer _ _ _ _ asset balanceFrom balanceTo owner holder middle accepts sent room debit
      received still =>
    subst debit
    have first := sameRegistry_written config (assetId, payer) sent asset
      (amountCheckedSub balanceFrom amount).1
    have second := sameRegistry_written config (assetId, payee) received asset
      (amountCheckedAdd balanceTo amount).1
    have renamed := App.naming_leave (second.assetKeys.trans first.assetKeys)
      (second.accountKeys.trans first.accountKeys)
    have enough := accepts.enough
    rw [← book_holding accepts.heldFrom] at enough
    refine ⟨renamed, ?_⟩
    rw [App.custody_of_naming renamed,
      book_written (sound.ledger.written room accepts.registered sent _) received,
      book_debit sound.ledger accepts sent, amountCheckedAdd_toNat accepts.balanceFits,
      ← book_holding accepts.heldTo]
    exact sound.distinct.transfer named sender receiver accepts.different enough app.vouchers

/-- A transfer that the ledger refuses changes nothing, or loses what was debited. -/
theorem App.Sound.moves_refused (sound : app.Sound config) {exception : CmaException}
    (named : app.naming.asset token = some assetId)
    (sender : app.naming.member source = some payer)
    (step : Step config app.ledger (.transfer assetId payer payee amount)
      ⟨some exception, output⟩ after) :
    after = app.ledger ∨
      Moves app.custody (.lose token source amount.toNat) (app.leave after).custody := by
  cases step with
  | refused => exact .inl rfl
  | @stranded _ _ _ _ asset balanceFrom balanceTo owner middle accepts sent room debit full =>
    subst debit
    have same := sameRegistry_written config (assetId, payer) sent asset
      (amountCheckedSub balanceFrom amount).1
    have renamed := App.naming_leave same.assetKeys same.accountKeys
    have enough := accepts.enough
    rw [← book_holding accepts.heldFrom] at enough
    right
    rw [App.custody_of_naming renamed, book_debit sound.ledger accepts sent]
    exact sound.distinct.lose named sender enough app.vouchers

/-- A call that leaves the ether asset where it is and types the accounts it registers. -/
def Spares (etherId : AssetId) : Call → Prop
  | .clear => False
  | .retrieveAsset args operation => operation = .findAndRemove → args.assetId ≠ some etherId
  | .retrieveAccount args _ => args.unnormalised = none
  | _ => True

/-- A step of the ledger leaves the ether asset where it is. -/
theorem App.Sound.ether_step (sound : app.Sound config) (spares : Spares app.etherId request)
    (step : Step config app.ledger request response after) :
    ∃ asset, after.lassidToAsset.lookup app.etherId = some asset ∧ asset.type = .base := by
  obtain ⟨base, present, type⟩ := sound.ether
  -- A write of a supply keeps the type.
  have supplied {ledger : Memory} {assetId : AssetId} {asset : Asset} (supply : Amount)
      (assets : ledger.lassidToAsset = app.ledger.lassidToAsset)
      (registered : app.ledger.lassidToAsset.lookup assetId = some asset) :
      ∃ found, (ledger.supplied assetId asset supply).lassidToAsset.lookup app.etherId =
        some found ∧ found.type = .base := by
    simp only [Memory.supplied, Finmap.lookup_insert_if, assets]
    split
    · rw [← ‹app.etherId = assetId›, present] at registered
      exact ⟨_, rfl, Option.some.inj registered ▸ type⟩
    · exact ⟨base, present, type⟩
  cases step with
  | refused => exact ⟨base, present, type⟩
  | asset result =>
    cases result with
    | found => exact ⟨base, present, type⟩
    | added asset =>
      refine ⟨base, ?_, type⟩
      have apart := Nat.ne_of_lt (sound.ledger.registry.assetIds _ _ present)
      simp only [Memory.addAsset, Finmap.lookup_insert_if, if_neg apart, present]
    | removed assetId asset removes there unsupplied keyed named =>
      refine ⟨base, ?_, type⟩
      have apart : app.etherId ≠ assetId := by
        rintro rfl
        rw [present] at there
        cases requested : AssetArgs.requestedKey _ with
        | none => exact spares removes (named requested)
        | some key =>
          have has := keyed key requested
          rw [← Option.some.inj there, Asset.key, type] at has
          contradiction
      simp only [Memory.dropAsset, Finmap.lookup_erase_if, if_neg apart, present]
  | account result =>
    cases result <;> exact ⟨base, present, type⟩
  | balance => exact ⟨base, present, type⟩
  | deposit accepts member =>
    exact supplied _ (sameRegistry_written config (_, _) member _ _).assets accepts.registered
  | withdraw accepts member =>
    exact supplied _ (sameRegistry_written config (_, _) member _ _).assets accepts.registered
  | transfer accepts sent room debit received =>
    subst debit
    refine ⟨base, registered_written (_, _) received _ _ ?_, type⟩
    exact registered_written (_, _) sent _ _ present
  | stranded accepts sent room debit =>
    subst debit
    exact ⟨base, registered_written (_, _) sent _ _ present, type⟩
  | clear => exact spares.elim

/-- A step of the ledger keeps the application sound. -/
theorem App.Sound.step (sound : app.Sound config) (spares : Spares app.etherId request)
    (step : Step config app.ledger request response after) : (app.leave after).Sound config := by
  have normalises : app.ledger.Normalises config request := by
    rintro ⟨misregisters, -⟩
    cases request with
    | retrieveAccount args operation =>
      have given : args.unnormalised = none := spares
      have asks := misregisters.2
      rw [given] at asks
      contradiction
    | _ => exact misregisters
  exact ⟨step.sound sound.ledger, covered_step sound.ledger sound.covered step,
    sound.ether_step spares step, step.typed normalises sound.typed⟩

end Moving

end Libcma.Wallet

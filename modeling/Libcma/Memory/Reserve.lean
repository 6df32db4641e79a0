import Libcma.Memory.Steps

/-!
# Staying within the reserve

The block of `virtual_balances` is reserved for `INIT_BALANCE` elements. A call that never holds
more leaves every pointer where it was, and has a defined end. `moments` lists the ledgers a call
goes through while it writes balances, so that the bound can be asked of each of them.
-/

namespace Libcma

open Exec

namespace Memory

/-- The balances a call writes once its checks have passed, in order. -/
def writes (ledger : Memory) : Call → List (MapKey × Amount)
  | .deposit assetId toAccountId amount =>
    match (View.reads.depositChecks assetId toAccountId amount).run ledger.view with
    | .ok (newBalance, _) _ => [((assetId, toAccountId), newBalance)]
    | _ => []
  | .withdraw assetId fromAccountId amount =>
    match (View.reads.withdrawChecks assetId fromAccountId amount).run ledger.view with
    | .ok (newBalance, _) _ => [((assetId, fromAccountId), newBalance)]
    | _ => []
  | .transfer assetId fromAccountId toAccountId amount =>
    match (View.reads.transferChecks assetId fromAccountId toAccountId amount).run ledger.view with
    | .ok (newBalanceFrom, newBalanceTo) _ =>
      [((assetId, fromAccountId), newBalanceFrom), ((assetId, toAccountId), newBalanceTo)]
    | _ => []
  | _ => []

/-- The ledger after a write for a pair of registered ids. -/
def write (config : Config) (ledger : Memory) (key : MapKey) (balance : Amount) : Memory :=
  match ledger.lassidToAsset.lookup key.1, ledger.laccidToAccount.lookup key.2 with
  | some asset, some owner => ledger.written config key asset owner balance
  | _, _ => ledger

/-- The ledgers a sequence of writes goes through, up to the first that is refused. -/
def moments (config : Config) (ledger : Memory) : List (MapKey × Amount) → List Memory
  | [] => [ledger]
  | (key, balance) :: rest =>
    if ledger.Full config key then [ledger]
    else ledger :: (ledger.write config key balance).moments config rest

/-- At no moment of the call are there more virtual balances than were reserved. -/
def WithinReserve (config : Config) (ledger : Memory) (request : Call) : Prop :=
  ∀ moment ∈ ledger.moments config (ledger.writes request), moment.virtualCount ≤ initBalance

instance (config : Config) (ledger : Memory) (request : Call) :
    Decidable (ledger.WithinReserve config request) :=
  inferInstanceAs (Decidable (∀ moment ∈ _, _))

/-- Every pointer is valid, and the block is the one that was reserved. -/
structure Anchored (ledger : Memory) : Prop where
  stable : ledger.Stable
  capacity : ledger.virtualBalances.capacity = initBalance

variable {config : Config} {ledger after : Memory} {key : MapKey} {assetId : AssetId}
  {accountId source target : AccountId} {asset : Asset} {owner : AccountStruct}
  {amount balance balanceFrom balanceTo : Amount}

section Writes

/-- What an accepted deposit writes. -/
theorem writes_deposit
    (accepts : ledger.view.AcceptsDeposit assetId accountId amount asset balance) :
    ledger.writes (.deposit assetId accountId amount) =
      [((assetId, accountId), (amountCheckedAdd balance amount).1)] := by
  simp only [writes, accepts.passes]

/-- What an accepted withdrawal writes. -/
theorem writes_withdraw
    (accepts : ledger.view.AcceptsWithdraw assetId accountId amount asset balance) :
    ledger.writes (.withdraw assetId accountId amount) =
      [((assetId, accountId), (amountCheckedSub balance amount).1)] := by
  simp only [writes, accepts.passes]

/-- What an accepted transfer writes. -/
theorem writes_transfer (accepts : ledger.view.AcceptsTransfer assetId source target amount asset
      balanceFrom balanceTo) :
    ledger.writes (.transfer assetId source target amount) =
      [((assetId, source), (amountCheckedSub balanceFrom amount).1),
        ((assetId, target), (amountCheckedAdd balanceTo amount).1)] := by
  simp only [writes, accepts.passes]

/-- A write for registered ids. -/
theorem write_eq (config : Config) (key : MapKey)
    (registered : ledger.lassidToAsset.lookup key.1 = some asset)
    (member : ledger.laccidToAccount.lookup key.2 = some owner) (balance : Amount) :
    ledger.write config key balance = ledger.written config key asset owner balance := by
  simp only [write, registered, member]

/-- A sequence of writes starts where it starts. -/
theorem mem_moments_self (config : Config) (ledger : Memory) (pending : List (MapKey × Amount)) :
    ledger ∈ ledger.moments config pending := by
  cases pending with
  | nil => exact List.mem_singleton_self _
  | cons first rest =>
    unfold moments
    split
    · exact List.mem_singleton_self _
    · exact List.mem_cons_self

/-- What comes after a write that is made. -/
theorem mem_moments_cons (room : ¬ledger.Full config key)
    (registered : ledger.lassidToAsset.lookup key.1 = some asset)
    (member : ledger.laccidToAccount.lookup key.2 = some owner) {rest : List (MapKey × Amount)}
    {moment : Memory}
    (later : moment ∈ (ledger.written config key asset owner balance).moments config rest) :
    moment ∈ ledger.moments config ((key, balance) :: rest) := by
  rw [moments, if_neg room, write_eq config key registered member]
  exact List.mem_cons_of_mem _ later

end Writes

/-- A write that stays within the reserve leaves every pointer valid. -/
theorem Anchored.written (anchored : ledger.Anchored)
    (fits : (ledger.written config key asset owner balance).virtualCount ≤ initBalance) :
    (ledger.written config key asset owner balance).Anchored := by
  have roomy (opens : ledger.OpensVirtual key asset owner) :
      ledger.virtualCount < ledger.virtualBalances.capacity := by
    rw [virtualCount_written, if_pos opens] at fits
    rw [anchored.capacity]
    exact fits
  exact ⟨anchored.stable.written asset owner balance roomy,
    (capacity_written asset owner balance roomy).trans anchored.capacity⟩

/-- Every step that stays within the reserve leaves every pointer valid. -/
theorem Step.anchored {request : Call} {response : Response}
    (step : Step config ledger request response after) (anchored : ledger.Anchored)
    (within : ledger.WithinReserve config request) : after.Anchored := by
  cases step with
  | refused => exact anchored
  | asset result =>
    cases result <;> exact ⟨anchored.stable, anchored.capacity⟩
  | account result =>
    cases result <;> exact ⟨anchored.stable, anchored.capacity⟩
  | balance => exact anchored
  | deposit accepts member room =>
    rw [WithinReserve, writes_deposit accepts] at within
    have written := anchored.written
      (within _ (mem_moments_cons room accepts.registered member (mem_moments_self ..)))
    exact ⟨written.stable, written.capacity⟩
  | withdraw accepts member room =>
    rw [WithinReserve, writes_withdraw accepts] at within
    have written := anchored.written
      (within _ (mem_moments_cons room accepts.registered member (mem_moments_self ..)))
    exact ⟨written.stable, written.capacity⟩
  | transfer accepts sent room debit received still =>
    subst debit
    rw [WithinReserve, writes_transfer accepts] at within
    have debited := anchored.written
      (within _ (mem_moments_cons room accepts.registered sent (mem_moments_self ..)))
    refine debited.written (within _ (mem_moments_cons room accepts.registered sent
      (mem_moments_cons still ?_ received (mem_moments_self ..))))
    exact registered_written (_, _) sent _ _ accepts.registered
  | stranded accepts sent room debit =>
    subst debit
    rw [WithinReserve, writes_transfer accepts] at within
    exact anchored.written
      (within _ (mem_moments_cons room accepts.registered sent (mem_moments_self ..)))
  | clear =>
    refine ⟨fun key entry found => ?_, anchored.capacity⟩
    simp only [Memory.clear, Finmap.lookup_empty] at found
    contradiction

/-- A new ledger has no pointers, and the block it reserved. -/
theorem anchored_empty (drive : ℕ → AccountBalance) : (empty drive).Anchored := by
  refine ⟨fun key entry found => ?_, rfl⟩
  simp only [empty, Finmap.lookup_empty] at found
  contradiction

section Definedness

/-- Removing an asset is defined. -/
theorem removeAsset_total (assetId : AssetId) : Total (removeAsset assetId) := by
  have key (assetKey : AssetKey) : Total (eraseAssetKey assetKey) :=
    .bind .read fun _ => .bind (.refuseIf _ _) fun _ => .update _
  refine .bind .read fun ledger => .bind (.orRaise _ _) fun asset => .bind (.refuseIf _ _) fun _ =>
    ?_
  -- Each type erases its own key, or none, and then the id.
  cases asset.type with
  | id => exact .bind .read fun _ => .bind (.refuseIf _ _) fun _ => .update _
  | base =>
    exact .bind (.update _) fun _ => .bind .read fun _ => .bind (.refuseIf _ _) fun _ => .update _
  | tokenAddress =>
    exact .bind (key _) fun _ => .bind .read fun _ => .bind (.refuseIf _ _) fun _ => .update _
  | tokenAddressId =>
    exact .bind (key _) fun _ => .bind .read fun _ => .bind (.refuseIf _ _) fun _ => .update _
  | tokenAddressIdAmount =>
    exact .bind (key _) fun _ => .bind .read fun _ => .bind (.refuseIf _ _) fun _ => .update _

/-- Looking an asset up is defined. -/
theorem findAssetInto_total (assetId : AssetId) : Total (findAssetInto assetId) := by
  refine .bind .read fun state => ?_
  cases state.1.lassidToAsset.lookup assetId with
  | none => exact .pure _
  | some asset => exact .bind (.update _) fun _ => .pure _

/-- Removing the asset that was found is defined. -/
theorem removeFoundAsset_total (operation : Operation) (assetId : AssetId) :
    Total (removeFoundAsset operation assetId) :=
  .ite _ (.onFirst (removeAsset_total assetId)) (.pure _)

/-- `retrieve_asset` for a type without a key is defined. -/
theorem retrieveUnkeyedAsset_total (config : Config) (operation : Operation)
    (assetType : AssetType) : Total (retrieveUnkeyedAsset config operation assetType) := by
  refine .bind .read fun _ => .bind (.orRaise _ _) fun assetId => .bind ?look fun settled =>
    .ite _ ?create (.pure _)
  case look =>
    refine .ite _ (.bind .read fun _ => .bind (.update _) fun _ =>
      .bind (findAssetInto_total _) fun found => .ite _ ?_ ?_) (.pure _)
    · exact .bind (removeFoundAsset_total operation _) fun _ => .pure _
    · exact .bind (.refuseIf _ _) fun _ => .pure _
  case create =>
    exact .bind (.bind .read fun _ => .refuseIf _ _) fun _ => .bind .read fun _ =>
      .bind (.refuseIf _ _) fun _ => .bind (.bind .read fun _ => .bind (.refuseIf _ _) fun _ =>
        .update _) fun _ => .bind (.update _) fun _ => .update _

/-- `retrieve_asset` for a type with a key is defined. -/
theorem retrieveKeyedAsset_total (config : Config) (operation : Operation) (assetKey : AssetKey)
    (newAsset : Asset) : Total (retrieveKeyedAsset config operation assetKey newAsset) := by
  refine .bind ?look fun settled => .ite _ ?create (.pure _)
  case look =>
    refine .ite _ (.bind .read fun state => ?_) (.pure _)
    cases state.1.assetToLassid.lookup assetKey with
    | none => exact .bind (.refuseIf _ _) fun _ => .pure _
    | some assetId =>
      exact .bind (findAssetInto_total assetId) fun _ => .bind (.refuseIf _ _) fun _ =>
        .bind (.update _) fun _ => .bind (removeFoundAsset_total operation assetId) fun _ =>
          .pure _
  case create =>
    exact .bind (.bind .read fun _ => .refuseIf _ _) fun _ => .bind .read fun _ =>
      .bind (.refuseIf _ _) fun _ => .bind (.update _) fun _ => .bind (.bind .read fun _ =>
        .bind (.refuseIf _ _) fun _ => .update _) fun _ => .update _

/-- `retrieve_asset` is defined. -/
theorem retrieveAsset_total (config : Config) (operation : Operation) :
    Total (retrieveAsset config operation) := by
  refine .bind .read fun ⟨ledger, args⟩ => ?_
  dsimp only
  rcases args.assetType with _ | _ | _ | _ | _ | _
  · exact .raise _
  · exact retrieveUnkeyedAsset_total config operation _
  · exact retrieveUnkeyedAsset_total config operation _
  · exact .bind (.orRaise _ _) fun _ => retrieveKeyedAsset_total config operation _ _
  · exact .bind (.orRaise _ _) fun _ => .bind (.orRaise _ _) fun _ =>
      retrieveKeyedAsset_total config operation _ _
  · exact .bind (.orRaise _ _) fun _ => .bind (.orRaise _ _) fun _ =>
      retrieveKeyedAsset_total config operation _ _

/-- Removing an account is defined. -/
theorem removeAccount_total (accountId : AccountId) : Total (removeAccount accountId) := by
  have key (accountKey : Bytes32) : Total (eraseAccountKey accountKey) :=
    .bind .read fun _ => .bind (.refuseIf _ _) fun _ => .update _
  refine .bind .read fun ledger => .bind (.orRaise _ _) fun found => .bind (.refuseIf _ _) fun _ =>
    ?_
  cases found.account.type with
  | id => exact .bind .read fun _ => .bind (.refuseIf _ _) fun _ => .update _
  | walletAddress =>
    exact .bind (key _) fun _ => .bind .read fun _ => .bind (.refuseIf _ _) fun _ => .update _
  | accountId =>
    exact .bind (key _) fun _ => .bind .read fun _ => .bind (.refuseIf _ _) fun _ => .update _

/-- Removing the account that was found is defined. -/
theorem removeFoundAccount_total (operation : Operation) (accountId : AccountId) :
    Total (removeFoundAccount operation accountId) :=
  .ite _ (.onFirst (removeAccount_total accountId)) (.pure _)

/-- Looking an account up is defined. -/
theorem findAccountInto_total (accountId : AccountId) : Total (findAccountInto accountId) := by
  refine .bind .read fun state => ?_
  cases state.1.laccidToAccount.lookup accountId with
  | none => exact .pure _
  | some found => exact .bind (.update _) fun _ => .pure _

/-- `retrieve_account` for an account without a key is defined. -/
theorem retrieveUnkeyedAccount_total (config : Config) (operation : Operation) :
    Total (retrieveUnkeyedAccount config operation) := by
  refine .bind .read fun _ => .bind (.orRaise _ _) fun accountId => .bind ?look fun settled =>
    .ite _ ?create (.pure _)
  case look =>
    refine .ite _ (.bind (findAccountInto_total _) fun found => .ite _ ?_ ?_) (.pure _)
    · exact .bind (.update _) fun _ => .bind (removeFoundAccount_total operation _) fun _ =>
        .pure _
    · exact .bind (.refuseIf _ _) fun _ => .pure _
  case create =>
    exact .bind (.bind .read fun _ => .refuseIf _ _) fun _ => .bind (.bind .read fun _ =>
      .bind (.refuseIf _ _) fun _ => .update _) fun _ => .update _

/-- `retrieve_account` for an account with a key is defined. -/
theorem retrieveKeyedAccount_total (config : Config) (operation : Operation)
    (accountType : AccountType) : Total (retrieveKeyedAccount config operation accountType) := by
  refine .bind .read fun _ => .bind (.orRaise _ _) fun account => .bind ?look fun settled =>
    .ite _ ?create (.pure _)
  case look =>
    refine .ite _ (.bind .read fun state => ?_) (.pure _)
    cases state.1.accountToLaccid.lookup account.accountId with
    | none => exact .bind (.refuseIf _ _) fun _ => .pure _
    | some accountId =>
      exact .bind (findAccountInto_total accountId) fun _ => .bind (.refuseIf _ _) fun _ =>
        .bind (.update _) fun _ => .bind (removeFoundAccount_total operation accountId) fun _ =>
          .pure _
  case create =>
    exact .bind (.bind .read fun _ => .refuseIf _ _) fun _ => .bind .read fun _ =>
      .bind (.refuseIf _ _) fun _ => .bind (.update _) fun _ => .bind (.bind .read fun _ =>
        .bind (.refuseIf _ _) fun _ => .update _) fun _ => .bind (.update _) fun _ => .update _

/-- `retrieve_account` is defined. -/
theorem retrieveAccount_total (config : Config) (operation : Operation) :
    Total (retrieveAccount config operation) := by
  refine .bind .read fun ⟨ledger, args⟩ => ?_
  dsimp only
  rcases args.accountType with _ | _ | _ | _
  · exact .raise _
  · exact retrieveUnkeyedAccount_total config operation
  · exact retrieveKeyedAccount_total config operation _
  · exact retrieveKeyedAccount_total config operation _

/-- A deposit into a ledger without dangling pointers is defined. -/
theorem deposit_defined (sound : ledger.Sound config) (stable : ledger.Stable)
    (assetId : AssetId) (accountId : AccountId) (amount : Amount) :
    ((deposit config assetId accountId amount).run ledger).Defined := by
  rw [deposit]
  rcases LedgerOps.deposit_cases (reports config ledger) assetId accountId amount with
    ⟨error, -, -, thrown⟩ | ⟨undefined, -⟩ | ⟨asset, balance, accepts, continues⟩
  · rw [thrown]
    trivial
  · have defined := View.depositChecks_defined
      (stable.readable sound.store.toSlotted assetId) accountId amount
    rw [undefined] at defined
    exact defined.elim
  · obtain ⟨owner, member⟩ := view_member accepts.member
    rw [continues]
    rcases write_then sound.store accepts.registered member (amountCheckedAdd balance amount).1
      (fun _ => setAssetSupply assetId (amountCheckedAdd asset.supply amount).1) with
      ⟨-, thrown⟩ | ⟨-, written⟩ | ⟨unstable, -⟩
    · simp only [ops, thrown, Outcome.Defined]
    · simp only [ops, written, supply_written accepts.registered member, Outcome.Defined]
    · exact absurd stable unstable

/-- A withdrawal from a ledger without dangling pointers is defined. -/
theorem withdraw_defined (sound : ledger.Sound config) (stable : ledger.Stable)
    (assetId : AssetId) (accountId : AccountId) (amount : Amount) :
    ((withdraw config assetId accountId amount).run ledger).Defined := by
  rw [withdraw]
  rcases LedgerOps.withdraw_cases (reports config ledger) assetId accountId amount with
    ⟨error, -, -, thrown⟩ | ⟨undefined, -⟩ | ⟨asset, balance, accepts, continues⟩
  · rw [thrown]
    trivial
  · have defined := View.withdrawChecks_defined
      (stable.readable sound.store.toSlotted assetId) accountId amount
    rw [undefined] at defined
    exact defined.elim
  · obtain ⟨owner, member⟩ := view_member accepts.member
    rw [continues]
    rcases write_then sound.store accepts.registered member (amountCheckedSub balance amount).1
      (fun _ => setAssetSupply assetId (amountCheckedSub asset.supply amount).1) with
      ⟨-, thrown⟩ | ⟨-, written⟩ | ⟨unstable, -⟩
    · simp only [ops, thrown, Outcome.Defined]
    · simp only [ops, written, supply_written accepts.registered member, Outcome.Defined]
    · exact absurd stable unstable

/-- A transfer whose first write stays within the reserve is defined. -/
theorem transfer_defined (sound : ledger.Sound config) (anchored : ledger.Anchored)
    (within : ledger.WithinReserve config (.transfer assetId source target amount)) :
    ((transfer config assetId source target amount).run ledger).Defined := by
  rw [transfer]
  rcases LedgerOps.transfer_cases (reports config ledger) assetId source target amount with
    ⟨error, -, -, thrown⟩ | ⟨undefined, -⟩ | ⟨asset, balanceFrom, balanceTo, accepts, continues⟩
  · rw [thrown]
    trivial
  · have defined := View.transferChecks_defined
      (anchored.stable.readable sound.store.toSlotted assetId) source target amount
    rw [undefined] at defined
    exact defined.elim
  · obtain ⟨sender, sent⟩ := view_member accepts.sender
    rw [WithinReserve, writes_transfer accepts] at within
    rw [continues]
    rcases write_then sound.store accepts.registered sent (amountCheckedSub balanceFrom amount).1
      (fun _ => setAccountAssetBalance config assetId target
        (amountCheckedAdd balanceTo amount).1) with
      ⟨-, thrown⟩ | ⟨room, written⟩ | ⟨unstable, -⟩
    · simp only [ops, thrown, Outcome.Defined]
    · simp only [ops, written]
      have debited := anchored.written
        (within _ (mem_moments_cons room accepts.registered sent (mem_moments_self ..)))
      have kept := sound.store.written room accepts.registered sent
        (amountCheckedSub balanceFrom amount).1
      obtain ⟨receiver, received⟩ := owner_written config assetId sent
        (view_member accepts.receiver) asset (amountCheckedSub balanceFrom amount).1
      rcases setAccountAssetBalance_run kept
        (registered_written (_, _) sent _ _ accepts.registered) received
        (amountCheckedAdd balanceTo amount).1 with ⟨-, thrown⟩ | ⟨-, credited⟩ | ⟨unstable, -⟩
      · simp only [thrown, Outcome.Defined]
      · simp only [credited, Outcome.Defined]
      · exact absurd debited.stable unstable
    · exact absurd anchored.stable unstable

/-- Every call that stays within the reserve has a defined end. -/
theorem call_defined (sound : ledger.Sound config) (anchored : ledger.Anchored) {request : Call}
    (within : ledger.WithinReserve config request) :
    ∃ after response, ledger.call config request = some (after, response) := by
  cases request with
  | retrieveAsset args operation =>
    exact settle_defined _ (retrieveAsset_total config operation (ledger, args))
  | retrieveAccount args operation =>
    exact settle_defined _ (retrieveAccount_total config operation (ledger, args))
  | getBalance assetId accountId asked info =>
    refine settle_defined _ ?_
    have readable := anchored.stable.balanceOf sound.store.toSlotted assetId accountId
    cases asked <;> simp [getAccountAssetBalance, readable, Outcome.Defined]
  | deposit assetId accountId amount =>
    refine settle_defined _ ?_
    rw [onFirst_run, Outcome.defined_mapState]
    exact deposit_defined sound anchored.stable assetId accountId amount
  | withdraw assetId accountId amount =>
    refine settle_defined _ ?_
    rw [onFirst_run, Outcome.defined_mapState]
    exact withdraw_defined sound anchored.stable assetId accountId amount
  | transfer assetId source target amount =>
    refine settle_defined _ ?_
    rw [onFirst_run, Outcome.defined_mapState]
    exact transfer_defined sound anchored within
  | clear => exact ⟨_, _, rfl⟩

end Definedness

end Memory

end Libcma

import Libcma.Memory.Room
import Libcma.Memory.Retrieve

/-!
# What the balance calls do

The ends of `deposit`, `withdraw` and `transfer` on a consistent ledger: refused by a check, refused
because the table of balances is full, or carried out. A transfer has one end more: its second write
can be refused after its first was made.
-/

namespace Libcma

open Exec

namespace Memory

/-- What a memory ledger reports of itself. -/
def view (ledger : Memory) : View where
  asset := ledger.lassidToAsset.lookup
  account accountId := (ledger.laccidToAccount.lookup accountId).isSome
  balance := ledger.balanceOf

/-- The reading methods report the view. -/
theorem reports (config : Config) (ledger : Memory) :
    (ops config).Reports ledger ledger.view where
  asset _ := rfl
  account _ := rfl
  balance _ _ := rfl

/-- The invariant of a memory ledger, whatever its virtual balances have been through. -/
structure Sound (config : Config) (ledger : Memory) : Prop where
  /-- Keys, ids and counters fit together. -/
  registry : ledger.Registry
  /-- Entries, arrays and accounts fit together. -/
  store : ledger.Store config
  /-- No entry is of an asset yet to come. -/
  issued : ∀ key entry, ledger.accountAssetBalance.lookup key = some entry →
    key.1 < ledger.nextAssetId

variable {config : Config} {ledger : Memory} {assetId : AssetId}
  {accountId source target : AccountId} {amount : Amount} {asset : Asset}
  {balance balanceFrom balanceTo : Amount} {owner : AccountStruct}

section Reading

/-- A balance that can be read is the one stored. -/
theorem balanceOf_eq (read : ledger.balanceOf assetId accountId = some balance) :
    ledger.amount assetId accountId = balance := by
  unfold balanceOf at read
  unfold Memory.amount
  cases found : ledger.accountAssetBalance.lookup (assetId, accountId) with
  | none =>
    rw [found] at read
    rw [stored_none found]
    exact Option.some.inj read
  | some entry =>
    rw [found] at read
    rw [stored_some found]
    cases entry with
    | withdrawable slot => exact Option.some.inj read
    | virtual pointer =>
      simp only [load, VirtualBalances.get?] at read
      split at read
      · rw [held, List.getD_eq_getElem?_getD, read, Option.getD_some]
      · contradiction

/-- Where nothing dangles, every balance can be read. -/
theorem Stable.balanceOf (stable : ledger.Stable) (slotted : ledger.Slotted) (assetId : AssetId)
    (accountId : AccountId) :
    ledger.balanceOf assetId accountId = some (ledger.amount assetId accountId) := by
  unfold Memory.balanceOf Memory.amount
  cases found : ledger.accountAssetBalance.lookup (assetId, accountId) with
  | none => rw [stored_none found]
  | some entry =>
    rw [stored_some found]
    cases entry with
    | withdrawable slot => rfl
    | virtual pointer =>
      have current : pointer.block = ledger.virtualBalances.block := stable _ _ found
      have inside := slotted.virtuals.slot_lt (virtualIndex_eq.mpr ⟨pointer, found, rfl⟩)
      rw [← slotted.aligned] at inside
      simp only [load, VirtualBalances.get?, if_pos current, held,
        List.getD_eq_getElem?_getD, List.getElem?_eq_getElem inside, Option.getD_some]

/-- Where nothing dangles, the view has every balance. -/
theorem Stable.readable (stable : ledger.Stable) (slotted : ledger.Slotted) (assetId : AssetId)
    (accountId : AccountId) : (ledger.view.balance assetId accountId).isSome := by
  change (ledger.balanceOf assetId accountId).isSome
  rw [stable.balanceOf slotted]
  rfl

/-- A member of the view is a registered account. -/
theorem view_member (member : ledger.view.account accountId = true) :
    ∃ owner, ledger.laccidToAccount.lookup accountId = some owner :=
  Option.isSome_iff_exists.mp member

end Reading

/-- Set the supply of an asset. -/
def supplied (ledger : Memory) (assetId : AssetId) (asset : Asset) (supply : Amount) : Memory :=
  { ledger with
    lassidToAsset := ledger.lassidToAsset.insert assetId { asset with supply := supply } }

/-- A balance write and what follows it: the write is refused, is made, or is undefined. -/
theorem write_then {α : Type} (store : ledger.Store config)
    (registered : ledger.lassidToAsset.lookup assetId = some asset)
    (member : ledger.laccidToAccount.lookup accountId = some owner) (balance : Amount)
    (next : Unit → Exec CmaException Memory α) :
    (ledger.Full config (assetId, accountId) ∧
      (setAccountAssetBalance config assetId accountId balance >>= next).run ledger =
        .throw ⟨"Max balances reached", errorMaxBalancesReached⟩ ledger) ∨
    (¬ledger.Full config (assetId, accountId) ∧
      (setAccountAssetBalance config assetId accountId balance >>= next).run ledger =
        (next ()).run (ledger.written config (assetId, accountId) asset owner balance)) ∨
    ¬ledger.Stable ∧
      (setAccountAssetBalance config assetId accountId balance >>= next).run ledger =
        .undefined := by
  rw [bind_run]
  rcases setAccountAssetBalance_run store registered member balance with
    ⟨full, thrown⟩ | ⟨room, written⟩ | ⟨unstable, undefined⟩
  · rw [thrown]
    exact .inl ⟨full, rfl⟩
  · rw [written]
    exact .inr (.inl ⟨room, rfl⟩)
  · rw [undefined]
    exact .inr (.inr ⟨unstable, rfl⟩)

/-- Writing the supply of an asset after a balance. -/
theorem supply_written (registered : ledger.lassidToAsset.lookup assetId = some asset)
    (member : ledger.laccidToAccount.lookup accountId = some owner) (balance supply : Amount) :
    (setAssetSupply assetId supply).run
        (ledger.written config (assetId, accountId) asset owner balance) =
      .ok () ((ledger.written config (assetId, accountId) asset owner balance).supplied assetId
        asset supply) := by
  have kept := (sameRegistry_written config (assetId, accountId) member asset balance).assets
  simp [setAssetSupply, supplied, kept, registered]

/-- A write keeps the assets and the accounts where they are. -/
theorem owner_written (config : Config) (assetId : AssetId)
    (sender : ledger.laccidToAccount.lookup source = some owner)
    (receiver : ∃ receiver, ledger.laccidToAccount.lookup target = some receiver)
    (asset : Asset) (balance : Amount) :
    ∃ receiver, (ledger.written config (assetId, source) asset owner balance).laccidToAccount.lookup
      target = some receiver := by
  obtain ⟨before, found⟩ := receiver
  have known := (sameRegistry_written config (assetId, source) sender asset balance).accounts target
  rw [account, account, found, Option.map_some] at known
  obtain ⟨receiver, there, -⟩ := Option.map_eq_some_iff.mp known
  exact ⟨receiver, there⟩

/-- The checks of a transfer pass and its first write is made. -/
def Debits (config : Config) (ledger : Memory) (assetId : AssetId) (source target : AccountId)
    (amount : Amount) : Prop :=
  (∃ asset balanceFrom balanceTo, ledger.view.AcceptsTransfer assetId source target amount asset
    balanceFrom balanceTo) ∧ ¬ledger.Full config (assetId, source)

/-- What a call does, with one constructor for each way to end. -/
inductive Step (config : Config) (ledger : Memory) : Call → Response → Memory → Prop
  /-- The call is refused before it writes anything. -/
  | refused (call : Call) (error : CmaException) (output : Output)
      (idle : ∀ assetId source target amount, call = .transfer assetId source target amount →
        ¬ledger.Debits config assetId source target amount) :
      Step config ledger call ⟨some error, output⟩ ledger
  /-- An asset is found, added or removed. -/
  | asset {operation : Operation} {args answer : AssetArgs} {after : Memory}
      (result : AssetResult config ledger operation args after answer) :
      Step config ledger (.retrieveAsset args operation) ⟨none, .asset answer⟩ after
  /-- An account is found, added or removed. -/
  | account {operation : Operation} {args answer : AccountArgs} {after : Memory}
      (result : AccountResult config ledger operation args after answer) :
      Step config ledger (.retrieveAccount args operation) ⟨none, .account answer⟩ after
  /-- A balance is reported. -/
  | balance (assetId : AssetId) (accountId : AccountId) (asked reported : Option Amount)
      (info told : Option BalanceInfo) :
      Step config ledger (.getBalance assetId accountId asked info)
        ⟨none, .balance reported told⟩ ledger
  /-- A deposit is carried out. -/
  | deposit {assetId : AssetId} {accountId : AccountId} {amount : Amount} {asset : Asset}
      {balance : Amount} {owner : AccountStruct}
      (accepts : ledger.view.AcceptsDeposit assetId accountId amount asset balance)
      (member : ledger.laccidToAccount.lookup accountId = some owner)
      (room : ¬ledger.Full config (assetId, accountId)) :
      Step config ledger (.deposit assetId accountId amount) ⟨none, .nothing⟩
        ((ledger.written config (assetId, accountId) asset owner
          (amountCheckedAdd balance amount).1).supplied assetId asset
            (amountCheckedAdd asset.supply amount).1)
  /-- A withdrawal is carried out. -/
  | withdraw {assetId : AssetId} {accountId : AccountId} {amount : Amount} {asset : Asset}
      {balance : Amount} {owner : AccountStruct}
      (accepts : ledger.view.AcceptsWithdraw assetId accountId amount asset balance)
      (member : ledger.laccidToAccount.lookup accountId = some owner)
      (room : ¬ledger.Full config (assetId, accountId)) :
      Step config ledger (.withdraw assetId accountId amount) ⟨none, .nothing⟩
        ((ledger.written config (assetId, accountId) asset owner
          (amountCheckedSub balance amount).1).supplied assetId asset
            (amountCheckedSub asset.supply amount).1)
  /-- A transfer is carried out. -/
  | transfer {assetId : AssetId} {source target : AccountId} {amount : Amount} {asset : Asset}
      {balanceFrom balanceTo : Amount} {sender receiver : AccountStruct} {middle : Memory}
      (accepts : ledger.view.AcceptsTransfer assetId source target amount asset balanceFrom
        balanceTo)
      (sent : ledger.laccidToAccount.lookup source = some sender)
      (room : ¬ledger.Full config (assetId, source))
      (debit : middle = ledger.written config (assetId, source) asset sender
        (amountCheckedSub balanceFrom amount).1)
      (received : middle.laccidToAccount.lookup target = some receiver)
      (still : ¬middle.Full config (assetId, target)) :
      Step config ledger (.transfer assetId source target amount) ⟨none, .nothing⟩
        (middle.written config (assetId, target) asset receiver
          (amountCheckedAdd balanceTo amount).1)
  /-- A transfer is refused after its first write. -/
  | stranded {assetId : AssetId} {source target : AccountId} {amount : Amount} {asset : Asset}
      {balanceFrom balanceTo : Amount} {sender : AccountStruct} {middle : Memory}
      (accepts : ledger.view.AcceptsTransfer assetId source target amount asset balanceFrom
        balanceTo)
      (sent : ledger.laccidToAccount.lookup source = some sender)
      (room : ¬ledger.Full config (assetId, source))
      (debit : middle = ledger.written config (assetId, source) asset sender
        (amountCheckedSub balanceFrom amount).1)
      (full : middle.Full config (assetId, target)) :
      Step config ledger (.transfer assetId source target amount)
        ⟨some ⟨"Max balances reached", errorMaxBalancesReached⟩, .nothing⟩ middle
  /-- The ledger is cleared. -/
  | clear : Step config ledger .clear ⟨none, .nothing⟩ ledger.clear

section Calling

variable {after : Memory} {response : Response}

/-- `deposit` is a step. -/
theorem deposit_step (store : ledger.Store config)
    (called : ledger.call config (.deposit assetId accountId amount) = some (after, response)) :
    Step config ledger (.deposit assetId accountId amount) response after := by
  simp only [call, onFirst_run, deposit] at called
  rcases LedgerOps.deposit_cases (reports config ledger) assetId accountId amount with
    ⟨error, -, -, thrown⟩ | ⟨-, undefined⟩ | ⟨asset, balance, accepts, continues⟩
  · rw [thrown] at called
    obtain ⟨rfl, rfl⟩ := Prod.mk.inj (Option.some.inj called)
    exact .refused _ _ _ (by simp)
  · rw [undefined] at called
    contradiction
  · obtain ⟨owner, member⟩ := view_member accepts.member
    rw [continues] at called
    rcases write_then store accepts.registered member (amountCheckedAdd balance amount).1
      (fun _ => setAssetSupply assetId (amountCheckedAdd asset.supply amount).1) with
      ⟨full, thrown⟩ | ⟨room, written⟩ | ⟨-, undefined⟩
    · simp only [ops, thrown] at called
      obtain ⟨rfl, rfl⟩ := Prod.mk.inj (Option.some.inj called)
      exact .refused _ _ _ (by simp)
    · simp only [ops, written, supply_written accepts.registered member] at called
      obtain ⟨rfl, rfl⟩ := Prod.mk.inj (Option.some.inj called)
      exact .deposit accepts member room
    · simp only [ops, undefined] at called
      contradiction

/-- `withdraw` is a step. -/
theorem withdraw_step (store : ledger.Store config)
    (called : ledger.call config (.withdraw assetId accountId amount) = some (after, response)) :
    Step config ledger (.withdraw assetId accountId amount) response after := by
  simp only [call, onFirst_run, withdraw] at called
  rcases LedgerOps.withdraw_cases (reports config ledger) assetId accountId amount with
    ⟨error, -, -, thrown⟩ | ⟨-, undefined⟩ | ⟨asset, balance, accepts, continues⟩
  · rw [thrown] at called
    obtain ⟨rfl, rfl⟩ := Prod.mk.inj (Option.some.inj called)
    exact .refused _ _ _ (by simp)
  · rw [undefined] at called
    contradiction
  · obtain ⟨owner, member⟩ := view_member accepts.member
    rw [continues] at called
    rcases write_then store accepts.registered member (amountCheckedSub balance amount).1
      (fun _ => setAssetSupply assetId (amountCheckedSub asset.supply amount).1) with
      ⟨full, thrown⟩ | ⟨room, written⟩ | ⟨-, undefined⟩
    · simp only [ops, thrown] at called
      obtain ⟨rfl, rfl⟩ := Prod.mk.inj (Option.some.inj called)
      exact .refused _ _ _ (by simp)
    · simp only [ops, written, supply_written accepts.registered member] at called
      obtain ⟨rfl, rfl⟩ := Prod.mk.inj (Option.some.inj called)
      exact .withdraw accepts member room
    · simp only [ops, undefined] at called
      contradiction

/-- `transfer` is a step. -/
theorem transfer_step (store : ledger.Store config)
    (called : ledger.call config (.transfer assetId source target amount) =
      some (after, response)) :
    Step config ledger (.transfer assetId source target amount) response after := by
  simp only [call, onFirst_run, transfer] at called
  rcases LedgerOps.transfer_cases (reports config ledger) assetId source target amount with
    ⟨error, -, rejects, thrown⟩ | ⟨-, undefined⟩ |
    ⟨asset, balanceFrom, balanceTo, accepts, continues⟩
  · rw [thrown] at called
    obtain ⟨rfl, rfl⟩ := Prod.mk.inj (Option.some.inj called)
    refine .refused _ _ _ fun _ _ _ _ same debits => ?_
    obtain ⟨⟨asset, balanceFrom, balanceTo, accepts⟩, -⟩ := debits
    cases same
    exact rejects asset balanceFrom balanceTo accepts
  · rw [undefined] at called
    contradiction
  · obtain ⟨sender, sent⟩ := view_member accepts.sender
    rw [continues] at called
    rcases write_then store accepts.registered sent (amountCheckedSub balanceFrom amount).1
      (fun _ => setAccountAssetBalance config assetId target
        (amountCheckedAdd balanceTo amount).1) with
      ⟨full, thrown⟩ | ⟨room, written⟩ | ⟨-, undefined⟩
    · simp only [ops, thrown] at called
      obtain ⟨rfl, rfl⟩ := Prod.mk.inj (Option.some.inj called)
      refine .refused _ _ _ fun _ _ _ _ same debits => ?_
      cases same
      exact debits.2 full
    · have kept := store.written room accepts.registered sent
        (amountCheckedSub balanceFrom amount).1
      have still := (congrArg (Finmap.lookup assetId) (sameRegistry_written config
        (assetId, source) sent asset (amountCheckedSub balanceFrom amount).1).assets).trans
          accepts.registered
      obtain ⟨receiver, received⟩ := owner_written config assetId sent
        (view_member accepts.receiver) asset (amountCheckedSub balanceFrom amount).1
      simp only [ops, written] at called
      rcases setAccountAssetBalance_run kept still received (amountCheckedAdd balanceTo amount).1
        with ⟨full, thrown⟩ | ⟨roomy, credited⟩ | ⟨-, undefined⟩
      · rw [thrown] at called
        obtain ⟨rfl, rfl⟩ := Prod.mk.inj (Option.some.inj called)
        exact .stranded accepts sent room rfl full
      · rw [credited] at called
        obtain ⟨rfl, rfl⟩ := Prod.mk.inj (Option.some.inj called)
        exact .transfer accepts sent room rfl received roomy
      · rw [undefined] at called
        contradiction
    · simp only [ops, undefined] at called
      contradiction

/-- Every call with a defined end is a step. -/
theorem call_step (sound : ledger.Sound config) {request : Call}
    (called : ledger.call config request = some (after, response)) :
    Step config ledger request response after := by
  cases request with
  | retrieveAsset args operation =>
    have ensures := retrieveAsset_ensures config sound.registry operation args
    rcases settle_ensures ensures called with ⟨answer, result, rfl⟩ | ⟨error, answer, kept, rfl⟩
    · exact .asset result
    · obtain rfl : after = ledger := kept
      exact .refused _ _ _ (by simp)
  | retrieveAccount args operation =>
    have ensures := retrieveAccount_ensures config sound.registry operation args
    rcases settle_ensures ensures called with ⟨answer, result, rfl⟩ | ⟨error, answer, kept, rfl⟩
    · exact .account result
    · obtain rfl : after = ledger := kept
      exact .refused _ _ _ (by simp)
  | getBalance assetId accountId asked info =>
    simp only [call, getAccountAssetBalance, bind_run, read_run] at called
    cases asked with
    | none =>
      obtain ⟨rfl, rfl⟩ := Prod.mk.inj (Option.some.inj called)
      exact .balance assetId accountId none _ info _
    | some old =>
      cases readable : ledger.balanceOf assetId accountId with
      | none => simp [readable, settle] at called
      | some found =>
        simp [readable, settle] at called
        obtain ⟨rfl, rfl⟩ := called
        exact .balance assetId accountId (some old) _ info _
  | deposit assetId accountId amount => exact deposit_step sound.store called
  | withdraw assetId accountId amount => exact withdraw_step sound.store called
  | transfer assetId source target amount => exact transfer_step sound.store called
  | clear =>
    obtain ⟨rfl, rfl⟩ := Prod.mk.inj (Option.some.inj called)
    exact .clear

end Calling

end Memory

end Libcma

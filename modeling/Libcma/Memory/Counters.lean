import Libcma.Memory.Codes
import Libcma.Memory.Runs

/-!
# The counts of the balance store

An account counts its entries, the two key lists hold the keys of the entry map between them, and
no count is lowered from zero. For the last, the statement `n_balances--` is made a parameter of
the two removals that contain it and of everything that leads to them: `lowering` is the statement
of the source, `watched` stops with a report when the count is zero. On a ledger whose store is
consistent both run alike.
-/

namespace Libcma

open Exec

namespace Memory

/-- `n_balances--` as it stands. -/
def lowering (count : ℕ) : Exec CmaException Memory ℕ := pure (decrement count)

/-- The report of a count that is lowered from zero; its code is none of the library's. -/
def loweredFromZero : CmaException := ⟨"n_balances lowered from zero", 1⟩

/-- `n_balances--`, watched. -/
def watched (count : ℕ) : Exec CmaException Memory ℕ := do
  refuseIf (count = 0) loweredFromZero
  pure (decrement count)

section Lower

variable (lower : ℕ → Exec CmaException Memory ℕ)

/-- `removeVirtual`, with the count lowered in a given way. -/
def removeVirtualBy (key : MapKey) (pointer : VirtualPtr) : Exec CmaException Memory Unit := do
  let ledger ← read
  let owner ← orRaise (ledger.laccidToAccount.lookup key.2)
    ⟨"Account by id not found", errorAccountNotFound⟩
  if 1 < ledger.accountAssetBalance.size then moveLastVirtual key pointer
  let nBalances ← lower owner.nBalances
  update fun ledger => { ledger with
    laccidToAccount := ledger.laccidToAccount.insert key.2 { owner with nBalances := nBalances } }
  let keys ← orUndefined (popBack (← read).lastVirtualBalances)
  let elems ← orUndefined (popBack (← read).virtualBalances.elems)
  update fun ledger => { ledger with
    lastVirtualBalances := keys
    virtualBalances := { ledger.virtualBalances with elems := elems } }
  eraseBalance key "Coundn't erase virtual balance"

/-- `removeWithdrawable`, with the count lowered in a given way. -/
def removeWithdrawableBy (key : MapKey) (slot : ℕ) : Exec CmaException Memory Unit := do
  let ledger ← read
  let owner ← orRaise (ledger.laccidToAccount.lookup key.2)
    ⟨"Account by id not found", errorAccountNotFound⟩
  if 1 < ledger.accountAssetBalance.size then moveLastWithdrawable key slot
  else storeRecord slot fun _ => .zero
  let nBalances ← lower owner.nBalances
  update fun ledger => { ledger with
    laccidToAccount := ledger.laccidToAccount.insert key.2 { owner with nBalances := nBalances } }
  let keys ← orUndefined (popBack (← read).lastBalances)
  update fun ledger => { ledger with lastBalances := keys }
  eraseBalance key "Coundn't erase balance"

/-- `updateBalance`, with the count lowered in a given way. -/
def updateBalanceBy (key : MapKey) (entry : Balance) (balance : Amount) :
    Exec CmaException Memory Unit :=
  match entry with
  | .virtual pointer => do
    storeVirtual pointer balance
    if isZero balance then removeVirtualBy lower key pointer
  | .withdrawable slot => do
    storeRecord slot fun record => { record with amount := balance }
    if isZero balance then removeWithdrawableBy lower key slot

/-- `set_account_asset_balance`, with the count lowered in a given way. -/
def setAccountAssetBalanceBy (config : Config) (assetId : AssetId) (accountId : AccountId)
    (balance : Amount) : Exec CmaException Memory Unit := do
  match (← read).accountAssetBalance.lookup (assetId, accountId) with
  | none => createBalance config (assetId, accountId) balance
  | some entry => updateBalanceBy lower (assetId, accountId) entry balance

/-- The virtual methods, with the count lowered in a given way. -/
def opsBy (config : Config) : LedgerOps Memory :=
  { ops config with setAccountAssetBalance := setAccountAssetBalanceBy lower config }

/-- A call, with the count lowered in a given way. -/
def callBy (config : Config) (ledger : Memory) : Call → Option (Memory × Response)
  | .deposit assetId toAccountId amount =>
    settle (fun _ => .nothing)
      ((onFirst ((opsBy lower config).deposit assetId toAccountId amount)).run (ledger, ()))
  | .withdraw assetId fromAccountId amount =>
    settle (fun _ => .nothing)
      ((onFirst ((opsBy lower config).withdraw assetId fromAccountId amount)).run (ledger, ()))
  | .transfer assetId fromAccountId toAccountId amount =>
    settle (fun _ => .nothing)
      ((onFirst ((opsBy lower config).transfer assetId fromAccountId toAccountId amount)).run
        (ledger, ()))
  | request => ledger.call config request

end Lower

section Lowering

/-- Removing a virtual balance lowers the count as it stands. -/
theorem removeVirtualBy_lowering (key : MapKey) (pointer : VirtualPtr) :
    removeVirtualBy lowering key pointer = removeVirtual key pointer := rfl

/-- Removing a withdrawable balance lowers the count as it stands. -/
theorem removeWithdrawableBy_lowering (key : MapKey) (slot : ℕ) :
    removeWithdrawableBy lowering key slot = removeWithdrawable key slot := rfl

/-- A write through an entry lowers the count as it stands. -/
theorem updateBalanceBy_lowering : updateBalanceBy lowering = updateBalance := by
  funext key entry balance
  cases entry with
  | virtual pointer => rfl
  | withdrawable slot => rfl

/-- A balance write lowers the count as it stands. -/
theorem setAccountAssetBalanceBy_lowering (config : Config) :
    setAccountAssetBalanceBy lowering config = setAccountAssetBalance config := by
  funext assetId accountId balance
  unfold setAccountAssetBalanceBy
  rw [updateBalanceBy_lowering]
  rfl

/-- A call lowers the count as it stands. -/
theorem callBy_lowering (config : Config) (ledger : Memory) (request : Call) :
    ledger.callBy lowering config request = ledger.call config request := by
  have same : opsBy lowering config = ops config := by
    unfold opsBy
    rw [setAccountAssetBalanceBy_lowering]
    rfl
  cases request <;> simp only [callBy, same] <;> rfl

end Lowering

section Watched

variable {config : Config} {ledger : Memory} {key : MapKey}

/-- The account of a pair has a count to lower. -/
def Lowerable (ledger : Memory) (key : MapKey) : Prop :=
  ∀ owner, ledger.laccidToAccount.lookup key.2 = some owner → 0 < owner.nBalances

/-- A count that is not zero is lowered without a report. -/
theorem watched_eq {count : ℕ} (positive : 0 < count) : watched count = lowering count := by
  have occupied : ¬count = 0 := by omega
  unfold watched refuseIf
  rw [if_neg occupied]
  rfl

/-- Removing a virtual balance of an account with a count to lower. -/
theorem removeVirtualBy_watched (lowerable : ledger.Lowerable key) (pointer : VirtualPtr) :
    (removeVirtualBy watched key pointer).run ledger = (removeVirtual key pointer).run ledger := by
  rw [← removeVirtualBy_lowering]
  unfold removeVirtualBy
  cases member : ledger.laccidToAccount.lookup key.2 with
  | none => simp only [bind_run, read_run, Outcome.andThen_ok, member, orRaise_none, raise_run,
      Outcome.andThen_throw]
  | some owner =>
    have same := watched_eq (lowerable owner member)
    simp only [bind_run, read_run, Outcome.andThen_ok, member, orRaise_some, pure_run, same]

/-- Removing a withdrawable balance of an account with a count to lower. -/
theorem removeWithdrawableBy_watched (lowerable : ledger.Lowerable key) (slot : ℕ) :
    (removeWithdrawableBy watched key slot).run ledger =
      (removeWithdrawable key slot).run ledger := by
  rw [← removeWithdrawableBy_lowering]
  unfold removeWithdrawableBy
  cases member : ledger.laccidToAccount.lookup key.2 with
  | none => simp only [bind_run, read_run, Outcome.andThen_ok, member, orRaise_none, raise_run,
      Outcome.andThen_throw]
  | some owner =>
    have same := watched_eq (lowerable owner member)
    simp only [bind_run, read_run, Outcome.andThen_ok, member, orRaise_some, pure_run, same]

/-- Writing through a pointer leads to the overwritten ledger. -/
theorem storeVirtual_leads {pointer : VirtualPtr} {balance : Amount} {value : Unit}
    {reached : Memory} (leads : (storeVirtual pointer balance).run ledger = .ok value reached) :
    reached = ledger.overwrite (.virtual pointer) balance := by
  unfold storeVirtual at leads
  rw [bind_run, read_run, Outcome.andThen_ok, bind_run] at leads
  cases there : ledger.virtualBalances.get? pointer with
  | none =>
    rw [there] at leads
    cases leads
  | some amount =>
    rw [there] at leads
    cases leads
    rfl

/-- A write through an entry of an account with a count to lower. -/
theorem updateBalanceBy_watched (lowerable : ledger.Lowerable key) (entry : Balance)
    (balance : Amount) :
    (updateBalanceBy watched key entry balance).run ledger =
      (updateBalance key entry balance).run ledger := by
  have overwritten : (ledger.overwrite entry balance).Lowerable key := by
    unfold Lowerable
    rw [accounts_overwrite]
    exact lowerable
  by_cases zero : isZero balance = true
  · cases entry with
    | virtual pointer =>
      simp only [updateBalanceBy, updateBalance, zero, ↓reduceIte]
      apply bind_run_congr
      intro value reached leads
      rw [storeVirtual_leads leads]
      exact removeVirtualBy_watched overwritten pointer
    | withdrawable slot =>
      simp only [updateBalanceBy, updateBalance, zero, ↓reduceIte]
      exact removeWithdrawableBy_watched overwritten slot
  · cases entry with
    | virtual pointer => simp only [updateBalanceBy, updateBalance, zero, Bool.false_eq_true,
        ↓reduceIte]
    | withdrawable slot => simp only [updateBalanceBy, updateBalance, zero, Bool.false_eq_true,
        ↓reduceIte]

/-- A balance write on a consistent store lowers no count from zero. -/
theorem setAccountAssetBalanceBy_watched (store : ledger.Store config) (assetId : AssetId)
    (accountId : AccountId) (balance : Amount) :
    (setAccountAssetBalanceBy watched config assetId accountId balance).run ledger =
      (setAccountAssetBalance config assetId accountId balance).run ledger := by
  unfold setAccountAssetBalanceBy setAccountAssetBalance
  rw [bind_run, bind_run, read_run, Outcome.andThen_ok, Outcome.andThen_ok]
  cases found : ledger.accountAssetBalance.lookup (assetId, accountId) with
  | none => rfl
  | some entry =>
    have lowerable : ledger.Lowerable (assetId, accountId) := fun owner member =>
      store.counts_positive found member
    exact updateBalanceBy_watched lowerable entry balance

/-- What follows a balance write on a consistent store. -/
theorem writeBy_watched {next other : Unit → Exec CmaException Memory Unit}
    (store : ledger.Store config) (assetId : AssetId) (accountId : AccountId) (balance : Amount)
    (alike : ∀ value reached,
      (setAccountAssetBalance config assetId accountId balance).run ledger = .ok value reached →
      (next value).run reached = (other value).run reached) :
    (setAccountAssetBalanceBy watched config assetId accountId balance >>= next).run ledger =
      (setAccountAssetBalance config assetId accountId balance >>= other).run ledger := by
  rw [bind_run, setAccountAssetBalanceBy_watched store assetId accountId balance]
  exact bind_run_congr alike

/-- A deposit on a consistent store lowers no count from zero. -/
theorem depositBy_watched (store : ledger.Store config) (assetId : AssetId)
    (accountId : AccountId) (amount : Amount) :
    ((opsBy watched config).deposit assetId accountId amount).run ledger =
      (deposit config assetId accountId amount).run ledger := by
  apply bind_run_congr
  intro written reached leads
  have same := (reports config ledger).depositChecks assetId accountId amount
  obtain ⟨seen, -, rfl⟩ := Outcome.mapState_eq_ok (same.symm.trans leads)
  exact writeBy_watched store assetId accountId written.1 fun _ _ _ => rfl

/-- A withdrawal on a consistent store lowers no count from zero. -/
theorem withdrawBy_watched (store : ledger.Store config) (assetId : AssetId)
    (accountId : AccountId) (amount : Amount) :
    ((opsBy watched config).withdraw assetId accountId amount).run ledger =
      (withdraw config assetId accountId amount).run ledger := by
  apply bind_run_congr
  intro written reached leads
  have same := (reports config ledger).withdrawChecks assetId accountId amount
  obtain ⟨seen, -, rfl⟩ := Outcome.mapState_eq_ok (same.symm.trans leads)
  exact writeBy_watched store assetId accountId written.1 fun _ _ _ => rfl

/-- A transfer on a consistent store lowers no count from zero: its first write leaves the store
consistent for the second. -/
theorem transferBy_watched (store : ledger.Store config) (assetId : AssetId)
    (source target : AccountId) (amount : Amount) :
    ((opsBy watched config).transfer assetId source target amount).run ledger =
      (transfer config assetId source target amount).run ledger := by
  apply bind_run_congr
  intro written reached leads
  have same := (reports config ledger).transferChecks assetId source target amount
  obtain ⟨seen, returned, rfl⟩ := Outcome.mapState_eq_ok (same.symm.trans leads)
  have decided := ledger.view.transferChecks_decides assetId source target amount
  rw [returned] at decided
  obtain ⟨-, asset, balanceFrom, balanceTo, accepts, -⟩ := decided
  obtain ⟨owner, member⟩ := view_member accepts.sender
  apply writeBy_watched store assetId source written.1
  intro value after debited
  rcases setAccountAssetBalance_run store accepts.registered member written.1 with
    ⟨-, thrown⟩ | ⟨room, wrote⟩ | ⟨-, undefined⟩
  · rw [thrown] at debited
    cases debited
  · rw [wrote] at debited
    cases debited
    have kept := store.written room accepts.registered member written.1
    exact setAccountAssetBalanceBy_watched kept assetId target written.2
  · rw [undefined] at debited
    cases debited

/-- A call on a consistent store lowers no count from zero. -/
theorem callBy_watched (store : ledger.Store config) (request : Call) :
    ledger.callBy watched config request = ledger.call config request := by
  cases request with
  | retrieveAsset args operation => rfl
  | retrieveAccount args operation => rfl
  | getBalance assetId accountId balance info => rfl
  | deposit assetId accountId amount =>
    simp only [callBy, call, onFirst_run, depositBy_watched store]
  | withdraw assetId accountId amount =>
    simp only [callBy, call, onFirst_run, withdrawBy_watched store]
  | transfer assetId source target amount =>
    simp only [callBy, call, onFirst_run, transferBy_watched store]
  | clear => rfl

end Watched

/-- The bookkeeping of the balance store agrees with its entry map. -/
structure CountsAgree (config : Config) (ledger : Memory) : Prop where
  /-- An account counts the assets it has an entry for. -/
  counted : ∀ accountId owner, ledger.laccidToAccount.lookup accountId = some owner →
    owner.nBalances = {assetId | (assetId, accountId) ∈ ledger.accountAssetBalance.keys}.ncard
  /-- The account of an entry is registered. -/
  owned : ∀ assetId accountId, (assetId, accountId) ∈ ledger.accountAssetBalance.keys →
    accountId ∈ ledger.laccidToAccount.keys
  /-- The two key lists together are as long as there are entries. -/
  listed : ledger.lastBalances.length + ledger.lastVirtualBalances.length =
    ledger.accountAssetBalance.size
  /-- There are no more entries than allowed. -/
  limited : ledger.accountAssetBalance.size ≤ config.maxBalances
  /-- No call lowers a count from zero: watching makes no difference and reports nothing. -/
  unreported : ∀ request, ledger.callBy watched config request = ledger.call config request ∧
    ∀ after response, ledger.callBy watched config request = some (after, response) →
      response.error ≠ some loweredFromZero

/-- In every reachable ledger the bookkeeping of the balance store agrees. -/
theorem countsAgree_of_reachable (config : Config) (region : ℕ → AccountBalance)
    (ledger : Memory) (reachable : Reachable config region AnyCall ledger) :
    ledger.CountsAgree config := by
  have store := reachable.sound.store
  constructor
  · intro accountId owner member
    rw [store.counted accountId owner member]
    exact Finmap.countKeys_second ledger.accountAssetBalance accountId
  · intro assetId accountId present
    obtain ⟨entry, found⟩ := (Finmap.mem_keys_iff _ _).mp present
    exact (Finmap.mem_keys_iff _ _).mpr (store.owned (assetId, accountId) entry found)
  · exact store.size_eq.symm
  · exact store.limited
  · intro request
    have same := callBy_watched store request
    constructor
    · exact same
    · intro after response called reported
      have negative := call_negative (same.symm.trans called) reported
      have code : (1 : Int) < 0 := negative
      omega

/-- The bookkeeping of a ledger with one entry. -/
theorem countsAgree_single : ∃ ledger, Reachable singleBalance (fun _ => .zero) AnyCall ledger ∧
    ledger.accountAssetBalance.size = 1 ∧ ledger.CountsAgree singleBalance := by
  obtain ⟨ledger, reachable, single⟩ := exists_reachable singleBalance (fun _ => .zero)
    [retrieveToken .create, createWallet, .deposit 0 0 oneAmount]
    (fun ledger => ledger.accountAssetBalance.size) 1 (by decide +kernel)
  exact ⟨ledger, reachable, single, countsAgree_of_reachable _ _ ledger reachable⟩

end Memory

end Libcma

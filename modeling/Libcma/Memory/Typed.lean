import Libcma.Memory.Layout

/-!
# Records in use have a type

The reader of the drive tells a record that is in use by its type, which is not zero. After any
run, and over any region, every record in use has one.
-/

namespace Libcma

namespace Memory

/-- The records in use have a type. -/
def RecordsTyped (ledger : Memory) : Prop :=
  ∀ slot, slot < ledger.lastBalances.length → (ledger.balances slot).type ≠ 0

variable {config : Config} {region : ℕ → AccountBalance} {ledger after : Memory} {key : MapKey}
  {entry : Balance} {asset : Asset} {owner : AccountStruct} {balance : Amount}

/-- Only the type `id` has the value zero. -/
theorem code_ne_zero {type : AssetType} (other : type ≠ .id) : type.code ≠ 0 := by
  cases type with
  | id => exact absurd rfl other
  | _ => decide

/-- A filled record has the type of its asset. -/
theorem fillRecord_type (asset : Asset) (account : Account) (balance : Amount)
    (record : AccountBalance) :
    (fillRecord asset account balance record).type = asset.type.code := by
  unfold fillRecord
  split <;> rfl

/-- Opening an entry gives its record a type. -/
theorem RecordsTyped.opened (typed : ledger.RecordsTyped) (config : Config) (key : MapKey)
    (asset : Asset) (owner : AccountStruct) (balance : Amount) :
    (ledger.opened config key asset owner balance).RecordsTyped := by
  intro slot inUse
  unfold Memory.opened at inUse ⊢
  by_cases called : withdrawable asset owner.account
  · rw [if_pos called, openWithdrawable, List.length_append, List.length_singleton] at inUse
    rw [if_pos called]
    simp only [openWithdrawable]
    by_cases new : slot = ledger.lastBalances.length
    · rw [if_pos new, fillRecord_type]
      exact code_ne_zero called.1
    · rw [if_neg new]
      exact typed slot (by omega)
  · rw [if_neg called] at inUse ⊢
    exact typed slot inUse

/-- A new amount leaves the type. -/
theorem RecordsTyped.overwrite (typed : ledger.RecordsTyped) (entry : Balance) (balance : Amount) :
    (ledger.overwrite entry balance).RecordsTyped := by
  intro slot inUse
  cases entry with
  | virtual pointer => exact typed slot inUse
  | withdrawable place =>
    have type := typed slot inUse
    simp only [Memory.overwrite]
    by_cases here : slot = place
    · rw [if_pos here, ← here]
      exact type
    · rw [if_neg here]
      exact type

/-- Closing an entry moves a record that is in use. -/
theorem RecordsTyped.close (typed : ledger.RecordsTyped) (key : MapKey) (entry : Balance)
    (owner : AccountStruct) : (ledger.close key entry owner).RecordsTyped := by
  intro slot inUse
  cases entry with
  | virtual pointer => exact typed slot inUse
  | withdrawable place =>
    have length : (ledger.closeWithdrawable key place owner).lastBalances.length =
        ledger.lastBalances.length - 1 := by
      simp [closeWithdrawable, Slots.swapRemove]
    have inside : slot < ledger.lastBalances.length - 1 := by
      rw [← length]
      exact inUse
    simp only [Memory.close, closeWithdrawable]
    rw [if_neg (by omega)]
    by_cases here : slot = place
    · rw [if_pos here]
      exact typed (ledger.lastBalances.length - 1) (by omega)
    · rw [if_neg here]
      exact typed slot (by omega)

/-- A write leaves types. -/
theorem RecordsTyped.written (typed : ledger.RecordsTyped) (config : Config) (key : MapKey)
    (asset : Asset) (owner : AccountStruct) (balance : Amount) :
    (ledger.written config key asset owner balance).RecordsTyped := by
  unfold Memory.written
  cases ledger.accountAssetBalance.lookup key with
  | none => exact typed.opened config key asset owner balance
  | some entry =>
    dsimp only
    split
    · exact (typed.overwrite entry balance).close key entry owner
    · exact typed.overwrite entry balance

/-- Every step leaves types. -/
theorem Step.recordsTyped {request : Call} {response : Response}
    (step : Step config ledger request response after) (typed : ledger.RecordsTyped) :
    after.RecordsTyped := by
  cases step with
  | refused => exact typed
  | asset result => cases result <;> exact typed
  | account result => cases result <;> exact typed
  | balance => exact typed
  | deposit => exact typed.written config _ _ _ _
  | withdraw => exact typed.written config _ _ _ _
  | transfer accepts sent room debit received still =>
    subst debit
    exact (typed.written config _ _ _ _).written config _ _ _ _
  | stranded accepts sent room debit =>
    subst debit
    exact typed.written config _ _ _ _
  | clear => exact fun slot inUse => absurd inUse (Nat.not_lt_zero slot)

/-- After any run, the records in use have a type. -/
theorem Reachable.recordsTyped (reachable : Reachable config region AnyCall ledger) :
    ledger.RecordsTyped := by
  apply reachable.kept RecordsTyped
  · exact fun slot inUse => absurd inUse (Nat.not_lt_zero slot)
  · exact fun _ _ _ _ step _ typed _ => step.recordsTyped typed

end Memory

end Libcma

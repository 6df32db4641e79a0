import Libcma.Ledger.BasicConservation
import Libcma.Memory.Runs

/-!
# Failed calls

A call that fails leaves a basic ledger as it was. It leaves a memory ledger as it was exactly when
it is not a transfer whose credit finds the table of balances full after its debit was written.
-/

namespace Libcma

namespace Memory

/-- A transfer of nothing between two accounts without an entry, with room for one more entry: the
sender's takes it. -/
def HalfOpens (config : Config) (ledger : Memory) (assetId : AssetId) (source target : AccountId)
    (amount : Amount) : Prop :=
  (∃ asset balanceFrom balanceTo, ledger.view.AcceptsTransfer assetId source target amount asset
    balanceFrom balanceTo) ∧
  ledger.accountAssetBalance.lookup (assetId, source) = none ∧
  ledger.accountAssetBalance.lookup (assetId, target) = none ∧
  ledger.accountAssetBalance.size + 1 = config.maxBalances

/-- The call is a transfer that fails halfway. -/
def Halves (config : Config) (ledger : Memory) (request : Call) : Prop :=
  ∃ assetId source target amount, request = .transfer assetId source target amount ∧
    (ledger.Strands config assetId source target amount ∨
      ledger.HalfOpens config assetId source target amount)

variable {config : Config} {ledger after : Memory} {assetId : AssetId}
  {source target : AccountId} {asset : Asset} {owner : AccountStruct}
  {balance balanceFrom balanceTo amount : Amount}

/-- Overwriting an entry that can be read with what it holds changes nothing. -/
theorem overwrite_same {entry : Balance}
    (found : ledger.accountAssetBalance.lookup (assetId, source) = some entry)
    (held : ledger.view.balance assetId source = some balance) :
    ledger.overwrite entry balance = ledger := by
  change ledger.balanceOf assetId source = some balance at held
  rw [balanceOf, found] at held
  cases entry with
  | virtual pointer =>
    simp only [load, VirtualBalances.get?] at held
    split at held
    · obtain ⟨inside, same⟩ := List.getElem?_eq_some_iff.mp held
      simp only [overwrite, ← same, List.set_getElem_self]
    · contradiction
  | withdrawable slot =>
    have same := Option.some.inj held
    simp only [overwrite, ← same]
    congr
    funext other
    split
    · rw [‹other = slot›]
    · rfl

/-- A debit of nothing from an entry that is not empty changes nothing. -/
theorem written_nothing
    (accepts : ledger.view.AcceptsTransfer assetId source target amount asset balanceFrom
      balanceTo)
    (present : ledger.accountAssetBalance.lookup (assetId, source) ≠ none)
    (left : ¬isZero (amountCheckedSub balanceFrom amount).1 = true) (nothing : amount.toNat = 0) :
    ledger.written config (assetId, source) asset owner (amountCheckedSub balanceFrom amount).1 =
      ledger := by
  have same : (amountCheckedSub balanceFrom amount).1 = balanceFrom := by
    rw [← List.Vector.toNat_inj, amountCheckedSub_toNat accepts.enough, nothing, Nat.sub_zero]
  obtain ⟨entry, found⟩ := Option.ne_none_iff_exists'.mp present
  rw [same] at left ⊢
  simp only [written, found, if_neg left, overwrite_same found accepts.heldFrom]

/-- A debit that is made before the credit is refused changes nothing, strands what it moves, or
opens an entry. -/
theorem halves_of_full (store : ledger.Store config)
    (accepts : ledger.view.AcceptsTransfer assetId source target amount asset balanceFrom
      balanceTo)
    (room : ¬ledger.Full config (assetId, source))
    (full : (ledger.written config (assetId, source) asset owner
      (amountCheckedSub balanceFrom amount).1).Full config (assetId, target)) :
    ledger.written config (assetId, source) asset owner (amountCheckedSub balanceFrom amount).1 =
        ledger ∨
      ledger.Strands config assetId source target amount ∨
        ledger.HalfOpens config assetId source target amount := by
  by_cases nothing : amount.toNat = 0
  · obtain ⟨absent, crowded⟩ := full_written store accepts.different full
    have limited := store.limited
    by_cases present : ledger.accountAssetBalance.lookup (assetId, source) = none
    · have roomy := mt (And.intro present) room
      rw [if_pos present] at crowded
      exact .inr (.inr ⟨⟨asset, balanceFrom, balanceTo, accepts⟩, present, absent, by omega⟩)
    · left
      obtain ⟨entry, found⟩ := Option.ne_none_iff_exists'.mp present
      have occupied := Finmap.size_pos found
      rw [if_neg present] at crowded
      refine written_nothing accepts present (fun zero => ?_) nothing
      rw [if_pos zero] at crowded
      omega
  · exact .inr (.inl (strands_of_full store accepts full nothing))

/-- A transfer that fails halfway makes its debit. -/
theorem debits_of_halves (halves : ledger.Strands config assetId source target amount ∨
      ledger.HalfOpens config assetId source target amount) :
    ledger.Debits config assetId source target amount := by
  rcases halves with ⟨⟨asset, balanceFrom, balanceTo, accepts, -⟩, positive, -⟩ |
    ⟨accepts, absent, -, room⟩
  · have enough := accepts.enough
    refine ⟨⟨asset, balanceFrom, balanceTo, accepts⟩, fun full => ?_⟩
    exact held_present accepts.heldFrom (by omega) full.1
  · exact ⟨accepts, fun full => by have crowded := full.2; omega⟩

/-- Its credit then finds the table full, and the ledger is not what it was. -/
theorem changed_of_halves (store : ledger.Store config)
    (accepts : ledger.view.AcceptsTransfer assetId source target amount asset balanceFrom
      balanceTo)
    (halves : ledger.Strands config assetId source target amount ∨
      ledger.HalfOpens config assetId source target amount) :
    let debited := ledger.written config (assetId, source) asset owner
      (amountCheckedSub balanceFrom amount).1
    debited.Full config (assetId, target) ∧ debited ≠ ledger := by
  intro debited
  have kinds := kind_written store (assetId, source) asset owner
    (amountCheckedSub balanceFrom amount).1 (assetId, target)
  rw [if_neg fun pair => accepts.different (Prod.mk.inj pair).2.symm] at kinds
  have size := size_written store (assetId, source) asset owner
    (amountCheckedSub balanceFrom amount).1
  rcases halves with ⟨⟨_, otherFrom, _, other, short⟩, positive, absent, crowded⟩ |
    ⟨-, fresh, absent, room⟩
  · obtain rfl : balanceFrom = otherFrom :=
      Option.some.inj (accepts.heldFrom.symm.trans other.heldFrom)
    have enough := accepts.enough
    have present := held_present accepts.heldFrom (by omega)
    have left : ¬isZero (amountCheckedSub balanceFrom amount).1 = true := by
      rw [isZero_iff, amountCheckedSub_toNat enough]
      omega
    rw [if_neg present, if_neg left] at size
    refine ⟨⟨kind_eq_none.mp (kinds.trans (kind_eq_none.mpr absent)), size ▸ crowded⟩, ?_⟩
    intro same
    have stored := stored_written store (assetId, source) asset owner
      (amountCheckedSub balanceFrom amount).1 (assetId, source)
    rw [if_pos rfl, show ledger.written config (assetId, source) asset owner _ = ledger from same,
      show ledger.stored (assetId, source) = balanceFrom from balanceOf_eq accepts.heldFrom,
      ← List.Vector.toNat_inj, amountCheckedSub_toNat enough] at stored
    omega
  · rw [if_pos fresh] at size
    refine ⟨⟨kind_eq_none.mp (kinds.trans (kind_eq_none.mpr absent)),
      size ▸ Nat.le_of_eq room.symm⟩, fun same => ?_⟩
    rw [show ledger.written config (assetId, source) asset owner _ = ledger from same] at size
    omega

/-- A call that fails in a reachable state leaves it as it was. -/
def Atomic {σ : Type} (step : σ → Call → Option (σ × Response)) (reachable : σ → Prop) : Prop :=
  ∀ state, reachable state → ∀ request after response, step state request = some (after, response) →
    response.error ≠ none → after = state

/-- A failed call of a basic ledger changes nothing; a failed call of a memory ledger changes
something exactly when it is a transfer that fails halfway. -/
theorem failed_iff_unchanged (config : Config) (region : ℕ → AccountBalance) :
    Atomic Basic.call Basic.Reachable ∧
    ∀ ledger, Reachable config region AnyCall ledger → ∀ request after response,
      ledger.call config request = some (after, response) →
      ((response.error ≠ none → after = ledger) ↔ ¬ledger.Halves config request) := by
  refine ⟨fun ledger reachable request after response called failed => ?basic,
    fun ledger reachable request after response called => ⟨?changed, ?kept⟩⟩
  case basic =>
    cases Basic.call_step reachable.sound called <;> first | rfl | exact absurd rfl failed
  case changed =>
    rintro unchanged ⟨assetId, source, target, amount, rfl, halves⟩
    have sound := reachable.sound
    cases call_step sound called with
    | refused _ _ _ idle => exact idle _ _ _ _ rfl (debits_of_halves halves)
    | transfer accepts sent room debit received still =>
      subst debit
      exact still (changed_of_halves sound.store accepts halves).1
    | stranded accepts sent room debit full =>
      subst debit
      exact (changed_of_halves sound.store accepts halves).2 (unchanged (by simp))
  case kept =>
    intro whole failed
    cases call_step reachable.sound called with
    | stranded accepts sent room debit full =>
      subst debit
      rcases halves_of_full reachable.sound.store accepts room full with same | halves
      · exact same
      · exact absurd ⟨_, _, _, _, rfl, halves⟩ whole
    | refused => rfl
    | _ => exact absurd rfl failed

/-- With room for one balance, a deposit to the account that has none fails and changes nothing. -/
theorem failed_deposit_unchanged : ∃ ledger after response,
    Reachable singleBalance (fun _ => .zero) AnyCall ledger ∧ (ledger.amount 0 0).toNat = 2 ∧
      ledger.call singleBalance (.deposit 0 1 oneAmount) = some (after, response) ∧
      response.error ≠ none ∧ after = ledger := by
  obtain ⟨ledger, reachable, facts⟩ := exists_reachable singleBalance (fun _ => .zero) twoAccounts
    (fun ledger => ((ledger.amount 0 0).toNat,
      (ledger.call singleBalance (.deposit 0 1 oneAmount)).map fun answer =>
        answer.2.error.isSome)) (2, some true) (by decide +kernel)
  simp only [Prod.mk.injEq, Option.map_eq_some_iff] at facts
  obtain ⟨two, ⟨after, response⟩, called, failed⟩ := facts
  have raised := Option.isSome_iff_ne_none.mp failed
  refine ⟨ledger, after, response, reachable, two, called, raised,
    ((failed_iff_unchanged singleBalance fun _ => .zero).2 ledger reachable _ after response
      called).mpr ?_ raised⟩
  rintro ⟨_, _, _, _, transfer, -⟩
  cases transfer

/-- With room for one balance, a transfer between two accounts fails with its debit written. -/
theorem transfer_not_atomic :
    ¬(Atomic Basic.call Basic.Reachable ∧
      ∀ config region, Atomic (fun state request => call config state request)
        (Reachable config region AnyCall)) := by
  rintro ⟨-, always⟩
  obtain ⟨ledger, reachable, facts⟩ := exists_reachable singleBalance (fun _ => .zero) twoAccounts
    (fun ledger => ((ledger.amount 0 0).toNat, (ledger.call singleBalance sendOne).map fun answer =>
      (answer.2.error.isSome, (answer.1.amount 0 0).toNat))) (2, some (true, 1))
    (by decide +kernel)
  simp only [Prod.mk.injEq, Option.map_eq_some_iff] at facts
  obtain ⟨two, ⟨after, response⟩, called, failed, one⟩ := facts
  have same := always _ _ ledger reachable sendOne after response called
    (Option.isSome_iff_ne_none.mp failed)
  rw [same, two] at one
  exact absurd one (by decide)

end Memory

end Libcma

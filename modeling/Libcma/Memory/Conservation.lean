import Libcma.Memory.Runs

/-!
# Conservation in the memory ledger

The supply of an asset is the sum of the balances reported of it, in every run whose transfers
strand nothing and whose calls stay within the reserve.
-/

namespace Libcma

namespace Memory

/-- The supply of every registered asset is the sum of the balances reported of it. -/
def Conserved (config : Config) (ledger : Memory) : Prop :=
  ∀ assetId asset, ledger.lassidToAsset.lookup assetId = some asset →
    ∃ balance : AccountId → Amount,
      (∀ accountId, ledger.Reported config assetId accountId (balance accountId)) ∧
      (∀ accountId, accountId ∉ ledger.laccidToAccount.keys → (balance accountId).toNat = 0) ∧
      asset.supply.toNat = ∑ accountId ∈ ledger.laccidToAccount.keys, (balance accountId).toNat

/-- The call strands nothing and stays within the reserve. -/
def Sparing (config : Config) (ledger : Memory) (request : Call) : Prop :=
  ledger.WithinReserve config request ∧
    ∀ assetId source target amount, request = .transfer assetId source target amount →
      ¬ledger.Strands config assetId source target amount

/-- Supplies and balances agree after any run that strands nothing within the reserve. -/
theorem conserved_of_sparing (config : Config) (region : ℕ → AccountBalance) (ledger : Memory)
    (reachable : Reachable config region (Sparing config) ledger) : ledger.Conserved config := by
  have anchored := reachable.anchored fun _ _ sparing => sparing.1
  have balanced : ledger.book.Balanced := by
    refine reachable.kept (fun state => state.book.Balanced) Book.blank_balanced ?_
    intro state request response after step reached balanced sparing
    rcases step.book reached.sound with honest | ⟨-, _, _, _, _, same, strands⟩
    · exact balanced.move honest
    · exact absurd strands (sparing.2 _ _ _ _ same)
  intro assetId asset registered
  refine ⟨ledger.amount assetId, anchored.reported reachable.sound assetId,
    balanced.contained assetId, ?_⟩
  have exact := balanced.exact assetId
  rw [Book.outstanding, book_supply registered, Option.getD_some] at exact
  exact exact.symm

/-- An account is given two units and gives one back. -/
def roundTripCalls : List Call :=
  [createIdAsset, createIdAccount, .deposit 0 0 (smallAmount 2), .withdraw 0 0 (smallAmount 1)]

/-- A deposit and a withdrawal strand nothing. -/
theorem roundTrip_conserved : ∃ ledger,
    Reachable singleBalance (fun _ => .zero) (Sparing singleBalance) ledger ∧
      ledger.Conserved singleBalance := by
  obtain ⟨ledger, run, -⟩ := exists_permitted singleBalance (fun _ => .zero)
    (fun state request => state.WithinReserve singleBalance request ∧ request ∈ roundTripCalls)
    roundTripCalls (by decide +kernel) (fun _ => ()) () (by decide +kernel)
  have reachable : Reachable singleBalance (fun _ => .zero) (Sparing singleBalance) ledger := by
    refine run.weaken fun state request allowed => ?_
    refine ⟨allowed.1, fun _ _ _ _ transfer => ?_⟩
    rw [transfer] at allowed
    exact absurd allowed.2 (by simp [roundTripCalls, createIdAsset, createIdAccount])
  exact ⟨ledger, reachable, conserved_of_sparing _ _ ledger reachable⟩

/-- With room for one balance, the second write of the transfer is refused: the sender has lost one
unit that nobody gained. -/
theorem transfer_not_conserved :
    ¬∀ config region ledger, Reachable config region AnyCall ledger → ledger.Conserved config := by
  intro always
  obtain ⟨ledger, reachable, facts⟩ := exists_reachable singleBalance (fun _ => .zero)
    (twoAccounts ++ [sendOne])
    (fun ledger => ((ledger.lassidToAsset.lookup 0).map fun asset => asset.supply.toNat,
      ledger.laccidToAccount.keys, (ledger.amount 0 0).toNat, (ledger.amount 0 1).toNat))
    (some 2, {0, 1}, 1, 0) (by decide +kernel)
  simp only [Prod.mk.injEq, Option.map_eq_some_iff] at facts
  obtain ⟨⟨asset, registered, supply⟩, members, one, zero⟩ := facts
  obtain ⟨balance, reported, -, sum⟩ := always _ _ _ reachable 0 asset registered
  have held (accountId : AccountId) := (reported accountId).amount_eq
  rw [members, Finset.sum_pair (by decide), ← held 0, ← held 1, supply, one, zero] at sum
  exact absurd sum (by decide)

end Memory

end Libcma

import Libcma.Ledger.BasicConservation
import Libcma.Memory.Runs

/-!
# Balances do not overflow

`deposit` and `transfer` refuse a balance that would not fit in 256 bits. Neither refusal is ever
met: the supply of an asset covers all its balances, so that a balance fits wherever the supply
does. This holds of both ledgers, after transfers that failed halfway too.
-/

namespace Libcma

open Exec

/-- The refusal of `deposit` when the balance would not fit. -/
def assetBalanceOverflow : CmaException := ⟨"Asset balance overflow", errorBalanceOverflow⟩

/-- The refusal of `transfer` when the balance of the receiver would not fit. -/
def balanceOverflow : CmaException := ⟨"Balance overflow", errorBalanceOverflow⟩

/-- An outcome that is not a given error. -/
def Avoids {σ α : Type} (error : CmaException) (outcome : Outcome CmaException σ α) : Prop :=
  outcome.Satisfies (fun _ _ => True) fun raised _ => raised ≠ error

/-- A call whose text avoids an error does not answer with it. -/
theorem Avoids.settle {σ : Type} {error : CmaException} {computation : Exec CmaException σ Unit}
    {state after : σ} {response : Response} {answer : Unit → Output}
    (avoids : Avoids error (computation.run state))
    (settled : Libcma.settle answer ((onFirst computation).run (state, ())) =
      some (after, response)) : response.error ≠ some error := by
  have ensures := (satisfies_onFirst (fun (_ : Unit) (_ : σ × Unit) => True)
    (fun raised _ => raised ≠ error) computation (state, ())).mpr avoids
  rcases settle_ensures ensures settled with ⟨-, -, rfl⟩ | ⟨raised, -, other, rfl⟩
  · exact nofun
  · exact fun same => other (Option.some.inj same)

namespace View

/-- What is added to a balance fits: in a deposit wherever it fits in the supply, in a transfer
wherever the sender has it. -/
structure Fits (view : View) : Prop where
  deposit : ∀ assetId accountId asset balance (amount : Amount),
    view.asset assetId = some asset → view.balance assetId accountId = some balance →
    asset.supply.toNat + amount.toNat < 2 ^ 256 → balance.toNat + amount.toNat < 2 ^ 256
  transfer : ∀ assetId source target balanceFrom balanceTo (amount : Amount),
    source ≠ target → view.balance assetId source = some balanceFrom →
    view.balance assetId target = some balanceTo → amount.toNat ≤ balanceFrom.toNat →
    balanceTo.toNat + amount.toNat < 2 ^ 256

/-- A view of covered holdings fits. -/
theorem fits_of_covered {book : Book AssetId AccountId} (covered : book.Covered) {view : View}
    (supplies : ∀ assetId, book.supply assetId =
      (view.asset assetId).map fun asset => asset.supply.toNat)
    (holdings : ∀ assetId accountId balance, view.balance assetId accountId = some balance →
      book.holding assetId accountId = balance.toNat) : view.Fits where
  deposit assetId accountId asset balance amount registered held fits := by
    have least := covered.holding_le assetId accountId
    rw [Book.outstanding, supplies assetId, registered, Option.map_some, Option.getD_some,
      holdings assetId accountId balance held] at least
    exact Nat.lt_of_le_of_lt (Nat.add_le_add_right least _) fits
  transfer assetId source target balanceFrom balanceTo amount different heldFrom heldTo enough := by
    have together := covered.pair_le assetId different
    rw [holdings assetId source balanceFrom heldFrom,
      holdings assetId target balanceTo heldTo] at together
    have bounded : book.outstanding assetId < 2 ^ 256 := by
      rw [Book.outstanding, supplies assetId]
      cases view.asset assetId with
      | none => exact Nat.two_pow_pos 256
      | some asset => exact amount_lt asset.supply
    omega

variable {view : View}

/-- The checks of `deposit` do not refuse the balance. -/
theorem Fits.depositChecks (fits : view.Fits) (assetId : AssetId) (accountId : AccountId)
    (amount : Amount) :
    Avoids assetBalanceOverflow ((reads.depositChecks assetId accountId amount).run view) := by
  simp only [Avoids, LedgerReads.depositChecks, reads, satisfies_bind, satisfies_refuseIf,
    satisfies_pure, satisfies_read, satisfies_orRaise, satisfies_orUndefined,
    amountCheckedAdd_ok, not_not]
  refine ⟨fun _ => by decide, fun _ => ⟨fun _ => by decide, fun asset registered =>
    ⟨fun _ => by decide, fun supplyFits => ⟨fun _ => by decide, fun _ =>
      ⟨fun _ => by decide, fun _ balance held => ⟨fun full => ?_, fun _ => trivial⟩⟩⟩⟩⟩⟩
  exact absurd (fits.deposit assetId accountId asset balance amount registered held supplyFits) full

/-- The checks of `transfer` do not refuse the balance of the receiver. -/
theorem Fits.transferChecks (fits : view.Fits) (assetId : AssetId) (source target : AccountId)
    (amount : Amount) :
    Avoids balanceOverflow ((reads.transferChecks assetId source target amount).run view) := by
  simp only [Avoids, LedgerReads.transferChecks, reads, satisfies_bind, satisfies_refuseIf,
    satisfies_pure, satisfies_read, satisfies_orRaise, satisfies_orUndefined,
    amountCheckedAdd_ok, amountCheckedSub_ok, not_not]
  refine ⟨fun _ => by decide, fun asset registered => ⟨fun _ => by decide, fun different =>
    ⟨fun _ => by decide, fun _ balanceFrom heldFrom => ⟨fun _ => by decide, fun enough =>
      ⟨fun _ => by decide, fun _ balanceTo heldTo => ⟨fun full => ?_, fun _ => trivial⟩⟩⟩⟩⟩⟩
  exact absurd (fits.transfer assetId source target balanceFrom balanceTo amount different heldFrom
    heldTo enough) full

section Operations

variable {σ : Type} {ops : LedgerOps σ} {state : σ}

/-- `deposit` avoids the refusal of the balance when its writes do. -/
theorem Fits.deposit_avoids (fits : view.Fits) (reports : ops.Reports state view)
    {assetId : AssetId} {accountId : AccountId} {amount : Amount}
    (writes : ∀ asset balance, view.AcceptsDeposit assetId accountId amount asset balance →
      Avoids assetBalanceOverflow ((ops.setAccountAssetBalance assetId accountId
        (amountCheckedAdd balance amount).1 >>= fun _ =>
          ops.setAssetSupply assetId (amountCheckedAdd asset.supply amount).1).run state)) :
    Avoids assetBalanceOverflow ((ops.deposit assetId accountId amount).run state) := by
  rcases LedgerOps.deposit_cases reports assetId accountId amount with
    ⟨error, seen, -, thrown⟩ | ⟨-, undefined⟩ | ⟨asset, balance, accepts, continues⟩
  · have checked := fits.depositChecks assetId accountId amount
    rw [seen] at checked
    rw [thrown]
    exact checked
  · rw [undefined]
    trivial
  · rw [continues]
    exact writes asset balance accepts

/-- `transfer` avoids the refusal of the balance when its writes do. -/
theorem Fits.transfer_avoids (fits : view.Fits) (reports : ops.Reports state view)
    {assetId : AssetId} {source target : AccountId} {amount : Amount}
    (writes : ∀ asset balanceFrom balanceTo,
      view.AcceptsTransfer assetId source target amount asset balanceFrom balanceTo →
      Avoids balanceOverflow ((ops.setAccountAssetBalance assetId source
        (amountCheckedSub balanceFrom amount).1 >>= fun _ =>
          ops.setAccountAssetBalance assetId target
            (amountCheckedAdd balanceTo amount).1).run state)) :
    Avoids balanceOverflow ((ops.transfer assetId source target amount).run state) := by
  rcases LedgerOps.transfer_cases reports assetId source target amount with
    ⟨error, seen, -, thrown⟩ | ⟨-, undefined⟩ | ⟨asset, balanceFrom, balanceTo, accepts, continues⟩
  · have checked := fits.transferChecks assetId source target amount
    rw [seen] at checked
    rw [thrown]
    exact checked
  · rw [undefined]
    trivial
  · rw [continues]
    exact writes asset balanceFrom balanceTo accepts

end Operations

end View

/-- Neither refusal is met in any deposit or transfer, because balances fit. -/
structure NeverOverflows {σ : Type} (call : Call → Option (σ × Response)) (view : View) : Prop where
  /-- What is added to a balance fits. -/
  fits : view.Fits
  /-- No deposit is refused because the balance does not fit. -/
  deposit : ∀ assetId accountId amount after response,
    call (.deposit assetId accountId amount) = some (after, response) →
    response.error ≠ some assetBalanceOverflow
  /-- No transfer is refused because the balance of the receiver does not fit. -/
  transfer : ∀ assetId source target amount after response,
    call (.transfer assetId source target amount) = some (after, response) →
    response.error ≠ some balanceOverflow

namespace Basic

variable {ledger : Basic}

/-- Balances fit in every reachable basic ledger. -/
theorem Reachable.fits (reachable : ledger.Reachable) : ledger.view.Fits :=
  View.fits_of_covered reachable.balanced.covered (fun _ => rfl) fun _ _ _ => book_holding

/-- The writes of a basic ledger are never refused for a balance. -/
theorem Reachable.neverOverflows (reachable : ledger.Reachable) :
    NeverOverflows ledger.call ledger.view where
  fits := reachable.fits
  deposit assetId accountId amount after response called := by
    refine (reachable.fits.deposit_avoids reachable.sound.reports ?_).settle called
    intro asset balance accepts
    simp only [Avoids, ops, setAccountAssetBalance, setAssetSupply, satisfies_bind,
      satisfies_update, satisfies_read, satisfies_orRaise]
    exact ⟨fun _ => by decide, fun _ _ => trivial⟩
  transfer assetId source target amount after response called := by
    refine (reachable.fits.transfer_avoids reachable.sound.reports ?_).settle called
    exact fun _ _ _ _ => trivial

end Basic

namespace Memory

variable {config : Config} {region : ℕ → AccountBalance} {allowed : Memory → Call → Prop}
  {ledger : Memory}

/-- Balances fit in every reachable memory ledger. -/
theorem Reachable.fits (reachable : Reachable config region allowed ledger) :
    ledger.view.Fits :=
  View.fits_of_covered reachable.covered (fun _ => rfl) fun _ _ _ => book_holding

/-- A balance is written unless the table of balances is full, which is another error. -/
theorem setAccountAssetBalance_avoids (store : ledger.Store config) {assetId : AssetId}
    {accountId : AccountId} {asset : Asset} {owner : AccountStruct} {error : CmaException}
    (registered : ledger.lassidToAsset.lookup assetId = some asset)
    (member : ledger.laccidToAccount.lookup accountId = some owner) (balance : Amount)
    (other : ⟨"Max balances reached", errorMaxBalancesReached⟩ ≠ error) :
    ((setAccountAssetBalance config assetId accountId balance).run ledger).Satisfies
      (fun _ reached => ¬ledger.Full config (assetId, accountId) ∧
        reached = ledger.written config (assetId, accountId) asset owner balance)
      (fun raised _ => raised ≠ error) := by
  rcases setAccountAssetBalance_run store registered member balance with
    ⟨-, thrown⟩ | ⟨room, written⟩ | ⟨-, undefined⟩
  · rw [thrown]
    exact other
  · rw [written]
    exact ⟨room, rfl⟩
  · rw [undefined]
    trivial

/-- The writes of a memory ledger are refused only when the table of balances is full. -/
theorem Reachable.neverOverflows (reachable : Reachable config region allowed ledger) :
    NeverOverflows (ledger.call config) ledger.view where
  fits := reachable.fits
  deposit assetId accountId amount after response called := by
    refine (reachable.fits.deposit_avoids (reports config ledger) ?_).settle called
    intro asset balance accepts
    obtain ⟨owner, member⟩ := view_member accepts.member
    rw [Avoids, satisfies_bind]
    apply (setAccountAssetBalance_avoids reachable.sound.store accepts.registered member _
      (show _ ≠ assetBalanceOverflow by decide)).mono
    · rintro _ _ ⟨-, rfl⟩
      simp only [ops, supply_written accepts.registered member]
      trivial
    · exact fun _ _ other => other
  transfer assetId source target amount after response called := by
    refine (reachable.fits.transfer_avoids (reports config ledger) ?_).settle called
    intro asset balanceFrom balanceTo accepts
    obtain ⟨sender, sent⟩ := view_member accepts.sender
    have store := reachable.sound.store
    rw [Avoids, satisfies_bind]
    apply (setAccountAssetBalance_avoids store accepts.registered sent _
      (show _ ≠ balanceOverflow by decide)).mono
    · rintro _ _ ⟨room, rfl⟩
      have still := (congrArg (Finmap.lookup assetId) (sameRegistry_written config
        (assetId, source) sent asset (amountCheckedSub balanceFrom amount).1).assets).trans
          accepts.registered
      obtain ⟨receiver, received⟩ := owner_written config assetId sent
        (view_member accepts.receiver) asset (amountCheckedSub balanceFrom amount).1
      exact (setAccountAssetBalance_avoids (store.written room accepts.registered sent _) still
        received _ (by decide)).mono (fun _ _ _ => trivial) fun _ _ other => other
    · exact fun _ _ other => other

end Memory

/-- In every reachable ledger, basic or memory, no deposit and no transfer is refused because a
balance would overflow. -/
theorem neverOverflows_of_reachable (config : Config) (region : ℕ → AccountBalance)
    (basic : Basic) (ledger : Memory) (basicReachable : basic.Reachable)
    (reachable : Memory.Reachable config region Memory.AnyCall ledger) :
    NeverOverflows basic.call basic.view ∧ NeverOverflows (ledger.call config) ledger.view :=
  ⟨basicReachable.neverOverflows, reachable.neverOverflows⟩

/-- One of two units is sent, which the memory ledger refuses halfway. -/
theorem neverOverflows_sendOne : ∃ (basic : Basic) (ledger : Memory),
    (basic.amount 0 0).toNat = 1 ∧ (ledger.amount 0 0).toNat = 1 ∧
      NeverOverflows basic.call basic.view ∧
      NeverOverflows (ledger.call Memory.singleBalance) ledger.view := by
  let calls := Memory.twoAccounts ++ [Memory.sendOne]
  obtain ⟨basic, basicReachable, unit⟩ := Run.exists_reaches Basic.call (fun _ _ => True)
    Basic.empty calls (Run.permits_of_forall _ (fun _ _ => trivial) _ calls)
    (fun ledger => (ledger.amount 0 0).toNat) 1 (by decide +kernel)
  obtain ⟨ledger, reachable, same⟩ := Memory.exists_reachable Memory.singleBalance
    (fun _ => .zero) calls (fun ledger => (ledger.amount 0 0).toNat) 1 (by decide +kernel)
  have never := neverOverflows_of_reachable _ _ basic ledger basicReachable reachable
  exact ⟨basic, ledger, unit, same, never⟩

end Libcma

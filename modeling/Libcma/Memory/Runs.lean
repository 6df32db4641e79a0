import Libcma.Memory.Books
import Libcma.Memory.Reserve

/-!
# Runs of a memory ledger

What holds of every ledger that calls lead to, starting from a new one. The first results ask
nothing of the calls; the others ask that each call stays within the reserve. Where calls leave it,
entries can dangle, and the run goes on only as long as none of these is accessed.
-/

namespace Libcma

open Exec

namespace Memory

/-- A call that may be anything. -/
def AnyCall (_ledger : Memory) (_request : Call) : Prop := True

instance (ledger : Memory) (request : Call) : Decidable (ledger.AnyCall request) :=
  inferInstanceAs (Decidable True)

/-- A ledger for one balance. -/
def singleBalance : Config := ⟨10, 10, 1, 0, fun capacity => 2 * capacity⟩

/-- A ledger for a few balances. -/
def fewBalances : Config := ⟨10, 10, 10, 0, fun capacity => 2 * capacity⟩

/-- There are two accounts, and one of them is given two units. -/
def twoAccounts : List Call :=
  [createIdAsset, createIdAccount, createIdAccount, .deposit 0 0 (smallAmount 2)]

/-- One unit is sent to the other account. -/
def sendOne : Call := .transfer 0 0 1 (smallAmount 1)

/-- A token is deposited and withdrawn again by one account, and another account is given two units
of another asset. -/
def spentToken : List Call :=
  [retrieveToken .create, createIdAsset, createIdAccount, createIdAccount,
    .deposit 0 0 (smallAmount 3), .withdraw 0 0 (smallAmount 3), .deposit 1 1 (smallAmount 2)]

/-- The ledgers reached from a new one by calls that are allowed where they are made. A run ends at
the first call that accesses an entry through a pointer that dangles: nothing defined follows it. -/
def Reachable (config : Config) (region : ℕ → AccountBalance) (allowed : Memory → Call → Prop)
    (ledger : Memory) : Prop :=
  Run.Reaches (fun state request => state.call config request) allowed (empty region)
    ledger

variable {config : Config} {region : ℕ → AccountBalance} {allowed : Memory → Call → Prop}
  {ledger : Memory}

/-- What is computed of the ledger a list of permitted calls ends in holds of a ledger that is
reachable by such calls. -/
theorem exists_permitted {α : Type} (config : Config) (region : ℕ → AccountBalance)
    (allowed : Memory → Call → Prop) (calls : List Call)
    (permitted : Run.Permits (fun state request => state.call config request) allowed
      (empty region) calls) (fact : Memory → α) (value : α)
    (computed : (Run.execute (fun state request => state.call config request) (empty region)
      calls).map (fun finish => fact finish.1) = some value) :
    ∃ ledger, Reachable config region allowed ledger ∧ fact ledger = value :=
  Run.exists_reaches _ allowed _ calls permitted fact value computed

/-- What is computed of the ledger a list of calls ends in holds of a reachable ledger. -/
theorem exists_reachable {α : Type} (config : Config) (region : ℕ → AccountBalance)
    (calls : List Call) (fact : Memory → α) (value : α)
    (computed : (Run.execute (fun state request => state.call config request) (empty region)
      calls).map (fun finish => fact finish.1) = some value) :
    ∃ ledger, Reachable config region AnyCall ledger ∧ fact ledger = value :=
  exists_permitted config region AnyCall calls
    (Run.permits_of_forall _ (fun _ _ => trivial) _ calls) fact value computed

/-- Every reachable ledger is sound. -/
theorem Reachable.sound (reachable : Reachable config region allowed ledger) :
    ledger.Sound config :=
  reachable.invariant (Sound config) (sound_empty config region)
    fun _ _ _ _ sound _ called => (call_step sound called).sound sound

/-- What every step of a run keeps, every reachable ledger has. -/
theorem Reachable.kept (reachable : Reachable config region allowed ledger)
    (property : Memory → Prop) (first : property (empty region))
    (step : ∀ state request response after, Step config state request response after →
      Reachable config region allowed state → property state → allowed state request →
      property after) :
    property ledger := by
  have both : Reachable config region allowed ledger ∧ property ledger := by
    refine Run.Reaches.invariant reachable
      (fun state => Reachable config region allowed state ∧ property state) ⟨.refl, first⟩ ?_
    rintro state request next response ⟨reached, held⟩ permitted called
    have taken := call_step reached.sound called
    exact ⟨.tail reached permitted called,
      step state request response next taken reached held permitted⟩
  exact both.2

/-- Over zeros, every reachable ledger has its drive in order. -/
theorem Reachable.drive (reachable : Reachable config (fun _ => .zero) allowed ledger) :
    ledger.Drive :=
  reachable.kept Drive drive_empty fun _ _ _ _ step reached drive _ =>
    step.drive reached.sound drive

/-- Every reachable ledger covers what is held by what is supplied. -/
theorem Reachable.covered (reachable : Reachable config region allowed ledger) :
    ledger.book.Covered := by
  refine reachable.kept (fun state => state.book.Covered) Book.blank_balanced.covered ?_
  intro state request response after step reached covered _
  rcases step.book reached.sound with honest | ⟨lossy, -⟩
  · exact covered.lossy (.move honest)
  · exact covered.lossy lossy

/-- Calls that stay within the reserve leave every pointer valid. -/
theorem Reachable.anchored (reachable : Reachable config region allowed ledger)
    (within : ∀ state request, allowed state request → state.WithinReserve config request) :
    ledger.Anchored :=
  reachable.kept Anchored (anchored_empty region) fun state request _ _ step _ anchored permitted =>
    step.anchored anchored (within state request permitted)

/-- A call of `get_account_asset_balance` reports a balance. -/
def Reported (config : Config) (ledger : Memory) (assetId : AssetId) (accountId : AccountId)
    (balance : Amount) : Prop :=
  ∀ asked info, ∃ told, ledger.call config (.getBalance assetId accountId (some asked) info) =
    some (ledger, ⟨none, .balance (some balance) told⟩)

/-- Where nothing dangles, the balance reported is the one stored. -/
theorem Stable.reported (stable : ledger.Stable) (sound : ledger.Sound config)
    (assetId : AssetId) (accountId : AccountId) :
    ledger.Reported config assetId accountId (ledger.amount assetId accountId) := by
  intro asked info
  have readable := stable.balanceOf sound.store.toSlotted assetId accountId
  refine ⟨info.map (ledger.describe config (assetId, accountId)), ?_⟩
  simp [call, getAccountAssetBalance, readable, settle]

/-- A ledger that stayed within its reserve reports the balances stored. -/
theorem Anchored.reported (anchored : ledger.Anchored) (sound : ledger.Sound config)
    (assetId : AssetId) (accountId : AccountId) :
    ledger.Reported config assetId accountId (ledger.amount assetId accountId) :=
  anchored.stable.reported sound assetId accountId

/-- A balance that is reported is the one stored. -/
theorem Reported.amount_eq {assetId : AssetId} {accountId : AccountId} {balance : Amount}
    (reported : ledger.Reported config assetId accountId balance) :
    ledger.amount assetId accountId = balance := by
  obtain ⟨told, called⟩ := reported (zeros 32) none
  simp only [call, getAccountAssetBalance, bind_run, read_run] at called
  cases read : ledger.balanceOf assetId accountId with
  | none => simp [read, settle] at called
  | some found =>
    simp [read, settle] at called
    exact called.1 ▸ balanceOf_eq read

end Memory

end Libcma

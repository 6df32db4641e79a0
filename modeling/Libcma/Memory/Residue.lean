import Libcma.Memory.Layout

/-!
# What the memory held before

The constructors that create a ledger leave the account drive as they find it, and a record is
written field by field. Over a drive of zeros, the fields a record does not use and the slots that
are not in use stay zero, and the drive depends on the calls alone; over anything else it shows
what the memory held before.
-/

namespace Libcma

/-- The fields that the type of a record does not use are zero, and so is the padding. -/
structure AccountBalance.Tidy (record : AccountBalance) : Prop where
  tokenAddress : ∀ type : AssetType, record.type = type.code → ¬type.HasAddress →
    record.tokenAddress = zeros 20
  tokenId : ∀ type : AssetType, record.type = type.code → ¬type.HasTokenId →
    record.tokenId = zeros 32
  padding : record.padding = zeros 20

namespace Memory

/-- The initial contents of the account drive, one record for each slot. -/
abbrev Contents (config : Config) : Type := Fin config.maxBalances → AccountBalance

/-- The drive with the given contents; it has `max_balances` slots, and zeros stand for what is
past them. -/
def Contents.drive {config : Config} (contents : Contents config) (slot : ℕ) : AccountBalance :=
  if inside : slot < config.maxBalances then contents ⟨slot, inside⟩ else .zero

/-- A ledger that a constructor creates over memory with the given contents. -/
def created {config : Config} (contents : Contents config) : Memory := empty contents.drive

/-- The fields and the slots of the drive that are not in use are zero. -/
structure Clean (config : Config) (ledger : Memory) : Prop where
  /-- A record's unused fields and its padding are zero. -/
  unused : ∀ slot < config.maxBalances, (ledger.balances slot).Tidy
  /-- A slot that is not in use is zero. -/
  blank : ∀ slot < config.maxBalances, ledger.getBalancesSize ≤ slot → ledger.balances slot = .zero

/-- What the same calls leave in the drive does not depend on what the memory held before. -/
def Determined (config : Config) (left right : Contents config) : Prop :=
  ∀ calls one two,
    Run.execute (fun state request => call config state request) (created left) calls = some one →
    Run.execute (fun state request => call config state request) (created right) calls = some two →
    (∀ slot < config.maxBalances, one.1.balances slot = two.1.balances slot) ∧
      one.1.Clean config ∧ two.1.Clean config

variable {config : Config} {ledger after : Memory} {key : MapKey} {entry : Balance}
  {asset : Asset} {owner : AccountStruct} {balance : Amount}

section Tidying

/-- A record of zeros is tidy. -/
theorem tidy_zero : AccountBalance.zero.Tidy := ⟨fun _ _ _ => rfl, fun _ _ _ => rfl, rfl⟩

/-- The record that describes a balance is tidy. -/
theorem tidy_describing (asset : Asset) (account : Account) (balance : Amount) :
    (AccountBalance.describing asset account balance).Tidy := by
  constructor
  · intro type same lacks
    rw [← AssetType.code_injective same] at lacks
    exact if_neg lacks
  · intro type same lacks
    rw [← AssetType.code_injective same] at lacks
    exact if_neg lacks
  · rfl

/-- Every record of the drive is tidy. -/
def Tidy (ledger : Memory) : Prop := ∀ slot, (ledger.balances slot).Tidy

/-- Opening an entry fills a slot of zeros. -/
theorem Tidy.opened (tidy : ledger.Tidy) (drive : ledger.Drive) (config : Config) (key : MapKey)
    (asset : Asset) (owner : AccountStruct) (balance : Amount) :
    (ledger.opened config key asset owner balance).Tidy := by
  intro slot
  unfold Memory.opened
  split
  · simp only [openWithdrawable]
    split
    · rw [drive.blank _ (Nat.le_refl _)]
      have same := recordOf_eq asset owner.account balance
      rw [recordOf] at same
      rw [same]
      exact tidy_describing asset owner.account balance
    · exact tidy slot
  · exact tidy slot

/-- A new amount leaves the other fields. -/
theorem Tidy.overwrite (tidy : ledger.Tidy) (entry : Balance) (balance : Amount) :
    (ledger.overwrite entry balance).Tidy := by
  intro slot
  cases entry with
  | virtual pointer => exact tidy slot
  | withdrawable place =>
    simp only [Memory.overwrite]
    split
    · exact ⟨(tidy place).tokenAddress, (tidy place).tokenId, (tidy place).padding⟩
    · exact tidy slot

/-- Closing an entry moves a tidy record, and leaves zeros behind. -/
theorem Tidy.close (tidy : ledger.Tidy) (key : MapKey) (entry : Balance) (owner : AccountStruct) :
    (ledger.close key entry owner).Tidy := by
  intro slot
  cases entry with
  | virtual pointer => exact tidy slot
  | withdrawable place =>
    simp only [Memory.close, closeWithdrawable]
    split
    · exact tidy_zero
    · split
      · have last := tidy (ledger.lastBalances.length - 1)
        exact ⟨last.tokenAddress, last.tokenId, (tidy place).padding⟩
      · exact tidy slot

/-- A write leaves tidy records. -/
theorem Tidy.written (tidy : ledger.Tidy) (drive : ledger.Drive) (config : Config) (key : MapKey)
    (asset : Asset) (owner : AccountStruct) (balance : Amount) :
    (ledger.written config key asset owner balance).Tidy := by
  unfold Memory.written
  cases ledger.accountAssetBalance.lookup key with
  | none => exact tidy.opened drive config key asset owner balance
  | some entry =>
    dsimp only
    split
    · exact (tidy.overwrite entry balance).close key entry owner
    · exact tidy.overwrite entry balance

/-- Every step leaves tidy records. -/
theorem Step.tidy {request : Call} {response : Response}
    (step : Step config ledger request response after) (sound : ledger.Sound config)
    (drive : ledger.Drive) (tidy : ledger.Tidy) : after.Tidy := by
  cases step with
  | refused => exact tidy
  | asset result => cases result <;> exact tidy
  | account result => cases result <;> exact tidy
  | balance => exact tidy
  | deposit => exact tidy.written drive config _ _ _ _
  | withdraw => exact tidy.written drive config _ _ _ _
  | transfer accepts sent room debit received still =>
    subst debit
    have debited := drive.written sound.store (_, _) accepts.registered sent
    exact (tidy.written drive config _ _ _ _).written (debited _) config _ _ _ _
  | stranded accepts sent room debit =>
    subst debit
    exact tidy.written drive config _ _ _ _
  | clear =>
    intro slot
    simp only [Memory.clear]
    split
    · exact tidy_zero
    · exact tidy slot

/-- Over zeros, the drive is clean after any run. -/
theorem Reachable.clean (reachable : Reachable config (fun _ => .zero) AnyCall ledger) :
    ledger.Clean config := by
  have tidy : ledger.Tidy := by
    apply reachable.kept Tidy
    · exact fun _ => tidy_zero
    · exact fun _ _ _ _ step reached tidy _ => step.tidy reached.sound reached.drive tidy
  constructor
  · exact fun slot _ => tidy slot
  · exact fun slot _ beyond => reachable.drive.blank slot beyond

end Tidying

/-- Contents of zeros are a drive of zeros. -/
theorem created_zero {contents : Contents config} (zero : ∀ slot, contents slot = .zero) :
    created contents = empty fun _ => .zero := by
  have drive : contents.drive = fun _ => .zero := by
    funext slot
    unfold Contents.drive
    split
    · exact zero _
    · rfl
  rw [created, drive]

/-- A computed run is a run of calls that may be anything. -/
theorem reachable_of_execute {region : ℕ → AccountBalance} {calls : List Call}
    {finish : Memory × List Response}
    (executed : Run.execute (fun state request => call config state request) (empty region) calls =
      some finish) : Reachable config region AnyCall finish.1 :=
  Run.reaches_of_execute executed
    (Run.permits_of_forall _ (fun _ _ => trivial) _ calls)

/-- The drive depends on the calls alone exactly when it held only zeros in both runs. -/
theorem determined_iff (config : Config) (left right : Contents config) :
    Determined config left right ↔
      (∀ slot, left slot = .zero) ∧ ∀ slot, right slot = .zero := by
  constructor
  · intro determined
    -- Before any call, the drive shows the contents.
    obtain ⟨-, one, two⟩ := determined [] (created left, []) (created right, []) rfl rfl
    constructor
    · intro slot
      have blank := one.blank slot slot.isLt (Nat.zero_le _)
      simpa [created, empty, Contents.drive] using blank
    · intro slot
      have blank := two.blank slot slot.isLt (Nat.zero_le _)
      simpa [created, empty, Contents.drive] using blank
  · rintro ⟨zeroLeft, zeroRight⟩ calls one two ranLeft ranRight
    rw [created_zero zeroLeft] at ranLeft
    rw [created_zero zeroRight] at ranRight
    obtain rfl := Option.some.inj (ranLeft.symm.trans ranRight)
    have clean := (reachable_of_execute ranLeft).clean
    exact ⟨fun _ _ => rfl, clean, clean⟩

/-- A deposit of the token at the zero address leaves the token id that the memory held before. -/
theorem residue_not_determined :
    ¬∀ (config : Config) (left right : Contents config), Determined config left right := by
  intro always
  let zeroed : Contents singleBalance := fun _ => .zero
  let stale : Contents singleBalance := fun _ => { AccountBalance.zero with tokenId := oneAmount }
  let step := fun state request => call singleBalance state request
  let calls := [retrieveToken .create, createWallet, .deposit 0 0 oneAmount]
  have blank : (Run.execute step (created zeroed) calls).map (fun finish =>
      (finish.1.balances 0).tokenId) = some (zeros 32) := by decide +kernel
  have kept : (Run.execute step (created stale) calls).map (fun finish =>
      (finish.1.balances 0).tokenId) = some oneAmount := by decide +kernel
  obtain ⟨one, ran, zero⟩ := Option.map_eq_some_iff.mp blank
  obtain ⟨two, other, residue⟩ := Option.map_eq_some_iff.mp kept
  obtain ⟨same, -, -⟩ := always singleBalance zeroed stale calls one two ran other
  rw [same 0 (by decide), residue] at zero
  exact absurd zero (by decide)

end Memory

end Libcma

import Libcma.Memory.Runs

/-!
# What ids have stood for

The counters only grow, so an id that a ledger has issued keeps its meaning in every later ledger:
it stands for the same kind of asset, or the same account, or for nothing. What an entry is, is
settled when it is opened.
-/

namespace Libcma

open Exec

namespace Memory

/-- What a later ledger says of the ids an earlier one has issued. -/
structure Descends (before after : Memory) : Prop where
  /-- The asset counter does not go back. -/
  nextAsset : before.nextAssetId ≤ after.nextAssetId
  /-- The account counter does not go back. -/
  nextAccount : before.nextAccountId ≤ after.nextAccountId
  /-- An asset was there before, with its type, or has a new id. -/
  asset : ∀ assetId asset, after.lassidToAsset.lookup assetId = some asset →
    (∃ old, before.lassidToAsset.lookup assetId = some old ∧ old.type = asset.type) ∨
      before.nextAssetId ≤ assetId
  /-- An account was there before, or has a new id. -/
  account : ∀ accountId account, after.account accountId = some account →
    before.account accountId = some account ∨ before.nextAccountId ≤ accountId

variable {config : Config} {ledger after later : Memory} {key other : MapKey}
  {assetId : AssetId} {accountId : AccountId} {asset : Asset} {owner : AccountStruct}

namespace Descends

/-- A ledger says of its ids what it says. -/
theorem refl (ledger : Memory) : ledger.Descends ledger :=
  ⟨Nat.le_refl _, Nat.le_refl _, fun _ asset found => .inl ⟨asset, found, rfl⟩,
    fun _ _ found => .inl found⟩

/-- Descent goes step by step. -/
theorem trans (first : ledger.Descends after) (second : after.Descends later) :
    ledger.Descends later := by
  refine ⟨Nat.le_trans first.nextAsset second.nextAsset,
    Nat.le_trans first.nextAccount second.nextAccount, ?asset, ?account⟩
  case asset =>
    intro assetId asset found
    rcases second.asset assetId asset found with ⟨middle, between, same⟩ | recent
    · rcases first.asset assetId middle between with ⟨old, there, older⟩ | recent
      · exact .inl ⟨old, there, older.trans same⟩
      · exact .inr recent
    · exact .inr (Nat.le_trans first.nextAsset recent)
  case account =>
    intro accountId account found
    rcases second.account accountId account found with between | recent
    · exact first.account accountId account between
    · exact .inr (Nat.le_trans first.nextAccount recent)

/-- A write leaves every id what it is. -/
theorem written (config : Config) (key : MapKey)
    (member : ledger.laccidToAccount.lookup key.2 = some owner) (asset : Asset)
    (balance : Amount) : ledger.Descends (ledger.written config key asset owner balance) := by
  have same := sameRegistry_written config key member asset balance
  refine ⟨same.nextAsset.ge, same.nextAccount.ge, ?asset, ?account⟩
  case asset =>
    intro assetId found there
    rw [same.assets] at there
    exact .inl ⟨found, there, rfl⟩
  case account =>
    intro accountId found there
    exact .inl ((same.accounts accountId).symm.trans there)

/-- A new supply leaves every id what it is. -/
theorem supplied (registered : ledger.lassidToAsset.lookup assetId = some asset)
    (supply : Amount) : ledger.Descends (ledger.supplied assetId asset supply) := by
  refine ⟨Nat.le_refl _, Nat.le_refl _, ?asset, fun _ _ found => .inl found⟩
  intro other found there
  simp only [Memory.supplied, Finmap.lookup_insert_if] at there
  split at there
  · rw [← Option.some.inj there, ‹other = assetId›]
    exact .inl ⟨asset, registered, rfl⟩
  · exact .inl ⟨found, there, rfl⟩

/-- A new asset takes the next id. -/
theorem addAsset (ledger : Memory) (added : Asset) :
    ledger.Descends (ledger.addAsset added) := by
  refine ⟨Nat.le_succ _, Nat.le_refl _, ?asset, fun _ _ found => .inl found⟩
  intro other found there
  simp only [Memory.addAsset, Finmap.lookup_insert_if] at there
  split at there
  · exact .inr (Nat.le_of_eq (Eq.symm ‹_›))
  · exact .inl ⟨found, there, rfl⟩

/-- A removed asset leaves the others what they are. -/
theorem dropAsset (ledger : Memory) (assetId : AssetId) (asset : Asset) :
    ledger.Descends (ledger.dropAsset assetId asset) := by
  refine ⟨Nat.le_refl _, Nat.le_refl _, ?asset, fun _ _ found => .inl found⟩
  intro other found there
  simp only [Memory.dropAsset, Finmap.lookup_erase_if] at there
  split at there
  · contradiction
  · exact .inl ⟨found, there, rfl⟩

/-- A new account takes the next id. -/
theorem addAccount (ledger : Memory) (added : Account) :
    ledger.Descends (ledger.addAccount added) := by
  refine ⟨Nat.le_refl _, Nat.le_succ _, fun _ asset found => .inl ⟨asset, found, rfl⟩, ?account⟩
  intro accountId account found
  rw [account_addAccount] at found
  split at found
  · exact .inr (Nat.le_of_eq (Eq.symm ‹_›))
  · exact .inl found

/-- A removed account leaves the others what they are. -/
theorem dropAccount (ledger : Memory) (removed : AccountId) (gone : Account) :
    ledger.Descends (ledger.dropAccount removed gone) := by
  refine ⟨Nat.le_refl _, Nat.le_refl _, fun _ asset found => .inl ⟨asset, found, rfl⟩, ?account⟩
  intro accountId account found
  rw [account_dropAccount] at found
  split at found
  · contradiction
  · exact .inl found

/-- A cleared ledger keeps its counters and has no ids in use. -/
theorem clear (ledger : Memory) : ledger.Descends ledger.clear := by
  refine ⟨Nat.le_refl _, Nat.le_refl _, ?asset, ?account⟩
  case asset =>
    intro assetId asset found
    simp [Memory.clear, Finmap.lookup_empty] at found
  case account =>
    intro accountId account found
    simp [Memory.account, Memory.clear, Finmap.lookup_empty] at found

end Descends

/-- Every step descends. -/
theorem Step.descends {request : Call} {response : Response}
    (step : Step config ledger request response after) : ledger.Descends after := by
  cases step with
  | refused => exact .refl ledger
  | asset result =>
    cases result with
    | found => exact .refl ledger
    | added asset => exact .addAsset ledger asset
    | removed assetId asset => exact .dropAsset ledger assetId asset
  | account result =>
    cases result with
    | found => exact .refl ledger
    | added account => exact .addAccount ledger account
    | removed accountId owner => exact .dropAccount ledger accountId owner.account
  | balance => exact .refl ledger
  | deposit accepts member room =>
    exact (Descends.written config (_, _) member _ _).trans
      (.supplied (registered_written (_, _) member _ _ accepts.registered) _)
  | withdraw accepts member room =>
    exact (Descends.written config (_, _) member _ _).trans
      (.supplied (registered_written (_, _) member _ _ accepts.registered) _)
  | transfer accepts sent room debit received still =>
    subst debit
    exact (Descends.written config (_, _) sent _ _).trans (.written config (_, _) received _ _)
  | stranded accepts sent room debit =>
    subst debit
    exact .written config (_, _) sent _ _
  | clear => exact .clear ledger

/-- The ledgers reached from one by any calls. -/
def Leads (config : Config) (ledger after : Memory) : Prop :=
  Run.Reaches (fun state request => state.call config request) AnyCall ledger after

/-- What a sound ledger leads to is sound, and descends from it. -/
theorem Leads.descends (sound : ledger.Sound config) (leads : Leads config ledger after) :
    after.Sound config ∧ ledger.Descends after := by
  refine leads.invariant (fun state => state.Sound config ∧ ledger.Descends state)
    ⟨sound, .refl ledger⟩ ?_
  rintro state request next response ⟨sound, descends⟩ - called
  have step := call_step sound called
  exact ⟨step.sound sound, descends.trans step.descends⟩

/-- The kind the asset and the account of a pair call for, both being registered. -/
def CallsFor (ledger : Memory) (key : MapKey) (sort : Bool) : Prop :=
  ∃ asset account, ledger.lassidToAsset.lookup key.1 = some asset ∧
    ledger.account key.2 = some account ∧ sort = decide (withdrawable asset account)

/-- An entry after a write is of the kind it was, or of the kind that is called for. -/
theorem kind_of_written (store : ledger.Store config) (key : MapKey)
    (registered : ledger.lassidToAsset.lookup key.1 = some asset)
    (member : ledger.laccidToAccount.lookup key.2 = some owner) (balance : Amount) {sort : Bool}
    (found : (ledger.written config key asset owner balance).kind other = some sort) :
    ledger.kind other = some sort ∨ ledger.CallsFor other sort := by
  rw [kind_written store] at found
  split at found
  · rw [‹other = key›]
    split at found
    · right
      have known : ledger.account key.2 = some owner.account := by
        rw [account, member, Option.map_some]
      exact ⟨asset, owner.account, registered, known, (Option.some.inj found).symm⟩
    · split at found
      · contradiction
      · exact .inl found
  · exact .inl found

/-- An entry after a step is of the kind it was, or of the kind that is called for. -/
theorem Step.kind_of {request : Call} {response : Response}
    (step : Step config ledger request response after) (sound : ledger.Sound config) {sort : Bool}
    (found : after.kind key = some sort) :
    ledger.kind key = some sort ∨ ledger.CallsFor key sort := by
  cases step with
  | refused => exact .inl found
  | asset result => cases result <;> exact .inl found
  | account result => cases result <;> exact .inl found
  | balance => exact .inl found
  | deposit accepts member room =>
    exact kind_of_written sound.store (_, _) accepts.registered member _ found
  | withdraw accepts member room =>
    exact kind_of_written sound.store (_, _) accepts.registered member _ found
  | @transfer assetId source target amount asset balanceFrom _ sender receiver middle accepts sent
      room debit received still =>
    have same := sameRegistry_written config (assetId, source) sent asset
      (amountCheckedSub balanceFrom amount).1
    subst debit
    have store := sound.store.written room accepts.registered sent
      (amountCheckedSub balanceFrom amount).1
    have registered := (congrArg (Finmap.lookup assetId) same.assets).trans accepts.registered
    rcases kind_of_written store (assetId, target) registered received _ found with
      before | ⟨other, account, there, known, called⟩
    · exact kind_of_written sound.store (_, _) accepts.registered sent _ before
    · rw [same.assets] at there
      rw [same.accounts] at known
      exact .inr ⟨other, account, there, known, called⟩
  | stranded accepts sent room debit =>
    subst debit
    exact kind_of_written sound.store (_, _) accepts.registered sent _ found
  | clear => simp [kind, Memory.clear, Finmap.lookup_empty] at found

end Memory

end Libcma

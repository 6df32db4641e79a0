import Libcma.Memory.Runs

/-!
# The base asset selector

`retrieve_asset` with type base follows the path of a look-up by id. `FIND` goes to the base asset
when there is one; the other operations, and `FIND` when there is none, go to the id the caller's
variable holds. The selector leads to the base asset exactly when that id is not of another asset.
-/

namespace Libcma

open Exec

namespace Memory

/-- The id noted as that of the base asset was issued, and is of no asset of another type. -/
structure Based (ledger : Memory) : Prop where
  /-- The id was issued. -/
  issued : ledger.baseAssetIdDefined = true → ledger.baseAssetId < ledger.nextAssetId
  /-- An asset registered under it is of type base. -/
  type : ledger.baseAssetIdDefined = true → ∀ asset,
    ledger.lassidToAsset.lookup ledger.baseAssetId = some asset → asset.type = .base

/-- A successful call answers with the id of the base asset, which it found, created or removed. -/
def SelectsBase (config : Config) (ledger : Memory) (operation : Operation) (args : AssetArgs) :
    Prop :=
  ∀ after answer,
    ledger.call config (.retrieveAsset args operation) = some (after, ⟨none, .asset answer⟩) →
    answer.assetId = some after.baseAssetId ∧ ∃ asset : Asset, asset.type = .base ∧
      if operation = .findAndRemove then
        ledger.lassidToAsset.lookup after.baseAssetId = some asset ∧
          after = ledger.dropAsset after.baseAssetId asset
      else after.lassidToAsset.lookup after.baseAssetId = some asset

/-- The caller's variable holds the id of an asset of another type, and the operation goes there. -/
def Misdirected (ledger : Memory) (operation : Operation) (args : AssetArgs) : Prop :=
  ∃ assetId asset, args.assetId = some assetId ∧
    ledger.lassidToAsset.lookup assetId = some asset ∧ asset.type ≠ .base ∧
    (operation = .find ∧ ledger.baseAssetIdDefined = false ∨ operation = .findOrCreate ∨
      operation = .findAndRemove ∧ asset.supply.toNat = 0)

variable {config : Config} {region : ℕ → AccountBalance} {ledger after : Memory}
  {assetId : AssetId} {asset : Asset} {request : Call} {response : Response}

section Invariant

/-- A write leaves the note and the types. -/
theorem Based.written (based : ledger.Based) (config : Config) (key : MapKey)
    {owner : AccountStruct} (member : ledger.laccidToAccount.lookup key.2 = some owner)
    (asset : Asset) (balance : Amount) :
    (ledger.written config key asset owner balance).Based := by
  have same := sameRegistry_written config key member asset balance
  constructor
  · rw [same.baseDefined, same.baseId, same.nextAsset]
    exact based.issued
  · rw [same.baseDefined, same.baseId, same.assets]
    exact based.type

/-- A new supply changes no type. -/
theorem Based.supplied (based : ledger.Based)
    (registered : ledger.lassidToAsset.lookup assetId = some asset) (supply : Amount) :
    (ledger.supplied assetId asset supply).Based := by
  refine ⟨based.issued, ?_⟩
  intro defined other there
  simp only [Memory.supplied, Finmap.lookup_insert_if] at there
  split at there
  · rw [← Option.some.inj there]
    exact based.type defined asset (‹ledger.baseAssetId = assetId› ▸ registered)
  · exact based.type defined other there

/-- A new asset is the base asset, or takes an id that is not noted. -/
theorem Based.addAsset (based : ledger.Based) (added : Asset) : (ledger.addAsset added).Based := by
  by_cases base : added.type = .base
  · constructor
    · intro _
      simp only [Memory.addAsset, if_pos base]
      exact Nat.lt_succ_self _
    · intro _ other there
      simp only [Memory.addAsset, if_pos base, Finmap.lookup_insert_if, if_true] at there
      exact Option.some.inj there ▸ base
  · have flag : (ledger.addAsset added).baseAssetIdDefined = ledger.baseAssetIdDefined :=
      if_neg base
    have noted : (ledger.addAsset added).baseAssetId = ledger.baseAssetId := if_neg base
    constructor
    · rw [flag, noted]
      exact fun defined => Nat.lt_succ_of_lt (based.issued defined)
    · rw [flag, noted]
      intro defined other there
      have old := Nat.ne_of_lt (based.issued defined)
      rw [Memory.addAsset, Finmap.lookup_insert_if, if_neg old] at there
      exact based.type defined other there

/-- The removal of an asset leaves the note, or takes it back. -/
theorem Based.dropAsset (based : ledger.Based) (assetId : AssetId) (asset : Asset) :
    (ledger.dropAsset assetId asset).Based := by
  by_cases base : asset.type = .base
  · constructor <;> simp [Memory.dropAsset, base]
  · constructor
    · simp only [Memory.dropAsset, if_neg base]
      exact based.issued
    · simp only [Memory.dropAsset, if_neg base]
      intro defined other there
      rw [Finmap.lookup_erase_if] at there
      split at there
      · contradiction
      · exact based.type defined other there

/-- Every step keeps the note of the base asset. -/
theorem Step.based (step : Step config ledger request response after) (based : ledger.Based) :
    after.Based := by
  cases step with
  | refused => exact based
  | asset result =>
    cases result with
    | found => exact based
    | added asset => exact based.addAsset asset
    | removed assetId asset => exact based.dropAsset assetId asset
  | account result => cases result <;> exact ⟨based.issued, based.type⟩
  | balance => exact based
  | deposit accepts member room =>
    exact (based.written config (_, _) member _ _).supplied
      (registered_written (_, _) member _ _ accepts.registered) _
  | withdraw accepts member room =>
    exact (based.written config (_, _) member _ _).supplied
      (registered_written (_, _) member _ _ accepts.registered) _
  | transfer accepts sent room debit received still =>
    subst debit
    exact (based.written config (_, _) sent _ _).written config (_, _) received _ _
  | stranded accepts sent room debit =>
    subst debit
    exact based.written config (_, _) sent _ _
  | clear => exact ⟨based.issued, by simp [Memory.clear, Finmap.lookup_empty]⟩

/-- Every reachable ledger has noted its base asset. -/
theorem Reachable.based {allowed : Memory → Call → Prop}
    (reachable : Reachable config region allowed ledger) : ledger.Based := by
  apply reachable.kept Based
  · exact ⟨by simp [empty], by simp [empty]⟩
  · exact fun _ _ _ _ step _ based _ => step.based based

end Invariant

section Selecting

variable {operation : Operation} {args : AssetArgs}

/-- The selector needs a variable for the id. -/
theorem base_given (type : args.assetType = some .base) {answer : AssetArgs}
    (called : ledger.call config (.retrieveAsset args operation) =
      some (after, ⟨none, .asset answer⟩)) : ∃ assetId, args.assetId = some assetId := by
  cases given : args.assetId with
  | some assetId => exact ⟨assetId, rfl⟩
  | none => simp [call, retrieveAsset, type, retrieveUnkeyedAsset, given, settle] at called

/-- A look-up by id goes to one id. -/
theorem lookForAssetId_run (looked : looks operation) (assetType : AssetType) {sought : AssetId}
    (goes : sought = if operation = .find ∧ assetType = .base ∧ ledger.baseAssetIdDefined then
      ledger.baseAssetId else assetId) (args : AssetArgs) :
    (lookForAssetId operation assetType assetId).run (ledger, args) =
      (findAssetInto sought >>= fun found =>
        if found then removeFoundAsset operation sought >>= fun _ => pure true
        else refuseIf (requires operation) ⟨"Asset not found", errorAssetNotFound⟩ >>=
          fun _ => pure false).run (ledger, args.withId sought) := by
  subst goes
  rw [lookForAssetId, if_pos looked]
  rfl

/-- `FIND` answers with the id of the base asset when one is noted. -/
theorem find_base (type : args.assetType = some .base)
    (defined : ledger.baseAssetIdDefined = true) {answer : AssetArgs}
    (called : ledger.call config (.retrieveAsset args .find) =
      some (after, ⟨none, .asset answer⟩)) : answer.assetId = some ledger.baseAssetId := by
  obtain ⟨assetId, given⟩ := base_given type called
  have goes : ledger.baseAssetId =
      if Operation.find = .find ∧ AssetType.base = .base ∧ ledger.baseAssetIdDefined then
        ledger.baseAssetId else assetId := by simp [defined]
  have looked := lookForAssetId_run (.inl (.inl rfl)) .base goes args
  cases found : ledger.lassidToAsset.lookup ledger.baseAssetId with
  | none =>
    simp [call, retrieveAsset, type, retrieveUnkeyedAsset, given, looked, findAssetInto, found,
      requires, settle] at called
  | some asset =>
    simp [call, retrieveAsset, type, retrieveUnkeyedAsset, given, looked, findAssetInto, found,
      removeFoundAsset, settle] at called
    simp [← called.2, given]

/-- An operation that goes to the id it is given finds the asset there. -/
theorem find_given (config : Config) (type : args.assetType = some .base)
    (given : args.assetId = some assetId)
    (found : ledger.lassidToAsset.lookup assetId = some asset) (finds : operation.finds)
    (direct : operation = .find → ledger.baseAssetIdDefined = false) :
    ledger.call config (.retrieveAsset args operation) =
      some (ledger, ⟨none, .asset ((args.withId assetId).fill asset)⟩) := by
  have goes : assetId =
      if operation = .find ∧ AssetType.base = .base ∧ ledger.baseAssetIdDefined then
        ledger.baseAssetId else assetId := by
    rw [if_neg]
    intro all
    simp [direct all.1] at all
  have keeps : operation ≠ .findAndRemove := by
    rintro rfl
    exact absurd finds (by decide)
  have looked := lookForAssetId_run (.inl finds) .base goes args
  simp [call, retrieveAsset, type, retrieveUnkeyedAsset, given, looked, findAssetInto, found,
    removeFoundAsset, keeps, settle]

/-- `FIND_AND_REMOVE` removes the asset of the id it is given. -/
theorem remove_given (config : Config) (registry : ledger.Registry)
    (type : args.assetType = some .base) (given : args.assetId = some assetId)
    (found : ledger.lassidToAsset.lookup assetId = some asset) (zero : asset.supply.toNat = 0) :
    ledger.call config (.retrieveAsset args .findAndRemove) =
      some (ledger.dropAsset assetId asset,
        ⟨none, .asset ((args.withId assetId).fill asset)⟩) := by
  have goes : assetId =
      if Operation.findAndRemove = .find ∧ AssetType.base = .base ∧ ledger.baseAssetIdDefined then
        ledger.baseAssetId else assetId := by simp
  have looked := lookForAssetId_run (.inr rfl) .base goes args
  have removed := removeAsset_run registry found zero
  simp [call, retrieveAsset, type, retrieveUnkeyedAsset, given, looked, findAssetInto, found,
    removeFoundAsset, removed, settle]

/-- A call that is not misdirected selects the base asset. -/
theorem selectsBase_of_directed (sound : ledger.Sound config) (based : ledger.Based)
    (type : args.assetType = some .base) (directed : ¬ledger.Misdirected operation args) :
    ledger.SelectsBase config operation args := by
  intro after answer called
  have registry := sound.registry
  have unkeyed : args.requestedKey = none := by simp [AssetArgs.requestedKey, type]
  obtain ⟨given, asked⟩ := base_given type called
  have step := call_step sound called
  cases step with
  | asset result =>
    cases result with
    | found assetId asset finds present _ named =>
      have keeps : operation ≠ .findAndRemove := by
        rintro rfl
        exact absurd finds (by decide)
      have base : asset.type = .base := by
        by_contra other
        rcases named unkeyed with direct | ⟨-, -, defined, rfl⟩
        · cases defined : ledger.baseAssetIdDefined with
          | false =>
            refine directed ⟨assetId, asset, direct, present, other, ?_⟩
            rcases finds with find | either
            · exact .inl ⟨find, defined⟩
            · exact .inr (.inl either)
          | true =>
            rcases finds with rfl | either
            · -- The answer is the id noted, so the asset found is the one registered there.
              have answered := find_base type defined called
              simp [direct] at answered
              subst answered
              exact other (based.type defined asset present)
            · exact directed ⟨assetId, asset, direct, present, other, .inr (.inl either)⟩
        · exact other (based.type defined asset present)
      have noted := (registry.base assetId asset present base).2
      subst noted
      refine ⟨?_, asset, base, ?_⟩
      · simp [asked]
      · rw [if_neg keeps]
        exact present
    | added asset creates _ same =>
      have keeps : operation ≠ .findAndRemove := by
        rintro rfl
        exact absurd creates (by decide)
      have base : asset.type = .base := Option.some.inj (same.symm.trans type)
      have noted : (ledger.addAsset asset).baseAssetId = ledger.nextAssetId := if_pos base
      refine ⟨?_, asset, base, ?_⟩
      · simp [noted, asked]
      · rw [if_neg keeps, noted, addAsset, Finmap.lookup_insert_if, if_pos rfl]
    | removed assetId asset removes present zero _ named =>
      have direct := named unkeyed
      have base : asset.type = .base := by
        by_contra other
        exact directed ⟨assetId, asset, direct, present, other, .inr (.inr ⟨removes, zero⟩)⟩
      have noted : (ledger.dropAsset assetId asset).baseAssetId = assetId :=
        (registry.base assetId asset present base).2
      refine ⟨?_, asset, base, ?_⟩
      · simp [noted, direct]
      · rw [if_pos removes, noted]
        exact ⟨present, rfl⟩

/-- A misdirected call selects an asset of another type. -/
theorem not_selectsBase_of_misdirected (registry : ledger.Registry)
    (type : args.assetType = some .base) (astray : ledger.Misdirected operation args) :
    ¬ledger.SelectsBase config operation args := by
  intro selects
  obtain ⟨assetId, asset, given, present, other, goes⟩ := astray
  have identified {after : Memory} (answered : ((args.withId assetId).fill asset).assetId =
      some after.baseAssetId) : after.baseAssetId = assetId := by
    simp [given] at answered
    exact answered.symm
  have finding (finds : operation.finds)
      (direct : operation = .find → ledger.baseAssetIdDefined = false) : False := by
    obtain ⟨answered, found, base, there⟩ :=
      selects _ _ (find_given config type given present finds direct)
    have keeps : operation ≠ .findAndRemove := by
      rintro rfl
      exact absurd finds (by decide)
    rw [if_neg keeps, identified answered, present, Option.some.injEq] at there
    exact other (there ▸ base)
  rcases goes with ⟨rfl, undefined⟩ | rfl | ⟨rfl, zero⟩
  · exact finding (.inl rfl) fun _ => undefined
  · exact finding (.inr rfl) (by simp)
  · obtain ⟨answered, found, base, there⟩ :=
      selects _ _ (remove_given config registry type given present zero)
    rw [if_pos rfl, identified answered, present, Option.some.injEq] at there
    exact other (there.1 ▸ base)

end Selecting

/-- In a reachable ledger the selector leads to the base asset exactly when it is not
misdirected. -/
theorem selectsBase_iff (config : Config) (region : ℕ → AccountBalance) (ledger : Memory)
    (operation : Operation) (args : AssetArgs)
    (reachable : Reachable config region AnyCall ledger) (type : args.assetType = some .base) :
    ledger.SelectsBase config operation args ↔ ¬ledger.Misdirected operation args := by
  constructor
  · intro selects astray
    exact not_selectsBase_of_misdirected reachable.sound.registry type astray selects
  · exact selectsBase_of_directed reachable.sound reachable.based type

/-- A selector of the base asset, over a variable that holds zero. -/
def selectBase : AssetArgs := ⟨some 0, none, none, none, some .base⟩

/-- The selector finds the base asset that was created first. -/
theorem selectsBase_created : ∃ ledger : Memory, ledger.baseAssetIdDefined = true ∧
    ledger.SelectsBase fewBalances .find selectBase := by
  obtain ⟨ledger, reachable, facts⟩ := exists_reachable fewBalances (fun _ => .zero) [createBase]
    (fun ledger => ((ledger.lassidToAsset.lookup 0).map Asset.type, ledger.baseAssetIdDefined))
    (some .base, true) (by decide +kernel)
  obtain ⟨created, defined⟩ := Prod.mk.inj facts
  refine ⟨ledger, defined, (selectsBase_iff _ _ ledger _ _ reachable rfl).mpr ?_⟩
  rintro ⟨assetId, asset, given, present, other, -⟩
  obtain rfl := Option.some.inj given
  rw [present] at created
  exact other (Option.some.inj created)

/-- Where there is no base asset, the selector finds the token whose id the variable holds. -/
theorem selector_finds_token :
    ¬∀ config region ledger operation args, Reachable config region AnyCall ledger →
      args.assetType = some .base → ledger.SelectsBase config operation args := by
  intro always
  obtain ⟨ledger, reachable, facts⟩ := exists_reachable fewBalances (fun _ => .zero)
    [retrieveToken .create]
    (fun ledger => ((ledger.lassidToAsset.lookup 0).map Asset.type, ledger.baseAssetIdDefined))
    (some .tokenAddress, false) (by decide +kernel)
  obtain ⟨created, undefined⟩ := Prod.mk.inj facts
  obtain ⟨asset, present, type⟩ := Option.map_eq_some_iff.mp created
  have astray : ledger.Misdirected .find selectBase :=
    ⟨0, asset, rfl, present, by simp [type], .inl ⟨rfl, undefined⟩⟩
  exact not_selectsBase_of_misdirected reachable.sound.registry rfl astray
    (always _ _ ledger .find selectBase reachable rfl)

end Memory

end Libcma

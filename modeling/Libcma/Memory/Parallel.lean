import Libcma.Lib.Alike
import Libcma.Memory.Mirrors
import Libcma.Memory.Limits

/-!
# The same retrieval on both ledgers

`retrieve_asset` and `retrieve_account` on a new ledger, and the same call with its ids renamed on a
ledger that mirrors it. They end alike, unless the cleared ledger runs into its limit before the new
one does, or comes across the base asset of before the reset.
-/

namespace Libcma

open Exec

namespace Memory

/-- Two states of a call: the ledgers mirror each other, and the variables of the callers
correspond. -/
def Beside {π : Type} (config : Config) (start : Memory) (same : π → π → Prop)
    (one two : Memory × π) : Prop :=
  Mirrors config start one.1 two.1 ∧ same one.2 two.2

/-- The variables of the one call are those of the other, renamed. -/
def RenamesAsset (config : Config) (start : Memory) (args answer : AssetArgs) : Prop :=
  answer = (start.shift config).assetArgs args

/-- The variables of the one call are those of the other, renamed. -/
def RenamesAccount (config : Config) (start : Memory) (args answer : AccountArgs) : Prop :=
  answer = (start.shift config).accountArgs args

/-- The variables hold the same, apart from the ids. -/
def SameValues (args answer : AssetArgs) : Prop :=
  { answer with assetId := none } = { args with assetId := none }

/-- Renamed variables hold the same, apart from the ids. -/
theorem RenamesAsset.values {config : Config} {start : Memory} {args answer : AssetArgs}
    (renames : start.RenamesAsset config args answer) : SameValues args answer := by
  subst renames
  rfl

variable {config : Config} {start fresh again : Memory} {operation : Operation}

/-- A look-up that did not end the call has left the ledgers, and leads on to a creation. -/
def LeadsOn {π : Type} (fresh again : Memory) (operation : Operation) (missing : Prop)
    (one two : Memory × π) : Prop :=
  one.1 = fresh ∧ two.1 = again ∧ Creates operation missing

section Leftovers

variable (config : Config) (start again : Memory)

/-- The ids issued before the reset are what keeps the cleared ledger from creating an asset. -/
def SpentAssets : Prop :=
  config.maxAssets ≤ again.nextAssetId ∧ again.nextAssetId < config.maxAssets + start.nextAssetId

/-- The ids issued before the reset are what keeps the cleared ledger from creating an account. -/
def SpentAccounts : Prop :=
  config.maxAccounts ≤ again.nextAccountId ∧
    again.nextAccountId < config.maxAccounts + start.nextAccountId

/-- The call comes to create an asset, and is refused for what the reset has left. -/
def CreatesLate (operation : Operation) (args : AssetArgs) : Prop :=
  again.CreatesAsset operation args ∧ (start.SpentAssets config again ∨
    args.assetType = some .base ∧ start.Stale again ∧ again.nextAssetId < config.maxAssets)

/-- The call looks for the base asset of before the reset, and not for the asset it names. -/
def FindsStale (operation : Operation) (args : AssetArgs) : Prop :=
  operation = .find ∧ args.assetType = some .base ∧ start.Stale again ∧
    ∃ assetId ∈ args.assetId, again.lassidToAsset.lookup assetId ≠ none

/-- The call meets what the reset has left: the id counters, or the note of the base asset. -/
def MeetsLeftovers : Call → Prop
  | .retrieveAsset args operation =>
    start.CreatesLate config again operation args ∨ start.FindsStale again operation args
  | .retrieveAccount args operation =>
    again.CreatesAccount operation args ∧ start.SpentAccounts config again
  | _ => False

instance (operation : Operation) (args : AssetArgs) :
    Decidable (start.CreatesLate config again operation args) := by
  unfold CreatesLate SpentAssets
  infer_instance

instance (operation : Operation) (args : AssetArgs) :
    Decidable (start.FindsStale again operation args) := by
  unfold FindsStale
  infer_instance

instance : Decidable (start.SpentAccounts config again) := inferInstanceAs (Decidable (_ ∧ _))

instance (request : Call) : Decidable (start.MeetsLeftovers config again request) :=
  match request with
  | .retrieveAsset _ _ => inferInstanceAs (Decidable (_ ∨ _))
  | .retrieveAccount _ _ => inferInstanceAs (Decidable (_ ∧ _))
  | .getBalance _ _ _ _ | .deposit _ _ _ | .withdraw _ _ _ | .transfer _ _ _ _ | .clear =>
    inferInstanceAs (Decidable False)

end Leftovers

section Assets

variable (mirrors : Mirrors config start fresh again) (registry : fresh.Registry)
  (likewise : again.Registry)

include mirrors registry likewise

/-- `remove_asset` goes alike. -/
theorem removeAsset_alike (assetId : AssetId) :
    ((removeAsset assetId).run fresh).Alike (fun _ => Mirrors config start)
      (Mirrors config start)
      ((removeAsset ((start.shift config).assets assetId)).run again) := by
  have known := mirrors.assets assetId
  cases registered : fresh.lassidToAsset.lookup assetId with
  | none =>
    rw [registered] at known
    simp only [removeAsset, bind_run, read_run, Outcome.andThen_ok, registered, known,
      orRaise_none, raise_run, Outcome.andThen_throw]
    exact .throw _ mirrors
  | some asset =>
    rw [registered] at known
    by_cases zero : asset.supply.toNat = 0
    · rw [removeAsset_run registry registered zero, removeAsset_run likewise known zero]
      exact .ok () (mirrors.dropAsset assetId asset)
    · have supplied : ¬isZero asset.supply = true := mt (isZero_iff _).mp zero
      simp only [removeAsset, bind_run, read_run, Outcome.andThen_ok, registered, known,
        orRaise_some, pure_run, refuseIf_run, if_pos supplied, Outcome.andThen_throw]
      exact .throw _ mirrors

/-- Removing the asset that was found goes alike. -/
theorem removeFoundAsset_alike (operation : Operation) (assetId : AssetId)
    {args answer : AssetArgs} (renames : start.RenamesAsset config args answer) :
    ((removeFoundAsset operation assetId).run (fresh, args)).Alike
      (fun _ => Beside config start (start.RenamesAsset config)) (Beside config start SameValues)
      ((removeFoundAsset operation ((start.shift config).assets assetId)).run
        (again, answer)) := by
  unfold removeFoundAsset
  split
  · apply (alike_onFirst (removeAsset_alike mirrors registry likewise assetId) args answer).mono
    · rintro _ ⟨_, _⟩ ⟨_, _⟩ ⟨kept, rfl, rfl⟩
      exact ⟨kept, renames⟩
    · rintro ⟨_, _⟩ ⟨_, _⟩ ⟨kept, rfl, rfl⟩
      exact ⟨kept, renames.values⟩
  · exact .ok () ⟨mirrors, renames⟩

/-- What a look-up by id does with what it found goes alike. -/
theorem found_alike (looked : looks operation) (assetId : AssetId) {args answer : AssetArgs}
    (renames : start.RenamesAsset config args answer) :
    ((findAssetInto assetId >>= fun found =>
        if found then removeFoundAsset operation assetId >>= fun _ => pure true
        else refuseIf (requires operation) ⟨"Asset not found", errorAssetNotFound⟩ >>=
          fun _ => pure false).run (fresh, args)).Alike
      (fun settled one two => Beside config start (start.RenamesAsset config) one two ∧
        (settled = false → LeadsOn fresh again operation
          (fresh.lassidToAsset.lookup assetId = none) one two))
      (Beside config start SameValues)
      ((findAssetInto ((start.shift config).assets assetId) >>= fun found =>
        if found then
          removeFoundAsset operation ((start.shift config).assets assetId) >>= fun _ => pure true
        else refuseIf (requires operation) ⟨"Asset not found", errorAssetNotFound⟩ >>=
          fun _ => pure false).run (again, answer)) := by
  have known := mirrors.assets assetId
  cases registered : fresh.lassidToAsset.lookup assetId with
  | none =>
    rw [registered] at known
    simp only [findAssetInto, bind_run, read_run, Outcome.andThen_ok, registered, known, pure_run,
      Bool.false_eq_true, if_false, refuseIf_run]
    by_cases required : requires operation
    · simp only [if_pos required, Outcome.andThen_throw]
      exact .throw _ ⟨mirrors, renames.values⟩
    · have either := findOrCreate_of_optional looked required
      simp only [if_neg required, Outcome.andThen_ok]
      exact .ok false ⟨⟨mirrors, renames⟩, fun _ => ⟨rfl, rfl, .inr ⟨either, trivial⟩⟩⟩
  | some asset =>
    rw [registered] at known
    simp only [findAssetInto, bind_run, read_run, Outcome.andThen_ok, registered, known, pure_run,
      update_run, if_true]
    have filled : start.RenamesAsset config (args.fill asset) (answer.fill asset) := by
      subst renames
      rfl
    apply alike_bind (removeFoundAsset_alike mirrors registry likewise operation assetId filled)
    intro _ one two beside
    simp only [pure_run]
    exact .ok true ⟨beside, fun unsettled => absurd unsettled (by decide)⟩

/-- Looking an asset up by id goes alike, unless `FIND` goes to the base asset of before the
reset. -/
theorem lookForAssetId_alike (assetType : AssetType) (assetId : AssetId) (args : AssetArgs)
    (tame : operation = .find → assetType = .base → start.Stale again →
      fresh.lassidToAsset.lookup assetId = none) :
    ((lookForAssetId operation assetType assetId).run (fresh, args)).Alike
      (fun settled one two => Beside config start (start.RenamesAsset config) one two ∧
        (settled = false → LeadsOn fresh again operation
          (fresh.lassidToAsset.lookup assetId = none) one two))
      (Beside config start SameValues)
      ((lookForAssetId operation assetType ((start.shift config).assets assetId)).run
        (again, (start.shift config).assetArgs args)) := by
  by_cases looked : looks operation
  · by_cases astray : operation = .find ∧ assetType = .base ∧ start.Stale again
    · obtain ⟨rfl, rfl, stale⟩ := astray
      have unnoted := mirrors.stale stale
      have absent := mirrors.stale_absent stale
      have direct : assetId =
          if Operation.find = .find ∧ AssetType.base = .base ∧ fresh.baseAssetIdDefined = true then
            fresh.baseAssetId else assetId := by simp [unnoted]
      have indirect : again.baseAssetId =
          if Operation.find = .find ∧ AssetType.base = .base ∧ again.baseAssetIdDefined = true then
            again.baseAssetId else (start.shift config).assets assetId := by simp [stale.1]
      rw [lookForAssetId_run looked .base direct, lookForAssetId_run looked .base indirect]
      simp only [findAssetInto, bind_run, read_run, Outcome.andThen_ok, tame rfl rfl stale, absent,
        pure_run, Bool.false_eq_true, if_false, refuseIf_run]
      exact .throw _ ⟨mirrors, rfl⟩
    · -- Both go to the base asset they note, or both go to the id they were given.
      obtain ⟨sought, direct, indirect⟩ : ∃ sought,
          (sought = if operation = .find ∧ assetType = .base ∧ fresh.baseAssetIdDefined = true then
            fresh.baseAssetId else assetId) ∧
          (start.shift config).assets sought =
            if operation = .find ∧ assetType = .base ∧ again.baseAssetIdDefined = true then
              again.baseAssetId else (start.shift config).assets assetId := by
        refine ⟨_, rfl, ?_⟩
        by_cases selects : operation = .find ∧ assetType = .base
        · obtain ⟨same, noted⟩ := mirrors.base fun stale => astray ⟨selects.1, selects.2, stale⟩
          rw [same]
          split
          · exact (noted (by simp_all)).symm
          · rfl
        · rw [if_neg fun all => selects ⟨all.1, all.2.1⟩,
            if_neg fun all => selects ⟨all.1, all.2.1⟩]
      rw [lookForAssetId_run looked assetType direct, lookForAssetId_run looked assetType indirect]
      apply (found_alike mirrors registry likewise looked sought
        ((start.shift config).assetArgs_withId args sought).symm).mono
      · rintro settled one two ⟨beside, leads⟩
        refine ⟨beside, fun unsettled => ?_⟩
        obtain ⟨kept, likewiseKept, creates⟩ := leads unsettled
        have other : operation ≠ .find := by
          rintro rfl
          simp [Creates] at creates
        rw [if_neg fun all => other all.1] at direct
        exact ⟨kept, likewiseKept, direct ▸ creates⟩
      · exact fun _ _ thrown => thrown
  · rw [lookForAssetId, lookForAssetId, if_neg looked, if_neg looked]
    exact .ok false ⟨⟨mirrors, rfl⟩, fun _ => ⟨rfl, rfl, creates_of_not_looks looked⟩⟩

/-- Looking an asset up by key goes alike. -/
theorem lookForAssetKey_alike (assetKey : AssetKey) (args : AssetArgs) :
    ((lookForAssetKey operation assetKey).run (fresh, args)).Alike
      (fun settled one two => Beside config start (start.RenamesAsset config) one two ∧
        (settled = false → LeadsOn fresh again operation
          (fresh.assetToLassid.lookup assetKey = none) one two))
      (Beside config start SameValues)
      ((lookForAssetKey operation assetKey).run
        (again, (start.shift config).assetArgs args)) := by
  by_cases looked : looks operation
  · rw [lookForAssetKey, if_pos looked, bind_run, bind_run, read_run, read_run,
      Outcome.andThen_ok, Outcome.andThen_ok, mirrors.assetKeys]
    cases named : fresh.assetToLassid.lookup assetKey with
    | none =>
      simp only [Option.map_none, bind_run, refuseIf_run]
      by_cases required : requires operation
      · simp only [if_pos required, Outcome.andThen_throw]
        exact .throw _ ⟨mirrors, rfl⟩
      · have either := findOrCreate_of_optional looked required
        simp only [if_neg required, Outcome.andThen_ok, pure_run]
        exact .ok false ⟨⟨mirrors, rfl⟩, fun _ => ⟨rfl, rfl, .inr ⟨either, trivial⟩⟩⟩
    | some assetId =>
      obtain ⟨asset, registered, -⟩ := (registry.assetKeys assetKey assetId).mp named
      have known := (mirrors.assets assetId).trans registered
      simp only [Option.map_some, findAssetInto, bind_run, read_run, Outcome.andThen_ok,
        registered, known, pure_run, update_run, refuseIf_run, not_true_eq_false, if_false]
      have filled : start.RenamesAsset config ((args.fill asset).withId assetId)
          ((((start.shift config).assetArgs args).fill asset).withId
            ((start.shift config).assets assetId)) :=
        ((start.shift config).assetArgs_withId (args.fill asset) assetId).symm
      apply alike_bind (removeFoundAsset_alike mirrors registry likewise operation assetId filled)
      intro _ one two beside
      simp only [pure_run]
      exact .ok true ⟨beside, fun unsettled => absurd unsettled (by decide)⟩
  · rw [lookForAssetKey, if_neg looked]
    exact .ok false ⟨⟨mirrors, rfl⟩, fun _ => ⟨rfl, rfl, creates_of_not_looks looked⟩⟩

omit registry likewise in
/-- A ledger at its limit is mirrored by one at its limit. -/
theorem assets_full (full : config.maxAssets ≤ fresh.nextAssetId) :
    config.maxAssets ≤ again.nextAssetId := by
  rw [mirrors.nextAsset]
  exact Nat.le_add_right_of_le full

omit registry likewise in
/-- The same asset is created under corresponding ids. -/
theorem addAsset_beside {args answer : AssetArgs}
    (renames : start.RenamesAsset config args answer)
    (room : ¬config.maxAssets ≤ fresh.nextAssetId) (asset : Asset) :
    Beside config start (start.RenamesAsset config)
      (fresh.addAsset asset, args.withId fresh.nextAssetId)
      (again.addAsset asset, answer.withId again.nextAssetId) := by
  have roomy := Nat.not_le.mp room
  rw [mirrors.next_asset roomy]
  subst renames
  exact ⟨mirrors.addAsset roomy asset, ((start.shift config).assetArgs_withId args _).symm⟩

/-- Creating an asset without a key goes alike, if both ledgers are at their limit or neither is,
and no base asset of before the reset is in the way. -/
theorem createAssetId_alike {assetType : AssetType} (unkeyed : (Asset.ofType assetType).key = none)
    {args answer : AssetArgs} (renames : start.RenamesAsset config args answer)
    (room : config.maxAssets ≤ again.nextAssetId → config.maxAssets ≤ fresh.nextAssetId)
    (single : assetType = .base → start.Stale again → config.maxAssets ≤ fresh.nextAssetId) :
    ((createAssetId config assetType).run (fresh, args)).Alike
      (fun _ => Beside config start (start.RenamesAsset config)) (Beside config start SameValues)
      ((createAssetId config assetType).run (again, answer)) := by
  rw [createAssetId_run config registry.asset_fresh unkeyed,
    createAssetId_run config likewise.asset_fresh unkeyed]
  by_cases full : config.maxAssets ≤ fresh.nextAssetId
  · rw [if_pos full, if_pos (assets_full mirrors full)]
    exact .throw _ ⟨mirrors, renames.values⟩
  · rw [if_neg full, if_neg (mt room full)]
    have same : assetType = .base ∧ again.baseAssetIdDefined = true ↔
        assetType = .base ∧ fresh.baseAssetIdDefined = true := by
      refine and_congr_right fun base => ?_
      rw [(mirrors.base fun stale => full (single base stale)).1]
    simp only [same]
    split
    · exact .throw _ ⟨mirrors, renames.values⟩
    · exact .ok () (addAsset_beside mirrors renames full _)

/-- Creating an asset with a key goes alike, if both ledgers are at their limit or neither is. -/
theorem createAssetKey_alike {assetKey : AssetKey} {newAsset : Asset}
    (keyed : newAsset.key = some assetKey)
    {args answer : AssetArgs} (renames : start.RenamesAsset config args answer)
    (room : config.maxAssets ≤ again.nextAssetId → config.maxAssets ≤ fresh.nextAssetId) :
    ((createAssetKey config assetKey newAsset).run (fresh, args)).Alike
      (fun _ => Beside config start (start.RenamesAsset config)) (Beside config start SameValues)
      ((createAssetKey config assetKey newAsset).run (again, answer)) := by
  rw [createAssetKey_run config registry.asset_fresh keyed,
    createAssetKey_run config likewise.asset_fresh keyed, mirrors.assetKeys, Option.isSome_map]
  by_cases full : config.maxAssets ≤ fresh.nextAssetId
  · rw [if_pos full, if_pos (assets_full mirrors full)]
    exact .throw _ ⟨mirrors, renames.values⟩
  · rw [if_neg full, if_neg (mt room full)]
    split
    · exact .throw _ ⟨mirrors, renames.values⟩
    · exact .ok () (addAsset_beside mirrors renames full _)

/-- `retrieve_asset` for a type without a key goes alike. -/
theorem retrieveUnkeyedAsset_alike {assetType : AssetType}
    (unkeyed : (Asset.ofType assetType).key = none) (args : AssetArgs)
    (room : (∃ assetId ∈ args.assetId,
      Creates operation (fresh.lassidToAsset.lookup assetId = none)) →
        config.maxAssets ≤ again.nextAssetId → config.maxAssets ≤ fresh.nextAssetId)
    (single : (∃ assetId ∈ args.assetId,
      Creates operation (fresh.lassidToAsset.lookup assetId = none)) →
        assetType = .base → start.Stale again → config.maxAssets ≤ fresh.nextAssetId)
    (tame : operation = .find → assetType = .base → start.Stale again →
      ∀ assetId ∈ args.assetId, fresh.lassidToAsset.lookup assetId = none) :
    ((retrieveUnkeyedAsset config operation assetType).run (fresh, args)).Alike
      (fun _ => Beside config start (start.RenamesAsset config)) (Beside config start SameValues)
      ((retrieveUnkeyedAsset config operation assetType).run
        (again, (start.shift config).assetArgs args)) := by
  have renamed : ((start.shift config).assetArgs args).assetId =
      args.assetId.map (start.shift config).assets := rfl
  cases given : args.assetId with
  | none =>
    rw [given] at renamed
    simp only [retrieveUnkeyedAsset, bind_run, read_run, Outcome.andThen_ok, given, renamed,
      Option.map_none, orRaise_none, raise_run, Outcome.andThen_throw]
    exact .throw _ ⟨mirrors, rfl⟩
  | some assetId =>
    rw [given] at renamed room single tame
    simp only [Option.mem_some_iff, exists_eq_left'] at room single
    unfold retrieveUnkeyedAsset
    simp only [bind_run, read_run, Outcome.andThen_ok, given, renamed, Option.map_some,
      orRaise_some, pure_run]
    apply alike_bind (lookForAssetId_alike mirrors registry likewise assetType assetId args
      fun finds base stale => tame finds base stale assetId rfl)
    rintro settled ⟨_, filled⟩ ⟨_, answer⟩ ⟨⟨kept, renames⟩, leads⟩
    dsimp only at kept renames
    split
    · obtain ⟨rfl, rfl, creates⟩ := leads (by simp_all)
      exact createAssetId_alike mirrors registry likewise unkeyed renames (room creates)
        (single creates)
    · exact .ok () ⟨kept, renames⟩

/-- `retrieve_asset` for a type with a key goes alike. -/
theorem retrieveKeyedAsset_alike {assetKey : AssetKey} {newAsset : Asset}
    (keyed : newAsset.key = some assetKey) (args : AssetArgs)
    (room : Creates operation (fresh.assetToLassid.lookup assetKey = none) →
      config.maxAssets ≤ again.nextAssetId → config.maxAssets ≤ fresh.nextAssetId) :
    ((retrieveKeyedAsset config operation assetKey newAsset).run (fresh, args)).Alike
      (fun _ => Beside config start (start.RenamesAsset config)) (Beside config start SameValues)
      ((retrieveKeyedAsset config operation assetKey newAsset).run
        (again, (start.shift config).assetArgs args)) := by
  unfold retrieveKeyedAsset
  apply alike_bind (lookForAssetKey_alike mirrors registry likewise assetKey args)
  rintro settled ⟨_, filled⟩ ⟨_, answer⟩ ⟨⟨kept, renames⟩, leads⟩
  dsimp only at kept renames
  split
  · obtain ⟨rfl, rfl, creates⟩ := leads (by simp_all)
    exact createAssetKey_alike mirrors registry likewise keyed renames (room creates)
  · exact .ok () ⟨kept, renames⟩

omit registry likewise in
/-- The renamed call comes to the creation of an asset on the one ledger when the call does on the
other. -/
theorem createsAsset_iff (operation : Operation) (args : AssetArgs) :
    again.CreatesAsset operation ((start.shift config).assetArgs args) ↔
      fresh.CreatesAsset operation args := by
  have unkeyed : (∃ assetId ∈ args.assetId.map (start.shift config).assets,
      Creates operation (again.lassidToAsset.lookup assetId = none)) ↔
        ∃ assetId ∈ args.assetId, Creates operation (fresh.lassidToAsset.lookup assetId = none) := by
    cases args.assetId with
    | none => simp
    | some assetId => simp [mirrors.assets]
  have keyed : (∃ key ∈ args.requestedKey,
      Creates operation (again.assetToLassid.lookup key = none)) ↔
        ∃ key ∈ args.requestedKey, Creates operation (fresh.assetToLassid.lookup key = none) := by
    simp only [mirrors.assetKeys, Option.map_eq_none_iff]
  have sameType : ((start.shift config).assetArgs args).assetType = args.assetType := rfl
  cases type : args.assetType with
  | none => simp only [CreatesAsset, sameType, type]
  | some assetType =>
    cases assetType <;> simp only [CreatesAsset, sameType, type] <;> first
      | exact unkeyed
      | exact keyed

omit registry likewise in
/-- A call that is not refused for what the reset has left meets the limit on both ledgers. -/
theorem full_of_creates {args : AssetArgs} (creates : fresh.CreatesAsset operation args)
    (early : ¬start.CreatesLate config again operation ((start.shift config).assetArgs args)) :
    (config.maxAssets ≤ again.nextAssetId → config.maxAssets ≤ fresh.nextAssetId) ∧
      (args.assetType = some .base → start.Stale again →
        config.maxAssets ≤ fresh.nextAssetId) := by
  have renamed := (createsAsset_iff mirrors operation args).mpr creates
  have room : config.maxAssets ≤ again.nextAssetId → config.maxAssets ≤ fresh.nextAssetId := by
    intro full
    by_contra roomy
    refine early ⟨renamed, .inl ⟨full, ?_⟩⟩
    rw [mirrors.nextAsset]
    exact Nat.add_lt_add_right (Nat.not_le.mp roomy) _
  refine ⟨room, fun base stale => room ?_⟩
  by_contra roomy
  exact early ⟨renamed, .inr ⟨base, stale, Nat.not_le.mp roomy⟩⟩

/-- `retrieve_asset` goes alike, if it does not meet what the reset has left. -/
theorem retrieveAsset_alike (args : AssetArgs)
    (tame : ¬start.MeetsLeftovers config again
      (.retrieveAsset ((start.shift config).assetArgs args) operation)) :
    ((retrieveAsset config operation).run (fresh, args)).Alike
      (fun _ => Beside config start (start.RenamesAsset config)) (Beside config start SameValues)
      ((retrieveAsset config operation).run (again, (start.shift config).assetArgs args)) := by
  obtain ⟨early, current⟩ := not_or.mp tame
  have limits (creates : fresh.CreatesAsset operation args) :=
    full_of_creates mirrors creates early
  have sameType : ((start.shift config).assetArgs args).assetType = args.assetType := rfl
  have sameAddress : ((start.shift config).assetArgs args).tokenAddress = args.tokenAddress := rfl
  have sameToken : ((start.shift config).assetArgs args).tokenId = args.tokenId := rfl
  cases type : args.assetType with
  | none =>
    simp only [retrieveAsset, bind_run, read_run, Outcome.andThen_ok, sameType, type]
    exact .throw _ ⟨mirrors, rfl⟩
  | some assetType =>
    cases assetType with
    | id =>
      simp only [retrieveAsset, bind_run, read_run, Outcome.andThen_ok, sameType, type]
      apply retrieveUnkeyedAsset_alike mirrors registry likewise rfl args
      · intro creates
        exact (limits (by simpa only [CreatesAsset, type] using creates)).1
      · simp
      · simp
    | base =>
      simp only [retrieveAsset, bind_run, read_run, Outcome.andThen_ok, sameType, type]
      apply retrieveUnkeyedAsset_alike mirrors registry likewise rfl args
      · intro creates
        exact (limits (by simpa only [CreatesAsset, type] using creates)).1
      · intro creates _
        exact (limits (by simpa only [CreatesAsset, type] using creates)).2 type
      · intro finds _ stale assetId given
        by_contra present
        refine current ⟨finds, type, stale, (start.shift config).assets assetId, ?_, ?_⟩
        · exact Option.mem_map_of_mem _ given
        · rw [mirrors.assets]
          exact present
    | tokenAddress =>
      simp only [retrieveAsset, bind_run, read_run, Outcome.andThen_ok, sameType, type,
        sameAddress]
      cases address : args.tokenAddress with
      | none => exact .throw _ ⟨mirrors, rfl⟩
      | some address =>
        apply retrieveKeyedAsset_alike mirrors registry likewise rfl args
        intro creates
        exact (limits (by simp [CreatesAsset, AssetArgs.requestedKey, *])).1
    | tokenAddressId =>
      simp only [retrieveAsset, bind_run, read_run, Outcome.andThen_ok, sameType, type,
        sameAddress, sameToken]
      cases address : args.tokenAddress with
      | none => exact .throw _ ⟨mirrors, rfl⟩
      | some address =>
        cases tokenId : args.tokenId with
        | none => exact .throw _ ⟨mirrors, rfl⟩
        | some tokenId =>
          apply retrieveKeyedAsset_alike mirrors registry likewise rfl args
          intro creates
          exact (limits (by simp [CreatesAsset, AssetArgs.requestedKey, *])).1
    | tokenAddressIdAmount =>
      simp only [retrieveAsset, bind_run, read_run, Outcome.andThen_ok, sameType, type,
        sameAddress, sameToken]
      cases address : args.tokenAddress with
      | none => exact .throw _ ⟨mirrors, rfl⟩
      | some address =>
        cases tokenId : args.tokenId with
        | none => exact .throw _ ⟨mirrors, rfl⟩
        | some tokenId =>
          apply retrieveKeyedAsset_alike mirrors registry likewise rfl args
          intro creates
          exact (limits (by simp [CreatesAsset, AssetArgs.requestedKey, *])).1

end Assets

section Accounts

variable (mirrors : Mirrors config start fresh again)

include mirrors

/-- `remove_account` goes alike. -/
theorem removeAccount_alike (registry : fresh.Registry) (likewise : again.Registry)
    (accountId : AccountId) :
    ((removeAccount accountId).run fresh).Alike (fun _ => Mirrors config start)
      (Mirrors config start)
      ((removeAccount ((start.shift config).accounts accountId)).run again) := by
  have known := mirrors.accounts accountId
  cases member : fresh.laccidToAccount.lookup accountId with
  | none =>
    rw [member] at known
    simp only [removeAccount, bind_run, read_run, Outcome.andThen_ok, member, known,
      orRaise_none, raise_run, Outcome.andThen_throw]
    exact .throw _ mirrors
  | some owner =>
    rw [member] at known
    by_cases zero : owner.nBalances = 0
    · rw [removeAccount_run registry member zero, removeAccount_run likewise known zero]
      exact .ok () (mirrors.dropAccount accountId owner.account)
    · have counts : 0 < owner.nBalances := Nat.pos_of_ne_zero zero
      simp only [removeAccount, bind_run, read_run, Outcome.andThen_ok, member, known,
        orRaise_some, pure_run, refuseIf_run, if_pos counts, Outcome.andThen_throw]
      exact .throw _ mirrors

/-- Removing the account that was found goes alike. -/
theorem removeFoundAccount_alike (registry : fresh.Registry) (likewise : again.Registry)
    (operation : Operation) (accountId : AccountId)
    {args answer : AccountArgs} (renames : start.RenamesAccount config args answer) :
    ((removeFoundAccount operation accountId).run (fresh, args)).Alike
      (fun _ => Beside config start (start.RenamesAccount config))
      (Beside config start (start.RenamesAccount config))
      ((removeFoundAccount operation ((start.shift config).accounts accountId)).run
        (again, answer)) := by
  unfold removeFoundAccount
  split
  · apply (alike_onFirst (removeAccount_alike mirrors registry likewise accountId)
      args answer).mono
    · rintro _ ⟨_, _⟩ ⟨_, _⟩ ⟨kept, rfl, rfl⟩
      exact ⟨kept, renames⟩
    · rintro ⟨_, _⟩ ⟨_, _⟩ ⟨kept, rfl, rfl⟩
      exact ⟨kept, renames⟩
  · exact .ok () ⟨mirrors, renames⟩

/-- Looking an account up by id goes alike. -/
theorem lookForAccountId_alike (registry : fresh.Registry) (likewise : again.Registry)
    (accountId : AccountId) (args : AccountArgs) :
    ((lookForAccountId operation accountId).run (fresh, args)).Alike
      (fun settled one two => Beside config start (start.RenamesAccount config) one two ∧
        (settled = false → LeadsOn fresh again operation
          (fresh.laccidToAccount.lookup accountId = none) one two))
      (Beside config start (start.RenamesAccount config))
      ((lookForAccountId operation ((start.shift config).accounts accountId)).run
        (again, (start.shift config).accountArgs args)) := by
  by_cases looked : looks operation
  · rw [lookForAccountId, lookForAccountId, if_pos looked, if_pos looked]
    have known := mirrors.accounts accountId
    cases member : fresh.laccidToAccount.lookup accountId with
    | none =>
      rw [member] at known
      simp only [findAccountInto, bind_run, read_run, Outcome.andThen_ok, member, known, pure_run,
        Bool.false_eq_true, if_false, refuseIf_run]
      by_cases required : requires operation
      · simp only [if_pos required, Outcome.andThen_throw]
        exact .throw _ ⟨mirrors, rfl⟩
      · have either := findOrCreate_of_optional looked required
        simp only [if_neg required, Outcome.andThen_ok]
        exact .ok false ⟨⟨mirrors, rfl⟩, fun _ => ⟨rfl, rfl, .inr ⟨either, trivial⟩⟩⟩
    | some owner =>
      rw [member] at known
      simp only [findAccountInto, bind_run, read_run, Outcome.andThen_ok, member, known, pure_run,
        update_run, if_true]
      have filled := ((start.shift config).accountArgs_copyType
        (args.fill owner.account (some owner.nBalances))).symm
      apply alike_bind
        (removeFoundAccount_alike mirrors registry likewise operation accountId filled)
      intro _ one two beside
      simp only [pure_run]
      exact .ok true ⟨beside, fun unsettled => absurd unsettled (by decide)⟩
  · rw [lookForAccountId, lookForAccountId, if_neg looked, if_neg looked]
    exact .ok false ⟨⟨mirrors, rfl⟩, fun _ => ⟨rfl, rfl, creates_of_not_looks looked⟩⟩

/-- Looking an account up by key goes alike. -/
theorem lookForAccountKey_alike (registry : fresh.Registry) (likewise : again.Registry)
    (accountKey : Bytes32) (args : AccountArgs) :
    ((lookForAccountKey operation accountKey).run (fresh, args)).Alike
      (fun settled one two => Beside config start (start.RenamesAccount config) one two ∧
        (settled = false → LeadsOn fresh again operation
          (fresh.accountToLaccid.lookup accountKey = none) one two))
      (Beside config start (start.RenamesAccount config))
      ((lookForAccountKey operation accountKey).run
        (again, (start.shift config).accountArgs args)) := by
  by_cases looked : looks operation
  · rw [lookForAccountKey, if_pos looked, bind_run, bind_run, read_run, read_run,
      Outcome.andThen_ok, Outcome.andThen_ok, mirrors.accountKeys]
    cases named : fresh.accountToLaccid.lookup accountKey with
    | none =>
      simp only [Option.map_none, bind_run, refuseIf_run]
      by_cases required : requires operation
      · simp only [if_pos required, Outcome.andThen_throw]
        exact .throw _ ⟨mirrors, rfl⟩
      · have either := findOrCreate_of_optional looked required
        simp only [if_neg required, Outcome.andThen_ok, pure_run]
        exact .ok false ⟨⟨mirrors, rfl⟩, fun _ => ⟨rfl, rfl, .inr ⟨either, trivial⟩⟩⟩
    | some accountId =>
      obtain ⟨account, registered, -⟩ := (registry.accountKeys accountKey accountId).mp named
      obtain ⟨owner, member, -⟩ := Option.map_eq_some_iff.mp registered
      have known := (mirrors.accounts accountId).trans member
      simp only [Option.map_some, findAccountInto, bind_run, read_run, Outcome.andThen_ok,
        member, known, pure_run, update_run, refuseIf_run, not_true_eq_false, if_false]
      have filled : start.RenamesAccount config
          ((args.fill owner.account (some owner.nBalances)).withId accountId).copyType
          ((((start.shift config).accountArgs args).fill owner.account
            (some owner.nBalances)).withId ((start.shift config).accounts accountId)).copyType := by
        unfold RenamesAccount
        rw [Renaming.accountArgs_copyType, Renaming.accountArgs_withId,
          Renaming.accountArgs_fill]
      apply alike_bind
        (removeFoundAccount_alike mirrors registry likewise operation accountId filled)
      intro _ one two beside
      simp only [pure_run]
      exact .ok true ⟨beside, fun unsettled => absurd unsettled (by decide)⟩
  · rw [lookForAccountKey, if_neg looked]
    exact .ok false ⟨⟨mirrors, rfl⟩, fun _ => ⟨rfl, rfl, creates_of_not_looks looked⟩⟩

/-- A ledger at its limit is mirrored by one at its limit. -/
theorem accounts_full (full : config.maxAccounts ≤ fresh.nextAccountId) :
    config.maxAccounts ≤ again.nextAccountId := by
  rw [mirrors.nextAccount]
  exact Nat.le_add_right_of_le full

/-- The renamed call comes to the creation of an account on the one ledger when the call does on
the other. -/
theorem createsAccount_iff (operation : Operation) (args : AccountArgs) :
    again.CreatesAccount operation ((start.shift config).accountArgs args) ↔
      fresh.CreatesAccount operation args := by
  have unkeyed : (∃ accountId ∈ args.accountId.map (start.shift config).accounts,
      Creates operation (again.laccidToAccount.lookup accountId = none)) ↔
        ∃ accountId ∈ args.accountId,
          Creates operation (fresh.laccidToAccount.lookup accountId = none) := by
    cases args.accountId with
    | none => simp
    | some accountId => simp [mirrors.accounts]
  have keyed : (∃ account ∈ args.requested,
      Creates operation (again.accountToLaccid.lookup account.accountId = none)) ↔
        ∃ account ∈ args.requested,
          Creates operation (fresh.accountToLaccid.lookup account.accountId = none) := by
    simp only [mirrors.accountKeys, Option.map_eq_none_iff]
  have sameType : ((start.shift config).accountArgs args).accountType = args.accountType := rfl
  cases type : args.accountType with
  | none => simp only [CreatesAccount, sameType, type]
  | some accountType =>
    cases accountType <;> simp only [CreatesAccount, sameType, type] <;> first
      | exact unkeyed
      | exact keyed

/-- A call that is not refused for what the reset has left meets the limit on both ledgers. -/
theorem full_of_createsAccount {args : AccountArgs} (creates : fresh.CreatesAccount operation args)
    (early : ¬start.MeetsLeftovers config again
      (.retrieveAccount ((start.shift config).accountArgs args) operation)) :
    config.maxAccounts ≤ again.nextAccountId → config.maxAccounts ≤ fresh.nextAccountId := by
  intro full
  by_contra roomy
  refine early ⟨(createsAccount_iff mirrors operation args).mpr creates, full, ?_⟩
  rw [mirrors.nextAccount]
  exact Nat.add_lt_add_right (Nat.not_le.mp roomy) _

/-- Creating an account without a key goes alike, if both ledgers are at their limit or neither
is. -/
theorem createAccountId_alike (registry : fresh.Registry) (likewise : again.Registry)
    {args answer : AccountArgs} (renames : start.RenamesAccount config args answer)
    (room : config.maxAccounts ≤ again.nextAccountId →
      config.maxAccounts ≤ fresh.nextAccountId) :
    ((createAccountId config).run (fresh, args)).Alike
      (fun _ => Beside config start (start.RenamesAccount config))
      (Beside config start (start.RenamesAccount config))
      ((createAccountId config).run (again, answer)) := by
  rw [createAccountId_run config registry.account_fresh,
    createAccountId_run config likewise.account_fresh]
  by_cases full : config.maxAccounts ≤ fresh.nextAccountId
  · rw [if_pos full, if_pos (accounts_full mirrors full)]
    exact .throw _ ⟨mirrors, renames⟩
  · have roomy := Nat.not_le.mp full
    rw [if_neg full, if_neg (mt room full), mirrors.next_account roomy]
    subst renames
    exact .ok () ⟨mirrors.addAccount roomy _, ((start.shift config).accountArgs_withId args _).symm⟩

/-- Creating an account with a key goes alike, if both ledgers are at their limit or neither is. -/
theorem createAccountKey_alike (registry : fresh.Registry) (likewise : again.Registry)
    {account : Account} (keyed : account.key = some account.accountId)
    {args answer : AccountArgs} (renames : start.RenamesAccount config args answer)
    (room : config.maxAccounts ≤ again.nextAccountId →
      config.maxAccounts ≤ fresh.nextAccountId) :
    ((createAccountKey config account).run (fresh, args)).Alike
      (fun _ => Beside config start (start.RenamesAccount config))
      (Beside config start (start.RenamesAccount config))
      ((createAccountKey config account).run (again, answer)) := by
  rw [createAccountKey_run config registry.account_fresh keyed,
    createAccountKey_run config likewise.account_fresh keyed, mirrors.accountKeys,
    Option.isSome_map]
  by_cases full : config.maxAccounts ≤ fresh.nextAccountId
  · rw [if_pos full, if_pos (accounts_full mirrors full)]
    exact .throw _ ⟨mirrors, renames⟩
  · have roomy := Nat.not_le.mp full
    rw [if_neg full, if_neg (mt room full), mirrors.next_account roomy]
    split
    · exact .throw _ ⟨mirrors, renames⟩
    · subst renames
      exact .ok () ⟨mirrors.addAccount roomy account,
        ((start.shift config).accountArgs_created args account _).symm⟩

/-- `retrieve_account` for an account without a key goes alike. -/
theorem retrieveUnkeyedAccount_alike (registry : fresh.Registry) (likewise : again.Registry)
    (args : AccountArgs)
    (room : (∃ accountId ∈ args.accountId,
      Creates operation (fresh.laccidToAccount.lookup accountId = none)) →
        config.maxAccounts ≤ again.nextAccountId → config.maxAccounts ≤ fresh.nextAccountId) :
    ((retrieveUnkeyedAccount config operation).run (fresh, args)).Alike
      (fun _ => Beside config start (start.RenamesAccount config))
      (Beside config start (start.RenamesAccount config))
      ((retrieveUnkeyedAccount config operation).run
        (again, (start.shift config).accountArgs args)) := by
  have renamed : ((start.shift config).accountArgs args).accountId =
      args.accountId.map (start.shift config).accounts := rfl
  unfold retrieveUnkeyedAccount
  cases given : args.accountId with
  | none =>
    rw [given] at renamed
    simp only [bind_run, read_run, Outcome.andThen_ok, given, renamed, Option.map_none,
      orRaise_none, raise_run, Outcome.andThen_throw]
    exact .throw _ ⟨mirrors, rfl⟩
  | some accountId =>
    rw [given] at renamed room
    simp only [Option.mem_some_iff, exists_eq_left'] at room
    simp only [bind_run, read_run, Outcome.andThen_ok, given, renamed, Option.map_some,
      orRaise_some, pure_run]
    apply alike_bind (lookForAccountId_alike mirrors registry likewise accountId args)
    rintro settled ⟨_, filled⟩ ⟨_, answer⟩ ⟨⟨kept, renames⟩, leads⟩
    dsimp only at kept renames
    split
    · obtain ⟨rfl, rfl, creates⟩ := leads (by simp_all)
      exact createAccountId_alike mirrors registry likewise renames (room creates)
    · exact .ok () ⟨kept, renames⟩

/-- `retrieve_account` for an account with a key goes alike. -/
theorem retrieveKeyedAccount_alike (registry : fresh.Registry) (likewise : again.Registry)
    {accountType : AccountType} (typed : accountType ≠ .id) (args : AccountArgs)
    (room : (∃ account ∈ args.local? accountType,
      Creates operation (fresh.accountToLaccid.lookup account.accountId = none)) →
        config.maxAccounts ≤ again.nextAccountId → config.maxAccounts ≤ fresh.nextAccountId) :
    ((retrieveKeyedAccount config operation accountType).run (fresh, args)).Alike
      (fun _ => Beside config start (start.RenamesAccount config))
      (Beside config start (start.RenamesAccount config))
      ((retrieveKeyedAccount config operation accountType).run
        (again, (start.shift config).accountArgs args)) := by
  have sameLocal : ((start.shift config).accountArgs args).local? accountType =
      args.local? accountType := rfl
  unfold retrieveKeyedAccount localAccount
  cases built : args.local? accountType with
  | none =>
    simp only [bind_run, read_run, Outcome.andThen_ok, sameLocal, built, orRaise_none, raise_run,
      Outcome.andThen_throw]
    exact .throw _ ⟨mirrors, rfl⟩
  | some account =>
    have keyed := Account.key_some (AccountArgs.local?_plain typed built).1
    rw [built] at room
    simp only [Option.mem_some_iff, exists_eq_left'] at room
    simp only [bind_run, read_run, Outcome.andThen_ok, sameLocal, built, orRaise_some, pure_run]
    apply alike_bind (lookForAccountKey_alike mirrors registry likewise account.accountId args)
    rintro settled ⟨_, filled⟩ ⟨_, answer⟩ ⟨⟨kept, renames⟩, leads⟩
    dsimp only at kept renames
    split
    · obtain ⟨rfl, rfl, creates⟩ := leads (by simp_all)
      exact createAccountKey_alike mirrors registry likewise keyed renames (room creates)
    · exact .ok () ⟨kept, renames⟩

/-- `retrieve_account` goes alike, if it does not meet what the reset has left. -/
theorem retrieveAccount_alike (registry : fresh.Registry) (likewise : again.Registry)
    (args : AccountArgs) (tame : ¬start.MeetsLeftovers config again
      (.retrieveAccount ((start.shift config).accountArgs args) operation)) :
    ((retrieveAccount config operation).run (fresh, args)).Alike
      (fun _ => Beside config start (start.RenamesAccount config))
      (Beside config start (start.RenamesAccount config))
      ((retrieveAccount config operation).run
        (again, (start.shift config).accountArgs args)) := by
  have limit (creates : fresh.CreatesAccount operation args) :=
    full_of_createsAccount mirrors creates tame
  have sameType : ((start.shift config).accountArgs args).accountType = args.accountType := rfl
  cases type : args.accountType with
  | none =>
    simp only [retrieveAccount, bind_run, read_run, Outcome.andThen_ok, sameType, type]
    exact .throw _ ⟨mirrors, rfl⟩
  | some accountType =>
    simp only [CreatesAccount, AccountArgs.requested, type] at limit
    simp only [retrieveAccount, bind_run, read_run, Outcome.andThen_ok, sameType, type]
    cases accountType with
    | id => exact retrieveUnkeyedAccount_alike mirrors registry likewise args limit
    | walletAddress =>
      exact retrieveKeyedAccount_alike mirrors registry likewise (by decide) args limit
    | accountId =>
      exact retrieveKeyedAccount_alike mirrors registry likewise (by decide) args limit

end Accounts

end Memory

end Libcma

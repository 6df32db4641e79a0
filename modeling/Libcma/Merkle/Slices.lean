import Libcma.Merkle.TreeProofs

/-!
# Slices of proofs

`slice` makes of a proof the proof of an ancestor of its node in a subtree of its tree. It verifies
what it made, and never fails to; slices of slices are slices, and a slice of a tree's proof up to
the root is the tree's proof of the ancestor.
-/

namespace Libcma.Merkle

open Exec

variable {keccak : List UInt8 → MachineHash} {σ : Type}

namespace HashTreeProof

/-- The sizes that `slice` accepts. -/
def Slices (proof : HashTreeProof) (newLog2RootSize newLog2TargetSize : ℤ) : Prop :=
  0 < newLog2RootSize ∧ newLog2RootSize ≤ proof.log2RootSize ∧
    proof.log2TargetSize ≤ newLog2TargetSize ∧ newLog2TargetSize ≤ newLog2RootSize

instance (proof : HashTreeProof) (newLog2RootSize newLog2TargetSize : ℤ) :
    Decidable (proof.Slices newLog2RootSize newLog2TargetSize) :=
  inferInstanceAs (Decidable (_ ∧ _))

/-- The hash that a node's hash climbs to past the first siblings. -/
def climbed (keccak : List UInt8 → MachineHash) (proof : HashTreeProof) (count : ℕ) :
    MachineHash :=
  HashTree.climb (join keccak) proof.index proof.targetHash (proof.siblingHashes.take count)

/-- The proof of an ancestor in a subtree: so many levels up, with so many siblings. -/
def sliced (keccak : List UInt8 → MachineHash) (proof : HashTreeProof) (up count : ℕ)
    (positive : 0 < proof.target + up + count)
    (fits : up + count ≤ proof.siblingHashes.length) : HashTreeProof where
  targetAddress := proof.targetAddress >>> (proof.target + up) <<< (proof.target + up)
  log2TargetSize := ((proof.target + up : ℕ) : ℤ)
  targetHash := proof.climbed keccak up
  log2RootSize := ((proof.target + (up + count) : ℕ) : ℤ)
  rootHash := proof.climbed keccak (up + count)
  siblingHashes := (proof.siblingHashes.drop up).take count
  rootPos := by omega
  targetNat := by omega
  targetLe := by omega
  sized := by
    rw [List.length_take, List.length_drop]
    omega

variable (keccak) in
/-- The second loop of `slice` climbs and copies the siblings. -/
theorem sliceFrom_run {proof : HashTreeProof} {count : ℕ} (up first : ℕ) (other : HashTreeProof)
    (bounded : proof.target + (up + (first + count)) ≤ 64)
    (target : other.target = proof.target + up)
    (total : up + (first + count) ≤ proof.siblingHashes.length)
    (length : other.siblingHashes.length = first + count) (hash : MachineHash) (state : σ) :
    ∃ sized, (proof.sliceFrom keccak count ((other.target + first : ℕ) : ℤ) hash other).run state =
      .ok (HashTree.climb (join keccak) (proof.index / 2 ^ (up + first)) hash
          ((proof.siblingHashes.drop (up + first)).take count),
        other.withSiblings (other.siblingHashes.take first ++
          (proof.siblingHashes.drop (up + first)).take count) sized) state := by
  induction count generalizing first hash other with
  | zero =>
    have all : other.siblingHashes.take first = other.siblingHashes := by
      rw [List.take_of_length_le (by omega)]
    refine ⟨by simp [all], ?_⟩
    simp [sliceFrom, HashTree.climb, all, withSiblings]
  | succ count ih =>
    have inside : up + first < proof.siblingHashes.length := by omega
    have bound : first < other.siblingHashes.length := by omega
    have size : ((other.target + first : ℕ) : ℤ) = ((proof.target + (up + first) : ℕ) : ℤ) := by
      omega
    have next : ((other.target + first : ℕ) : ℤ) + 1 = ((other.target + (first + 1) : ℕ) : ℤ) := by
      omega
    have index : proof.targetAddress.toNat / 2 ^ (proof.target + (up + first)) =
        proof.index / 2 ^ (up + first) := by
      rw [HashTreeProof.index, Nat.div_div_eq_div_mul, pow_add]
    have parent : proof.index / 2 ^ (up + (first + 1)) = proof.index / 2 ^ (up + first) / 2 :=
      HashTree.div_pow_succ _ _
    obtain ⟨sized, later⟩ := ih (first + 1)
      (other.withSiblings (other.siblingHashes.set first proof.siblingHashes[up + first])
        List.length_set)
      (by omega) target (by omega) (List.length_set.trans (by omega))
      (join keccak (HashTree.pair (proof.index / 2 ^ (up + first)) hash
        proof.siblingHashes[up + first]))
    have joined := take_set_succ bound proof.siblingHashes[up + first]
      ((proof.siblingHashes.drop (up + (first + 1))).take count)
    have sibling := getSiblingHash_run inside state
    rw [← size] at sibling
    rw [List.drop_eq_getElem_cons inside, List.take_succ_cons, HashTree.climb, ← parent]
    refine ⟨(congrArg List.length joined).symm.trans (sized.trans List.length_set), ?_⟩
    rw [sliceFrom, bind_run, size, addressBit_run _ (by omega), Outcome.andThen_ok, bind_run,
      ← size, sibling, Outcome.andThen_ok, bind_run, setSiblingHash_run bound, Outcome.andThen_ok,
      index, join_eq, next]
    refine later.trans ?_
    congr 1
    refine Prod.ext rfl ?_
    exact HashTreeProof.ext rfl rfl rfl rfl rfl joined

section Sizes

variable {proof : HashTreeProof} {up count : ℕ} (positive : 0 < proof.target + up + count)
  (fits : up + count ≤ proof.siblingHashes.length)

/-- The sizes of the proof of an ancestor. -/
theorem target_sliced :
    (proof.sliced keccak up count positive fits).target = proof.target + up := by
  rw [HashTreeProof.target, sliced, Int.toNat_natCast]

theorem root_sliced :
    (proof.sliced keccak up count positive fits).root = proof.target + (up + count) := by
  rw [HashTreeProof.root, sliced, Int.toNat_natCast]

/-- The number of its siblings. -/
theorem length_sliced :
    (proof.sliced keccak up count positive fits).siblingHashes.length = count := by
  rw [sliced, List.length_take, List.length_drop]
  omega

end Sizes

/-- The index of an ancestor. -/
theorem index_sliced {proof : HashTreeProof} {up count : ℕ}
    (positive : 0 < proof.target + up + count)
    (fits : up + count ≤ proof.siblingHashes.length) :
    (proof.sliced keccak up count positive fits).index = proof.index / 2 ^ up := by
  rw [HashTreeProof.index, target_sliced, HashTreeProof.index]
  change (proof.targetAddress >>> (proof.target + up) <<< (proof.target + up)).toNat / _ = _
  rw [toNat_align, Nat.mul_div_cancel _ (Nat.two_pow_pos _), pow_add, Nat.div_div_eq_div_mul]

/-- From an ancestor, the climb goes on. -/
theorem climbed_add {proof : HashTreeProof} {up more : ℕ}
    (fits : up ≤ proof.siblingHashes.length) :
    HashTree.climb (join keccak) (proof.index / 2 ^ up) (proof.climbed keccak up)
        ((proof.siblingHashes.drop up).take more) = proof.climbed keccak (up + more) := by
  have front : (proof.siblingHashes.take up).length = up := by
    rw [List.length_take]
    omega
  have parts : proof.siblingHashes.take (up + more) =
      proof.siblingHashes.take up ++ (proof.siblingHashes.drop up).take more := List.take_add
  rw [climbed, climbed, parts, HashTree.climb_append, front]

variable (keccak) in
/-- Climbing from an ancestor is climbing past it. -/
theorem climbed_sliced {proof : HashTreeProof} {up count more : ℕ}
    (positive : 0 < proof.target + up + count)
    (fits : up + count ≤ proof.siblingHashes.length) (within : more ≤ count) :
    (proof.sliced keccak up count positive fits).climbed keccak more =
      proof.climbed keccak (up + more) := by
  rw [← climbed_add (by omega), climbed, index_sliced]
  change HashTree.climb _ _ (proof.climbed keccak up)
    (((proof.siblingHashes.drop up).take count).take more) = _
  rw [List.take_take, Nat.min_eq_left within]

/-- The proof of an ancestor verifies. -/
theorem climb_sliced {proof : HashTreeProof} {up count : ℕ}
    (positive : 0 < proof.target + up + count)
    (fits : up + count ≤ proof.siblingHashes.length) :
    (proof.sliced keccak up count positive fits).climb keccak
        (proof.sliced keccak up count positive fits).targetHash =
      (proof.sliced keccak up count positive fits).rootHash := by
  have all := climbed_sliced keccak positive fits (Nat.le_refl count)
  rw [climbed, List.take_of_length_le (Nat.le_of_eq (length_sliced positive fits))] at all
  exact all

variable (keccak) in
/-- `slice` makes the proof of the ancestor. -/
theorem slice_run {proof : HashTreeProof} (up count : ℕ)
    (bounded : proof.target + (up + count) ≤ 64) (shifts : proof.target + up < 64)
    (positive : 0 < proof.target + up + count)
    (fits : up + count ≤ proof.siblingHashes.length) (state : σ) :
    (proof.slice keccak ((proof.target + (up + count) : ℕ) : ℤ)
        ((proof.target + up : ℕ) : ℤ)).run state =
      .ok (proof.sliced keccak up count positive fits) state := by
  have whole := proof.target_add_length
  have rootSize := proof.log2RootSize_eq
  have targetSize := proof.log2TargetSize_eq
  have checks : ¬((proof.target + (up + count) : ℕ) : ℤ) ≤ 0 ∧
      ¬((proof.target + up : ℕ) : ℤ) < 0 ∧
      ¬((proof.target + (up + count) : ℕ) : ℤ) < ((proof.target + up : ℕ) : ℤ) ∧
      ¬proof.log2RootSize < ((proof.target + (up + count) : ℕ) : ℤ) ∧
      ¬((proof.target + up : ℕ) : ℤ) < proof.log2TargetSize := by omega
  obtain ⟨rootPos, targetNat, ordered, large, small⟩ := checks
  obtain ⟨other, constructed, otherRoot, otherTarget⟩ := hashTreeProof_run
    (proof.target + (up + count)) (proof.target + up) (by omega) (by omega) (by omega) state
  have upCount : (((proof.target + up : ℕ) : ℤ) - proof.log2TargetSize).toNat = up := by omega
  have siblingCount : (((proof.target + (up + count) : ℕ) : ℤ) -
      ((proof.target + up : ℕ) : ℤ)).toNat = count := by omega
  have start := bubbleUpFrom_run keccak up 0 (by omega : proof.target + (0 + up) ≤ 64) (by omega)
    proof.targetHash state
  rw [Nat.add_zero, ← targetSize, pow_zero, Nat.div_one, List.drop_zero, ← climbed] at start
  have target : other.target = proof.target + up := by
    rw [HashTreeProof.target, otherTarget, Int.toNat_natCast]
  have length : other.siblingHashes.length = 0 + count := by
    rw [other.sized, otherRoot, otherTarget, siblingCount, Nat.zero_add]
  obtain ⟨sized, looped⟩ := sliceFrom_run keccak up 0
    { other with targetHash := proof.climbed keccak up }
    (by omega) target (by omega) length (proof.climbed keccak up) state
  have otherSize : (({ other with
      targetHash := proof.climbed keccak up } : HashTreeProof).target + 0 : ℕ) =
      proof.target + up := target
  rw [otherSize] at looped
  have shifted : ((proof.target + up : ℕ) : ℤ) < 64 := by omega
  have same : ({ ({ other with targetHash := proof.climbed keccak up } : HashTreeProof).withSiblings
      (other.siblingHashes.take 0 ++ (proof.siblingHashes.drop up).take count) sized with
      rootHash := HashTree.climb (join keccak) (proof.index / 2 ^ up) (proof.climbed keccak up)
        ((proof.siblingHashes.drop up).take count)
      targetAddress := proof.targetAddress >>> (proof.target + up) <<< (proof.target + up) } :
      HashTreeProof) = proof.sliced keccak up count positive fits := by
    apply HashTreeProof.ext
    · rfl
    · exact otherTarget
    · rfl
    · exact otherRoot
    · exact climbed_add (by omega)
    · rfl
  have slicedRoot : (proof.sliced keccak up count positive fits).root ≤ 64 := by
    rw [root_sliced]
    exact bounded
  have verified := verify_run keccak slicedRoot state
  rw [climb_sliced, decide_eq_true rfl] at verified
  have checked : ∀ made : HashTreeProof, made = proof.sliced keccak up count positive fits →
      ((made.verify keccak).run state).andThen (fun verified => do
        refuseIf (verified = false) "produced invalid sliced proof"
        pure made) = .ok (proof.sliced keccak up count positive fits) state := by
    intro made is
    rw [is, verified, Outcome.andThen_ok, bind_run, refuseIf_run, if_neg Bool.noConfusion,
      Outcome.andThen_ok, pure_run]
  simp only [slice, bind_run, refuseIf_run, if_neg rootPos, if_neg targetNat, if_neg ordered,
    if_neg large, if_neg small, Outcome.andThen_ok, constructed, upCount, start, siblingCount]
  rw [looped]
  simp only [Outcome.andThen_ok, bind_run, Int.toNat_natCast, if_pos shifted, orUndefined_some,
    pure_run]
  exact checked _ same

/-- A second loop that came to its end tested bits of the address only. -/
theorem sliceFrom_ok {proof other : HashTreeProof} {count : ℕ} {log2Size : ℤ} {hash : MachineHash}
    {result : MachineHash × HashTreeProof} {state after : σ} (within : log2Size ≤ 64)
    (looped : (proof.sliceFrom keccak count log2Size hash other).run state = .ok result after) :
    log2Size + count ≤ 64 := by
  induction count generalizing log2Size hash other state with
  | zero =>
    rw [Nat.cast_zero, Int.add_zero]
    exact within
  | succ count ih =>
    obtain ⟨bit, tested, small, later⟩ := Outcome.andThen_eq_ok looped
    have below := addressBit_ok small
    obtain ⟨sibling, _, -, later⟩ := Outcome.andThen_eq_ok later
    obtain ⟨written, _, -, later⟩ := Outcome.andThen_eq_ok later
    have rest := ih (by omega) later
    omega

/-- A slice that was made shifts the address by less than 64 bits. -/
theorem slice_ok {proof made : HashTreeProof} {newRoot newTarget : ℤ} {state after : σ}
    (returned : (proof.slice keccak newRoot newTarget).run state = .ok made after) :
    newRoot ≤ 64 ∧ newTarget < 64 := by
  obtain ⟨_, _, -, returned⟩ := Outcome.andThen_eq_ok returned
  obtain ⟨_, _, -, returned⟩ := Outcome.andThen_eq_ok returned
  obtain ⟨_, _, -, returned⟩ := Outcome.andThen_eq_ok returned
  obtain ⟨_, _, -, returned⟩ := Outcome.andThen_eq_ok returned
  obtain ⟨_, _, -, returned⟩ := Outcome.andThen_eq_ok returned
  obtain ⟨_, _, -, returned⟩ := Outcome.andThen_eq_ok returned
  obtain ⟨_, _, -, returned⟩ := Outcome.andThen_eq_ok returned
  obtain ⟨⟨hash, sliced⟩, _, looped, returned⟩ := Outcome.andThen_eq_ok returned
  obtain ⟨_, _, shifted, -⟩ := Outcome.andThen_eq_ok returned
  have small : newTarget < 64 := by
    by_contra large
    rw [if_neg large, orUndefined_none] at shifted
    cases shifted
  have rest := sliceFrom_ok (Int.le_of_lt small) looped
  omega

/-- A slice to the size 64 alone shifts the address by 64 bits. -/
theorem slice_undefined {proof : HashTreeProof} (below : proof.target ≤ 64)
    (above : 64 ≤ proof.root) (state : σ) : (proof.slice keccak 64 64).run state = .undefined := by
  have whole := proof.target_add_length
  have rootSize := proof.log2RootSize_eq
  have targetSize := proof.log2TargetSize_eq
  have large : ¬proof.log2RootSize < 64 := by omega
  have small : ¬(64 : ℤ) < proof.log2TargetSize := by omega
  obtain ⟨other, constructed, -⟩ :=
    hashTreeProof_run 64 64 (by decide) (by decide) (by decide) state
  have start := bubbleUpFrom_run keccak (64 - proof.target) 0
    (by omega : proof.target + (0 + (64 - proof.target)) ≤ 64) (by omega) proof.targetHash state
  have count : ((64 : ℤ) - proof.log2TargetSize).toNat = 64 - proof.target := by omega
  rw [Nat.add_zero, ← targetSize] at start
  have positive : ¬(64 : ℤ) ≤ 0 := by decide
  have natural : ¬(64 : ℤ) < 0 := by decide
  have ordered : ¬(64 : ℤ) < 64 := by decide
  have made : ((64 : ℕ) : ℤ) = 64 := rfl
  rw [made] at constructed
  simp only [slice, bind_run, refuseIf_run, if_neg positive, if_neg natural, if_neg ordered,
    if_neg large, if_neg small, Outcome.andThen_ok, constructed, count, start, Int.sub_self,
    Int.toNat_zero, sliceFrom, pure_run, orUndefined_none, Outcome.andThen_undefined]

/-- Sizes that `slice` accepts are some levels up and some siblings. -/
theorem Slices.exists_counts {proof : HashTreeProof} {newRoot newTarget : ℤ}
    (slices : proof.Slices newRoot newTarget) :
    ∃ up count, newTarget = ((proof.target + up : ℕ) : ℤ) ∧
      newRoot = ((proof.target + (up + count) : ℕ) : ℤ) ∧ 0 < proof.target + up + count ∧
      up + count ≤ proof.siblingHashes.length := by
  obtain ⟨positive, within, above, ordered⟩ := slices
  have whole := proof.target_add_length
  have rootSize := proof.log2RootSize_eq
  have targetSize := proof.log2TargetSize_eq
  exact ⟨(newTarget - proof.target).toNat, (newRoot - newTarget).toNat, by omega, by omega,
    by omega, by omega⟩

/-- What `slice` throws for sizes it does not accept. -/
def sliceError (proof : HashTreeProof) (newRoot newTarget : ℤ) : String :=
  if newRoot ≤ 0 then "log2_root_size is not positive"
  else if newTarget < 0 then "log2_target_size is negative"
  else if newRoot < newTarget then "log2_target_size is greater than log2_root_size"
  else if proof.log2RootSize < newRoot then "log2_root_size is too large"
  else "log2_target_size is too small"

/-- `slice` refuses all other sizes. -/
theorem slice_refuses {proof : HashTreeProof} {newRoot newTarget : ℤ}
    (outside : ¬proof.Slices newRoot newTarget) (state : σ) :
    (proof.slice keccak newRoot newTarget).run state =
      .throw (proof.sliceError newRoot newTarget) state := by
  unfold slice sliceError
  by_cases first : newRoot ≤ 0
  · simp [first]
  by_cases second : newTarget < 0
  · simp [first, second]
  by_cases third : newRoot < newTarget
  · simp [first, second, third]
  by_cases fourth : proof.log2RootSize < newRoot
  · simp [first, second, third, fourth]
  have fifth : newTarget < proof.log2TargetSize := by
    by_contra large
    exact outside ⟨by omega, by omega, by omega, by omega⟩
  simp [first, second, third, fourth, fifth]

/-- What `slice` throws is about the sizes. -/
theorem sliceError_ne (proof : HashTreeProof) (newRoot newTarget : ℤ) :
    proof.sliceError newRoot newTarget ≠ "produced invalid sliced proof" := by
  unfold sliceError
  repeat' split
  all_goals decide

/-- A slice of a proof of 64-bit addresses is made for exactly the sizes in order, and then it
verifies: `slice` never finds that it made an invalid proof. A slice up to the root has the root's
hash exactly when the proof verifies. -/
theorem slice_verifies (proof : HashTreeProof) (bounded : proof.log2RootSize < 64)
    (newRoot newTarget : ℤ) :
    ((∃ made, (proof.slice keccak newRoot newTarget).run () = .ok made ()) ↔
        proof.Slices newRoot newTarget) ∧
      (∀ error, (proof.slice keccak newRoot newTarget).run () = .throw error () →
        error ≠ "produced invalid sliced proof") ∧
      ∀ made, (proof.slice keccak newRoot newTarget).run () = .ok made () →
        (made.verify keccak).run () = .ok true () ∧
          made.log2RootSize = newRoot ∧ made.log2TargetSize = newTarget ∧
          made.targetAddress.toNat =
            proof.targetAddress.toNat / 2 ^ newTarget.toNat * 2 ^ newTarget.toNat ∧
          (newRoot = proof.log2RootSize →
            ((proof.verify keccak).run () = .ok true () ↔ made.rootHash = proof.rootHash)) := by
  have rootSize := proof.log2RootSize_eq
  have small : proof.root < 64 := by omega
  by_cases slices : proof.Slices newRoot newTarget
  · obtain ⟨up, count, rfl, rfl, positive, fits⟩ := slices.exists_counts
    have whole := proof.target_add_length
    have run := slice_run keccak up count (by omega) (by omega) positive fits ()
    rw [run]
    refine ⟨⟨fun _ => slices, fun _ => ⟨_, rfl⟩⟩, ?noError, ?_⟩
    case noError =>
      intro error thrown
      cases thrown
    intro made returned
    cases returned
    have slicedRoot : (proof.sliced keccak up count positive fits).root ≤ 64 := by
      rw [root_sliced]
      omega
    refine ⟨?_, rfl, rfl, ?_, ?_⟩
    · rw [verify_run _ slicedRoot, climb_sliced, decide_eq_true rfl]
    · rw [Int.toNat_natCast]
      exact toNat_align _ _
    · intro top
      have all : proof.siblingHashes.length = up + count := by omega
      have rootHash : (proof.sliced keccak up count positive fits).rootHash =
          proof.climb keccak proof.targetHash := by
        change proof.climbed keccak (up + count) = _
        rw [climbed, ← all, List.take_length, climb]
      rw [verify_run _ (Nat.le_of_lt small), rootHash]
      constructor
      · intro verified
        exact of_decide_eq_true (Outcome.ok.inj verified).1
      · intro same
        rw [decide_eq_true same]
  · rw [slice_refuses slices]
    refine ⟨⟨fun made => ?_, fun accepted => absurd accepted slices⟩, ?_, ?_⟩
    · obtain ⟨_, returned⟩ := made
      cases returned
    · intro error thrown
      cases thrown
      exact sliceError_ne proof newRoot newTarget
    · intro made returned
      cases returned

/-- The proof of a leaf, sliced to itself. -/
theorem slice_verifies_leaf :
    ((∃ made, ((twoBytes.proof firstBytes (by decide) [zeros 32] 1 0 (by decide)).slice firstBytes
        1 0).run () = .ok made ()) ↔
        (twoBytes.proof firstBytes (by decide) [zeros 32] 1 0 (by decide)).Slices 1 0) ∧
      (∀ error, ((twoBytes.proof firstBytes (by decide) [zeros 32] 1 0 (by decide)).slice firstBytes
        1 0).run () = .throw error () → error ≠ "produced invalid sliced proof") ∧
      ∀ made, ((twoBytes.proof firstBytes (by decide) [zeros 32] 1 0 (by decide)).slice firstBytes
        1 0).run () = .ok made () →
        (made.verify firstBytes).run () = .ok true () ∧
          made.log2RootSize = 1 ∧ made.log2TargetSize = 0 ∧
          made.targetAddress.toNat = 1 / 2 ^ 0 * 2 ^ 0 ∧
          ((1 : ℤ) = 1 →
            (((twoBytes.proof firstBytes (by decide) [zeros 32] 1 0 (by decide)).verify
              firstBytes).run () = .ok true () ↔
              made.rootHash =
                (twoBytes.proof firstBytes (by decide) [zeros 32] 1 0 (by decide)).rootHash)) :=
  slice_verifies (twoBytes.proof firstBytes (by decide) [zeros 32] 1 0 (by decide)) (by decide) 1 0

/-- An ancestor of an ancestor is an ancestor. -/
theorem sliced_sliced {proof : HashTreeProof} {up count more rest : ℕ}
    (positive : 0 < proof.target + up + count)
    (fits : up + count ≤ proof.siblingHashes.length)
    (nonempty : 0 < (proof.sliced keccak up count positive fits).target + more + rest)
    (inside : more + rest ≤ (proof.sliced keccak up count positive fits).siblingHashes.length)
    (positiveAll : 0 < proof.target + (up + more) + rest)
    (fitsAll : up + more + rest ≤ proof.siblingHashes.length) :
    (proof.sliced keccak up count positive fits).sliced keccak more rest nonempty inside =
      proof.sliced keccak (up + more) rest positiveAll fitsAll := by
  have within := inside
  rw [length_sliced] at within
  have size : (proof.sliced keccak up count positive fits).target + more =
      proof.target + (up + more) := by
    rw [target_sliced, Nat.add_assoc]
  apply HashTreeProof.ext
  · change (proof.targetAddress >>> (proof.target + up) <<< (proof.target + up)) >>>
      ((proof.sliced keccak up count positive fits).target + more) <<<
      ((proof.sliced keccak up count positive fits).target + more) =
      proof.targetAddress >>> (proof.target + (up + more)) <<< (proof.target + (up + more))
    rw [size, align_align _ (by omega)]
  · change (((proof.sliced keccak up count positive fits).target + more : ℕ) : ℤ) = _
    rw [size]
    rfl
  · exact climbed_sliced keccak positive fits (by omega)
  · change (((proof.sliced keccak up count positive fits).target + (more + rest) : ℕ) : ℤ) = _
    rw [← Nat.add_assoc, size, Nat.add_assoc]
    rfl
  · change (proof.sliced keccak up count positive fits).climbed keccak (more + rest) =
      proof.climbed keccak (up + more + rest)
    rw [climbed_sliced keccak positive fits within, Nat.add_assoc]
  · change (((proof.siblingHashes.drop up).take count).drop more).take rest =
      (proof.siblingHashes.drop (up + more)).take rest
    rw [List.drop_take, List.drop_drop, List.take_take, Nat.min_eq_left (by omega)]

/-- A slice of a slice is the slice, for proofs of any size. Where only the size 64 is asked for,
neither is defined. -/
theorem slice_slice (proof made : HashTreeProof) (newRoot newTarget lastRoot lastTarget : ℤ)
    (returned : (proof.slice keccak newRoot newTarget).run () = .ok made ())
    (within : lastRoot ≤ newRoot) (above : newTarget ≤ lastTarget) :
    (made.slice keccak lastRoot lastTarget).run () =
      (proof.slice keccak lastRoot lastTarget).run () := by
  have rootSize := proof.log2RootSize_eq
  have slices : proof.Slices newRoot newTarget := by
    by_contra outside
    rw [slice_refuses outside] at returned
    cases returned
  obtain ⟨bounded, shifts⟩ := slice_ok returned
  obtain ⟨up, count, rfl, rfl, positive, fits⟩ := slices.exists_counts
  rw [slice_run keccak up count (by omega) (by omega) positive fits] at returned
  cases returned
  have whole := proof.target_add_length
  have madeTarget : (proof.sliced keccak up count positive fits).log2TargetSize =
      ((proof.target + up : ℕ) : ℤ) := rfl
  have madeRoot : (proof.sliced keccak up count positive fits).log2RootSize =
      ((proof.target + (up + count) : ℕ) : ℤ) := rfl
  have targetSize := proof.log2TargetSize_eq
  have same : (proof.sliced keccak up count positive fits).Slices lastRoot lastTarget ↔
      proof.Slices lastRoot lastTarget := by
    unfold Slices
    rw [madeTarget, madeRoot]
    omega
  by_cases accepted : proof.Slices lastRoot lastTarget
  · obtain ⟨further, rest, rfl, rfl, nonempty, inside⟩ := accepted.exists_counts
    obtain ⟨more, rfl⟩ : ∃ more, further = up + more := Nat.exists_eq_add_of_le (by omega)
    have target := @target_sliced keccak proof up count positive fits
    have root := @root_sliced keccak proof up count positive fits
    have length := @length_sliced keccak proof up count positive fits
    by_cases edge : proof.target + (up + more) = 64
    · -- Nothing is left to slice but the node of size 64, whose address cannot be aligned.
      obtain rfl : rest = 0 := by omega
      rw [Nat.add_zero, edge]
      exact (slice_undefined (by omega) (by omega) ()).trans
        (slice_undefined (by omega) (by omega) ()).symm
    · have later := @slice_run keccak Unit (proof.sliced keccak up count positive fits) more rest
        (by omega) (by omega) (by omega) (by omega) ()
      have lastTarget : (proof.sliced keccak up count positive fits).target + more =
          proof.target + (up + more) := by omega
      have lastRoot : (proof.sliced keccak up count positive fits).target + (more + rest) =
          proof.target + (up + more + rest) := by omega
      rw [slice_run keccak (up + more) rest (by omega) (by omega) nonempty inside, ← lastTarget,
        ← lastRoot, later, sliced_sliced]
  · rw [slice_refuses accepted, slice_refuses (fun slices => accepted (same.mp slices))]
    congr 1
    have notLarge : ¬proof.log2RootSize < lastRoot := by omega
    have madeLarge : ¬((proof.target + (up + count) : ℕ) : ℤ) < lastRoot := by omega
    rw [sliceError, sliceError, madeRoot, if_neg notLarge, if_neg madeLarge]

/-- The proof of a leaf, sliced to itself and then to the root. -/
theorem slice_slice_root : ∃ made : HashTreeProof,
    ((twoBytes.proof firstBytes (by decide) [zeros 32] 1 0 (by decide)).slice firstBytes
      1 0).run () = .ok made () ∧
    (made.slice firstBytes 1 1).run () =
      ((twoBytes.proof firstBytes (by decide) [zeros 32] 1 0 (by decide)).slice firstBytes
        1 1).run () := by
  have returned := @slice_run firstBytes Unit
    (twoBytes.proof firstBytes (by decide) [zeros 32] 1 0 (by decide)) 0 1 (by decide) (by decide)
    (by decide) (by decide) ()
  exact ⟨_, returned, slice_slice _ _ 1 0 1 1 returned (by decide) (by decide)⟩

end HashTreeProof

/-- A slice of a tree's proof up to the root is the tree's proof of the ancestor. -/
theorem slice_getProof (root leaf word : ℤ) (leaves : List MachineHash) (tree : CompleteMerkleTree)
    (built : (completeMerkleTree keccak root leaf word leaves).run () = .ok tree ())
    (address : BitVec 64) (log2Size newTarget : ℤ) (proof : HashTreeProof)
    (returned : (tree.getProof address log2Size).run () = .ok proof ())
    (above : log2Size ≤ newTarget) (within : newTarget ≤ root) :
    (proof.slice keccak root newTarget).run () =
      (tree.getProof (address >>> newTarget.toNat <<< newTarget.toNat) newTarget).run () := by
  obtain ⟨shape, rfl, rfl, rfl, rfl⟩ := shape_of_completeMerkleTree built
  have rootLt := shape.rootLt
  obtain ⟨rootPos, height, inside, rfl, small, aligned, rfl⟩ := getProof_eq_ok returned
  obtain ⟨up, rfl⟩ : ∃ up : ℕ, newTarget = ((shape.leaf + (height + up) : ℕ) : ℤ) :=
    ⟨(newTarget - ((shape.leaf + height : ℕ) : ℤ)).toNat, by omega⟩
  have target : (shape.proof keccak rootPos leaves address height inside).target =
      shape.leaf + height := by
    rw [HashTreeProof.target, Shape.proof, Int.toNat_natCast]
  have length : (shape.proof keccak rootPos leaves address height inside).siblingHashes.length =
      up + (shape.root - shape.leaf - (height + up)) := by
    rw [Shape.proof, HashTree.length_siblings]
    omega
  have index : (shape.proof keccak rootPos leaves address height inside).index =
      address.toNat / 2 ^ (shape.leaf + height) := by
    rw [HashTreeProof.index, target]
    rfl
  have run := @HashTreeProof.slice_run keccak Unit
    (shape.proof keccak rootPos leaves address height inside) up
    (shape.root - shape.leaf - (height + up)) (by omega) (by omega) (by omega) (by omega) ()
  have size : (shape.proof keccak rootPos leaves address height inside).target + up =
      shape.leaf + (height + up) := by omega
  have whole : (shape.proof keccak rootPos leaves address height inside).target +
      (up + (shape.root - shape.leaf - (height + up))) = shape.root := by omega
  have aligned : (address >>> (shape.leaf + (height + up)) <<<
        (shape.leaf + (height + up))).toNat < 2 ^ shape.root ∧
      2 ^ (shape.leaf + (height + up)) ∣ (address >>> (shape.leaf + (height + up)) <<<
        (shape.leaf + (height + up))).toNat := by
    rw [toNat_align]
    exact ⟨Nat.lt_of_le_of_lt (Nat.div_mul_le_self _ _) small, Nat.dvd_mul_left _ _⟩
  have ancestor := getProof_run keccak _ rootPos leaves
    (by omega : height + up ≤ shape.root - shape.leaf) aligned.1 aligned.2 ()
  have newSize : (((shape.proof keccak rootPos leaves address height inside).target + up : ℕ) : ℤ) =
      ((shape.leaf + (height + up) : ℕ) : ℤ) := by omega
  have newRoot : (((shape.proof keccak rootPos leaves address height inside).target +
      (up + (shape.root - shape.leaf - (height + up))) : ℕ) : ℤ) = shape.root := by omega
  rw [newSize, newRoot] at run
  have parent : address.toNat / 2 ^ (shape.leaf + height) / 2 ^ up =
      (address >>> (shape.leaf + (height + up)) <<< (shape.leaf + (height + up))).toNat /
        2 ^ (shape.leaf + (height + up)) := by
    rw [toNat_align, Nat.mul_div_cancel _ (Nat.two_pow_pos _), Nat.div_div_eq_div_mul, ← pow_add,
      Nat.add_assoc]
  have siblings := HashTree.siblings_add (join keccak)
    (HashTree.padded leaves (shape.blankLeaf keccak)) height
    (address.toNat / 2 ^ (shape.leaf + height)) up (shape.root - shape.leaf - (height + up))
  have count : up + (shape.root - shape.leaf - (height + up)) =
      shape.root - shape.leaf - height := by omega
  have front := HashTree.length_siblings (join keccak)
    (HashTree.padded leaves (shape.blankLeaf keccak)) height
    (address.toNat / 2 ^ (shape.leaf + height)) up
  rw [count, parent] at siblings
  rw [Int.toNat_natCast, ancestor, run]
  congr 1
  apply HashTreeProof.ext
  · change address >>> ((shape.proof keccak rootPos leaves address height inside).target + up) <<<
      ((shape.proof keccak rootPos leaves address height inside).target + up) = _
    rw [size]
    rfl
  · exact newSize
  · change HashTree.climb (join keccak) _ (shape.node keccak leaves height _)
      ((HashTree.siblings _ _ height _ (shape.root - shape.leaf - height)).take up) =
      shape.node keccak leaves (height + up) _
    rw [index, siblings, List.take_left' front, ← parent]
    exact HashTree.climb_node _ height _ up
  · exact newRoot
  · change HashTree.climb (join keccak) _ (shape.node keccak leaves height _)
      ((HashTree.siblings _ _ height _ (shape.root - shape.leaf - height)).take _) =
      shape.node keccak leaves (shape.root - shape.leaf) 0
    rw [List.take_of_length_le (by rw [HashTree.length_siblings]; omega)]
    exact climb_proof keccak _ rootPos leaves leaves inside small (fun _ _ _ => rfl)
  · change ((HashTree.siblings _ _ height _ (shape.root - shape.leaf - height)).drop up).take
      (shape.root - shape.leaf - (height + up)) = HashTree.siblings _ _ (height + up) _
        (shape.root - shape.leaf - (height + up))
    rw [siblings, List.drop_left' front,
      List.take_of_length_le (by rw [HashTree.length_siblings])]

/-- The proof of the second leaf of two, sliced to the root. -/
theorem slice_getProof_pair :
    ((twoBytes.proof firstBytes (by decide) [zeros 32] 1 0 (by decide)).slice firstBytes 1 1).run
        () =
      ((twoBytes.tree firstBytes [zeros 32]).getProof
        ((1 : BitVec 64) >>> (1 : ℤ).toNat <<< (1 : ℤ).toNat) 1).run () :=
  slice_getProof 1 0 0 [zeros 32] _ (completeMerkleTree_run _ twoBytes [zeros 32]) 1 0 1 _
    (getProof_run _ twoBytes (by decide) [zeros 32] (Nat.zero_le _) (by decide) (by decide) ())
    (by decide) (by decide)

end Libcma.Merkle

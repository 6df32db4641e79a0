import Libcma.Lib.Bytes
import Libcma.Lib.Cells

/-!
# The contract ABI encoding of argument lists

An argument is one word, a list of words or a byte string. The encoding of a list of arguments is
one head word for each of them, and then the tails of the lists and byte strings. The head of a
word is the word; the head of the others is the offset of their tail, counted from the first head.
The bytes that pad a byte string to whole words are part of the argument: `Arg.ofBytes` pads with
zeros, and a reader that skips the padding reads every other padding as well.

`holds_head` and `holds_tail` find the head and the tail of any argument in a memory that holds the
encoding, so that a reader of one layout only names the argument it looks at.
-/

namespace Abi

/-- The word of a number. -/
def word (value : ℕ) : List UInt8 := Bytes.listOf 32 value

/-- The length of a byte string in whole words. -/
def paddedLength (length : ℕ) : ℕ := (length / 32 + if length % 32 = 0 then 0 else 1) * 32

/-- An argument. -/
inductive Arg where
  /-- One word. -/
  | word (value : Bytes 32)
  /-- A list of words. -/
  | words (items : List (Bytes 32))
  /-- A byte string, and the bytes after it. -/
  | bytes (data padding : List UInt8)

namespace Arg

/-- A byte string padded with zeros to whole words. -/
def ofBytes (data : List UInt8) : Arg :=
  .bytes data (List.replicate (paddedLength data.length - data.length) 0)

/-- The bytes an argument has behind the heads. -/
def tail : Arg → List UInt8
  | .word _ => []
  | .words items => Abi.word items.length ++ items.flatMap List.Vector.toList
  | .bytes data padding => Abi.word data.length ++ (data ++ padding)

/-- The head word of an argument, when its tail has an offset. -/
def head (offset : ℕ) : Arg → List UInt8
  | .word value => value.toList
  | .words _ => Abi.word offset
  | .bytes _ _ => Abi.word offset

end Arg

/-- The head words of arguments whose tails begin at an offset. -/
def heads (offset : ℕ) : List Arg → List UInt8
  | [] => []
  | arg :: rest => arg.head offset ++ heads (offset + arg.tail.length) rest

/-- The tails of arguments. -/
def tails (args : List Arg) : List UInt8 := args.flatMap Arg.tail

/-- The encoding of arguments. -/
def encode (args : List Arg) : List UInt8 := heads (32 * args.length) args ++ tails args

/-- Where the tail of an argument begins. -/
def tailOffset (args : List Arg) (index : ℕ) : ℕ :=
  32 * args.length + (tails (args.take index)).length

/-- A word has 32 bytes. -/
@[simp] theorem length_word (value : ℕ) : (word value).length = 32 := Bytes.length_listOf 32 value

/-- A list of words has 32 bytes for each of them. -/
@[simp] theorem length_words (items : List (Bytes 32)) :
    (items.flatMap List.Vector.toList).length = 32 * items.length := by
  induction items with
  | nil => rfl
  | cons item rest ih =>
    rw [List.flatMap_cons, List.length_append, ih, List.Vector.toList_length, List.length_cons]
    ring

/-- The tail of a list of words. -/
theorem Arg.length_tail_words (items : List (Bytes 32)) :
    (Arg.words items).tail.length = 32 + 32 * items.length := by
  rw [Arg.tail, List.length_append, length_word, length_words]

/-- The tail of a byte string. -/
theorem Arg.length_tail_bytes (data padding : List UInt8) :
    (Arg.bytes data padding).tail.length = 32 + (data.length + padding.length) := by
  rw [Arg.tail, List.length_append, List.length_append, length_word]

/-- Padding adds less than a word and ends at one. -/
theorem paddedLength_bounds (length : ℕ) :
    length ≤ paddedLength length ∧ paddedLength length < length + 32 ∧
      paddedLength length % 32 = 0 := by
  rw [paddedLength]
  split <;> omega

/-- A head is one word. -/
@[simp] theorem Arg.length_head (offset : ℕ) (arg : Arg) : (arg.head offset).length = 32 := by
  cases arg with
  | word value => exact value.toList_length
  | words items => exact length_word offset
  | bytes data padding => exact length_word offset

/-- The heads are one word for each argument. -/
@[simp] theorem length_heads (offset : ℕ) (args : List Arg) :
    (heads offset args).length = 32 * args.length := by
  induction args generalizing offset with
  | nil => rfl
  | cons arg rest ih =>
    rw [heads, List.length_append, Arg.length_head, ih, List.length_cons]
    ring

/-- The length of an encoding. -/
theorem length_encode (args : List Arg) :
    (encode args).length = 32 * args.length + (tails args).length := by
  rw [encode, List.length_append, length_heads]

/-- The tails before an argument, its own and those after it. -/
theorem tails_split {args : List Arg} {index : ℕ} {arg : Arg} (found : args[index]? = some arg) :
    tails args = tails (args.take index) ++ (arg.tail ++ tails (args.drop (index + 1))) := by
  obtain ⟨below, rfl⟩ := List.getElem?_eq_some_iff.mp found
  rw [tails, tails, tails, ← List.flatMap_cons, ← List.flatMap_append,
    List.getElem_cons_drop, List.take_append_drop]

/-- The tail of an argument ends within the encoding. -/
theorem tailOffset_add_le {args : List Arg} {index : ℕ} {arg : Arg}
    (found : args[index]? = some arg) :
    tailOffset args index + arg.tail.length ≤ (encode args).length := by
  rw [length_encode, tails_split found, List.length_append, List.length_append, tailOffset]
  omega

/-- The tails lie one after another. -/
theorem tailOffset_succ {args : List Arg} {index : ℕ} {arg : Arg}
    (found : args[index]? = some arg) :
    tailOffset args (index + 1) = tailOffset args index + arg.tail.length := by
  obtain ⟨below, rfl⟩ := List.getElem?_eq_some_iff.mp found
  rw [tailOffset, tailOffset, List.take_succ_eq_append_getElem below, tails, tails,
    List.flatMap_append, List.length_append, List.flatMap_cons, List.flatMap_nil, List.append_nil,
    Nat.add_assoc]

section

variable {width : ℕ} {cells : BitVec width → UInt8} {start : BitVec width}

/-- The head of an argument among the heads. -/
theorem holds_heads {offset index : ℕ} {args : List Arg} {arg : Arg}
    (holds : Cells.Holds cells start (heads offset args)) (found : args[index]? = some arg) :
    Cells.Holds cells (start + BitVec.ofNat width (32 * index))
      (arg.head (offset + (tails (args.take index)).length)) := by
  induction args generalizing start offset index with
  | nil => simp at found
  | cons first rest ih =>
    rw [heads, Cells.holds_append, Arg.length_head] at holds
    cases index with
    | zero =>
      rw [List.getElem?_cons_zero, Option.some.injEq] at found
      subst found
      rw [Nat.mul_zero, BitVec.add_zero]
      exact holds.1
    | succ index =>
      rw [List.getElem?_cons_succ] at found
      have later := ih holds.2 found
      have address : 32 * (index + 1) = 32 + 32 * index := by ring
      rw [address, BitVec.ofNat_add, ← BitVec.add_assoc, List.take_succ_cons, tails,
        List.flatMap_cons, List.length_append, ← Nat.add_assoc]
      exact later

/-- The head of an argument in a memory that holds the encoding. -/
theorem holds_head {index : ℕ} {args : List Arg} {arg : Arg}
    (holds : Cells.Holds cells start (encode args)) (found : args[index]? = some arg) :
    Cells.Holds cells (start + BitVec.ofNat width (32 * index))
      (arg.head (tailOffset args index)) :=
  holds_heads ((Cells.holds_append _ _).mp holds).1 found

/-- The tail of an argument in a memory that holds the encoding. -/
theorem holds_tail {index : ℕ} {args : List Arg} {arg : Arg}
    (holds : Cells.Holds cells start (encode args)) (found : args[index]? = some arg) :
    Cells.Holds cells (start + BitVec.ofNat width (tailOffset args index)) arg.tail := by
  rw [encode, Cells.holds_append, tails_split found, Cells.holds_append, Cells.holds_append] at holds
  rw [tailOffset, BitVec.ofNat_add, ← BitVec.add_assoc]
  rw [length_heads] at holds
  exact holds.2.2.1

end

end Abi

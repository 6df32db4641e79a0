import Mathlib.Algebra.BigOperators.Group.Finset.Basic
import Mathlib.Algebra.Order.BigOperators.Group.Finset
import Mathlib.Data.Finset.Lattice.Basic

/-!
# Books of holdings

A book records, for each asset, a supply, and what every holder holds of it. `Move` lists what an
honest ledger may do to a book in one step. Every move keeps a balanced book balanced: the recorded
supply of each asset is the sum of its holdings. A `loss`, a debit without a credit, breaks that;
but a book whose supplies cover its holdings stays covered under moves and losses alike.
-/

/-- Supplies and holdings of assets `α` by members `υ`. An asset without a supply is not
registered. -/
@[ext] structure Book (α υ : Type) where
  /-- The recorded supply of a registered asset. -/
  supply : α → Option ℕ
  /-- The holders present. -/
  members : Finset υ
  /-- What a holder holds of an asset. -/
  holding : α → υ → ℕ

namespace Book

variable {α υ : Type}

/-- The book of a ledger that has seen nothing. -/
def blank : Book α υ := ⟨fun _ => none, ∅, fun _ _ => 0⟩

/-- The sum of what the members hold of an asset. -/
def total (book : Book α υ) (asset : α) : ℕ := ∑ holder ∈ book.members, book.holding asset holder

/-- The recorded supply; zero for an asset that is not registered. -/
def outstanding (book : Book α υ) (asset : α) : ℕ := (book.supply asset).getD 0

/-- Only members hold anything. -/
def Contained (book : Book α υ) : Prop :=
  ∀ asset holder, holder ∉ book.members → book.holding asset holder = 0

/-- Every supply is the sum of the holdings. -/
structure Balanced (book : Book α υ) : Prop where
  contained : book.Contained
  exact : ∀ asset, book.total asset = book.outstanding asset

/-- Every supply covers the sum of the holdings. -/
structure Covered (book : Book α υ) : Prop where
  contained : book.Contained
  covers : ∀ asset, book.total asset ≤ book.outstanding asset

/-- A balanced book is covered. -/
theorem Balanced.covered {book : Book α υ} (balanced : book.Balanced) : book.Covered :=
  ⟨balanced.contained, fun asset => Nat.le_of_eq (balanced.exact asset)⟩

/-- The blank book is balanced. -/
theorem blank_balanced : (blank : Book α υ).Balanced :=
  ⟨fun _ _ _ => rfl, fun _ => rfl⟩

/-- What one holder holds is at most the supply. -/
theorem Covered.holding_le {book : Book α υ} (covered : book.Covered) (asset : α) (holder : υ) :
    book.holding asset holder ≤ book.outstanding asset := by
  by_cases member : holder ∈ book.members
  · exact Nat.le_trans
      (Finset.single_le_sum (fun _ _ => Nat.zero_le _) member) (covered.covers asset)
  · rw [covered.contained asset holder member]
    exact Nat.zero_le _

/-- Nothing is held of an asset without supply. -/
theorem Covered.holding_zero {book : Book α υ} (covered : book.Covered) {asset : α}
    (spent : book.outstanding asset = 0) (holder : υ) : book.holding asset holder = 0 :=
  Nat.le_zero.mp (spent ▸ covered.holding_le asset holder)

/-- Of an asset with a supply of one unit at most, who holds any holds the one unit. -/
theorem Covered.holding_one {book : Book α υ} (covered : book.Covered) {asset : α}
    (single : book.outstanding asset ≤ 1) {holder : υ} (holds : book.holding asset holder ≠ 0) :
    book.holding asset holder = 1 := by
  have most := covered.holding_le asset holder
  omega

section Members

variable [DecidableEq υ]

/-- What two holders hold together is at most the supply. -/
theorem Covered.pair_le {book : Book α υ} (covered : book.Covered) (asset : α) {one two : υ}
    (different : one ≠ two) :
    book.holding asset one + book.holding asset two ≤ book.outstanding asset := by
  by_cases first : one ∈ book.members
  · by_cases second : two ∈ book.members
    · have rest : two ∈ book.members.erase one := Finset.mem_erase.mpr ⟨different.symm, second⟩
      have single := Finset.single_le_sum
        (f := book.holding asset) (fun _ _ => Nat.zero_le _) rest
      have split := Finset.add_sum_erase book.members (book.holding asset) first
      have bound := covered.covers asset
      unfold total at bound
      omega
    · rw [covered.contained asset two second]
      exact covered.holding_le asset one
  · rw [covered.contained asset one first, Nat.zero_add]
    exact covered.holding_le asset two

/-- An asset with a supply of one unit at most has one holder at most. -/
theorem Covered.holder_unique {book : Book α υ} (covered : book.Covered) {asset : α}
    (single : book.outstanding asset ≤ 1) {one two : υ} (first : book.holding asset one ≠ 0)
    (second : book.holding asset two ≠ 0) : one = two := by
  by_contra different
  have pair := covered.pair_le asset different
  omega

/-- Adding a holder who holds nothing keeps the totals. -/
theorem total_join {book : Book α υ} (contained : book.Contained) (holder : υ) (asset : α) :
    ({ book with members := insert holder book.members } : Book α υ).total asset =
      book.total asset :=
  Finset.sum_insert_of_eq_zero_if_notMem fun outside => contained asset holder outside

/-- Removing a holder who holds nothing keeps the totals. -/
theorem total_leave {book : Book α υ} {holder : υ} (asset : α)
    (empty : book.holding asset holder = 0) :
    ({ book with members := book.members.erase holder } : Book α υ).total asset =
      book.total asset :=
  Finset.sum_erase _ empty

end Members

variable [DecidableEq α] [DecidableEq υ]

/-- Overwrite one holding. -/
def put (book : Book α υ) (asset : α) (holder : υ) (amount : ℕ) : Book α υ :=
  { book with holding := fun other who =>
      if other = asset ∧ who = holder then amount else book.holding other who }

/-- Overwrite the supply of one asset. -/
def record (book : Book α υ) (asset : α) (amount : Option ℕ) : Book α υ :=
  { book with supply := fun other => if other = asset then amount else book.supply other }

/-- The total after one holding of a member is overwritten. -/
theorem total_put (book : Book α υ) {holder : υ} (member : holder ∈ book.members) (asset : α)
    (amount : ℕ) :
    (book.put asset holder amount).total asset + book.holding asset holder =
      book.total asset + amount := by
  have written := Finset.add_sum_erase book.members ((book.put asset holder amount).holding asset)
    member
  have held := Finset.add_sum_erase book.members (book.holding asset) member
  have rest : ∑ who ∈ book.members.erase holder, (book.put asset holder amount).holding asset who =
      ∑ who ∈ book.members.erase holder, book.holding asset who :=
    Finset.sum_congr rfl fun who inside =>
      if_neg fun same => Finset.ne_of_mem_erase inside same.2
  have placed : (book.put asset holder amount).holding asset holder = amount :=
    if_pos ⟨rfl, rfl⟩
  change ∑ who ∈ book.members, _ + _ = ∑ who ∈ book.members, _ + _
  omega

/-- The total of another asset is untouched. -/
theorem total_put_ne (book : Book α υ) {asset other : α} (different : other ≠ asset) (holder : υ)
    (amount : ℕ) : (book.put asset holder amount).total other = book.total other :=
  Finset.sum_congr rfl fun _ _ => if_neg fun same => different same.1

/-- Overwriting the holding of a member keeps the holdings with the members. -/
theorem Contained.put {book : Book α υ} (contained : book.Contained) {holder : υ}
    (member : holder ∈ book.members) (asset : α) (amount : ℕ) :
    (book.put asset holder amount).Contained := by
  intro other who outside
  have apart : ¬(other = asset ∧ who = holder) := by
    rintro ⟨-, rfl⟩
    exact outside member
  exact (if_neg apart).trans (contained other who outside)

/-- What an honest ledger does to its book in one step. -/
inductive Move (book : Book α υ) : Book α υ → Prop
  /-- Nothing changes. -/
  | stay : Move book book
  /-- An asset is registered, without supply. -/
  | issue (asset : α) (fresh : book.supply asset = none) : Move book (book.record asset (some 0))
  /-- An asset without supply is removed. -/
  | retire (asset : α) (spent : book.supply asset = some 0) : Move book (book.record asset none)
  /-- A holder is added. -/
  | join (holder : υ) : Move book { book with members := insert holder book.members }
  /-- A holder who holds nothing is removed. -/
  | leave (holder : υ) (empty : ∀ asset, book.holding asset holder = 0) :
      Move book { book with members := book.members.erase holder }
  /-- A holder gains what the supply gains. -/
  | deposit (asset : α) (holder : υ) (amount supply : ℕ) (member : holder ∈ book.members)
      (registered : book.supply asset = some supply) :
      Move book ((book.put asset holder (book.holding asset holder + amount)).record asset
        (some (supply + amount)))
  /-- A holder loses what the supply loses. -/
  | withdraw (asset : α) (holder : υ) (amount supply : ℕ) (member : holder ∈ book.members)
      (registered : book.supply asset = some supply) (enough : amount ≤ book.holding asset holder)
      (covered : amount ≤ supply) :
      Move book ((book.put asset holder (book.holding asset holder - amount)).record asset
        (some (supply - amount)))
  /-- One holder loses what another gains. -/
  | transfer (asset : α) (source target : υ) (amount : ℕ) (sender : source ∈ book.members)
      (receiver : target ∈ book.members) (different : source ≠ target)
      (enough : amount ≤ book.holding asset source) :
      Move book ((book.put asset source (book.holding asset source - amount)).put asset target
        (book.holding asset target + amount))
  /-- Everything is forgotten. -/
  | clear : Move book blank

/-- A step that may also lose a debit. -/
inductive Lossy (book : Book α υ) : Book α υ → Prop
  /-- An honest step. -/
  | move {after : Book α υ} (honest : Move book after) : Lossy book after
  /-- A holder loses an amount that nobody gains. -/
  | loss (asset : α) (holder : υ) (amount : ℕ) (member : holder ∈ book.members)
      (enough : amount ≤ book.holding asset holder) :
      Lossy book (book.put asset holder (book.holding asset holder - amount))

/-- How far a step moves the total of an asset from its supply: an honest step adds the same to
both. -/
theorem Move.offset {book after : Book α υ} (move : Move book after) (contained : book.Contained)
    (asset : α) :
    after.total asset + book.outstanding asset = book.total asset + after.outstanding asset ∨
      after.total asset = 0 ∧ after.outstanding asset = 0 := by
  cases move with
  | stay => exact .inl rfl
  | issue other fresh =>
    left
    by_cases same : asset = other
    · subst other
      simp [outstanding, record, total, fresh]
    · simp [outstanding, record, total, same]
  | retire other spent =>
    left
    by_cases same : asset = other
    · subst other
      simp [outstanding, record, total, spent]
    · simp [outstanding, record, total, same]
  | join holder =>
    left
    rw [total_join contained]
    rfl
  | leave holder empty =>
    left
    rw [total_leave asset (empty asset)]
    rfl
  | deposit other holder amount supply member registered =>
    left
    change (book.put other holder _).total asset + _ = _
    by_cases same : asset = other
    · subst other
      have moved := book.total_put member asset (book.holding asset holder + amount)
      simp only [outstanding, record, registered, ↓reduceIte, Option.getD_some]
      omega
    · rw [total_put_ne _ same]
      simp [outstanding, record, same, put]
  | withdraw other holder amount supply member registered enough covered =>
    left
    change (book.put other holder _).total asset + _ = _
    by_cases same : asset = other
    · subst other
      have moved := book.total_put member asset (book.holding asset holder - amount)
      simp only [outstanding, record, registered, ↓reduceIte, Option.getD_some]
      omega
    · rw [total_put_ne _ same]
      simp [outstanding, record, same, put]
  | transfer other source target amount sender receiver different enough =>
    left
    change Book.total _ asset + book.outstanding asset = _ + book.outstanding asset
    by_cases same : asset = other
    · subst other
      have debit := book.total_put sender asset (book.holding asset source - amount)
      have credit := (book.put asset source (book.holding asset source - amount)).total_put receiver
        asset (book.holding asset target + amount)
      have kept : (book.put asset source (book.holding asset source - amount)).holding asset
          target = book.holding asset target := if_neg fun equal => different equal.2.symm
      omega
    · rw [total_put_ne _ same, total_put_ne _ same]
  | clear => exact .inr ⟨rfl, rfl⟩

/-- An honest step keeps the holdings with the members. -/
theorem Move.contained {book after : Book α υ} (move : Move book after)
    (contained : book.Contained) : after.Contained := by
  cases move with
  | stay => exact contained
  | issue => exact contained
  | retire => exact contained
  | join holder =>
    exact fun asset who outside =>
      contained asset who fun inside => outside (Finset.mem_insert_of_mem inside)
  | leave holder empty =>
    intro asset who outside
    by_cases same : who = holder
    · subst who
      exact empty asset
    · exact contained asset who fun inside => outside (Finset.mem_erase.mpr ⟨same, inside⟩)
  | deposit asset holder amount supply member => exact contained.put member asset _
  | withdraw asset holder amount supply member => exact contained.put member asset _
  | transfer asset source target amount sender receiver =>
    have debited := contained.put sender asset (book.holding asset source - amount)
    exact debited.put receiver asset _
  | clear => exact blank_balanced.contained

/-- An honest step keeps a balanced book balanced. -/
theorem Balanced.move {book after : Book α υ} (balanced : book.Balanced)
    (move : Move book after) : after.Balanced := by
  refine ⟨move.contained balanced.contained, fun asset => ?_⟩
  have exact := balanced.exact asset
  rcases move.offset balanced.contained asset with even | ⟨none, gone⟩
  · omega
  · rw [none, gone]

/-- A step, even a lossy one, keeps a covered book covered. -/
theorem Covered.lossy {book after : Book α υ} (covered : book.Covered)
    (step : Lossy book after) : after.Covered := by
  cases step with
  | move move =>
    refine ⟨move.contained covered.contained, fun asset => ?_⟩
    have covers := covered.covers asset
    rcases move.offset covered.contained asset with even | ⟨none, gone⟩
    · omega
    · rw [none, gone]
  | loss other holder amount member enough =>
    refine ⟨covered.contained.put member other _, fun asset => ?_⟩
    have covers := covered.covers asset
    change _ ≤ book.outstanding asset
    by_cases same : asset = other
    · subst other
      have debit := book.total_put member asset (book.holding asset holder - amount)
      omega
    · rw [total_put_ne _ same]
      exact covers

end Book

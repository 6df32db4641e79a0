import Libcma.Lib.Book
import Libcma.Lib.Custody

/-!
# Custody of a book through names

A book is kept by ids; its owners know the assets and the members by names. A `Naming` leads from
names to ids, and what the book records under them is a custody of the names. Names that come or go
while nothing is recorded under them change no custody, and what a book does at two ids is an order
at their names.
-/

/-- Names `τ` of assets `ι`, and names `α` of members `υ`. -/
@[ext] structure Naming (τ α ι υ : Type) where
  /-- The asset of a name. -/
  asset : τ → Option ι
  /-- The member of a name. -/
  member : α → Option υ
  /-- The names of members. -/
  names : Finset α
  /-- A name that is not among them has no member. -/
  unnamed : ∀ account, account ∉ names → member account = none

namespace Naming

variable {τ α ι υ ν : Type}

/-- What a book records under the name of an asset. -/
def reserve (naming : Naming τ α ι υ) (book : Book ι υ) (token : τ) : ℕ :=
  (naming.asset token).elim 0 book.outstanding

/-- What a book records under two names. -/
def amount (naming : Naming τ α ι υ) (book : Book ι υ) (token : τ) (account : α) : ℕ :=
  (naming.asset token).elim 0 fun asset => (naming.member account).elim 0 (book.holding asset)

/-- Nothing is recorded under a name that has no member. -/
theorem amount_unnamed (naming : Naming τ α ι υ) (book : Book ι υ) (token : τ) {account : α}
    (unnamed : naming.member account = none) : naming.amount book token account = 0 := by
  unfold amount
  rw [unnamed]
  cases naming.asset token <;> rfl

/-- What a book records under names, with an outbox. -/
noncomputable def custody (naming : Naming τ α ι υ) (book : Book ι υ) (outbox : List ν) :
    Custody τ α ν where
  reserve := naming.reserve book
  holding token := Finsupp.onFinset naming.names (naming.amount book token) fun account recorded =>
    by_contra fun outside =>
      recorded (naming.amount_unnamed book token (naming.unnamed account outside))
  outbox := outbox

/-- Two names are names of two things. -/
structure Distinct (naming : Naming τ α ι υ) : Prop where
  /-- An asset has one name. -/
  assets : ∀ one two asset, naming.asset one = some asset → naming.asset two = some asset →
    one = two
  /-- A member has one name. -/
  members : ∀ one two member,
    naming.member one = some member → naming.member two = some member → one = two

/-- Nothing is recorded of an asset. -/
def IdleAsset (book : Book ι υ) (asset : ι) : Prop :=
  book.outstanding asset = 0 ∧ ∀ member, book.holding asset member = 0

/-- Nothing is recorded of a member. -/
def IdleMember (book : Book ι υ) (member : υ) : Prop := ∀ asset, book.holding asset member = 0

/-- Names come and go only where nothing is recorded. -/
structure Shifts (book : Book ι υ) (before after : Naming τ α ι υ) : Prop where
  /-- The name of an asset stays, or belongs to nothing. -/
  assets : ∀ token, after.asset token = before.asset token ∨
    (∀ asset, before.asset token = some asset → IdleAsset book asset) ∧
      ∀ asset, after.asset token = some asset → IdleAsset book asset
  /-- The name of a member stays, or belongs to nothing. -/
  members : ∀ account, after.member account = before.member account ∨
    (∀ member, before.member account = some member → IdleMember book member) ∧
      ∀ member, after.member account = some member → IdleMember book member

variable {book other : Book ι υ} {naming before after : Naming τ α ι υ}

/-- Nothing is recorded under the name of an idle asset. -/
theorem reserve_idle {token : τ}
    (idle : ∀ asset, naming.asset token = some asset → IdleAsset book asset) :
    naming.reserve book token = 0 := by
  unfold reserve
  cases named : naming.asset token with
  | none => rfl
  | some asset => exact (idle asset named).1

/-- Nobody holds anything under the name of an idle asset. -/
theorem amount_idle_asset {token : τ}
    (idle : ∀ asset, naming.asset token = some asset → IdleAsset book asset) (account : α) :
    naming.amount book token account = 0 := by
  unfold amount
  cases named : naming.asset token with
  | none => rfl
  | some asset =>
    cases naming.member account with
    | none => rfl
    | some member => exact (idle asset named).2 member

/-- Nothing is held under the name of an idle member. -/
theorem amount_idle_member {account : α}
    (idle : ∀ member, naming.member account = some member → IdleMember book member) (token : τ) :
    naming.amount book token account = 0 := by
  unfold amount
  cases naming.asset token with
  | none => rfl
  | some asset =>
    cases named : naming.member account with
    | none => rfl
    | some member => exact idle member named asset

/-- Names that come and go where nothing is recorded change no custody. -/
theorem Shifts.custody (shifts : Shifts book before after)
    (reserves : other.outstanding = book.outstanding) (holdings : other.holding = book.holding)
    (outbox : List ν) : after.custody other outbox = before.custody book outbox := by
  have reserve (token : τ) : after.reserve other token = before.reserve book token := by
    rcases shifts.assets token with stays | ⟨lost, gained⟩
    · unfold Naming.reserve
      rw [stays, reserves]
    · have zero : after.reserve other token = after.reserve book token := by
        unfold Naming.reserve
        rw [reserves]
      rw [zero, reserve_idle lost, reserve_idle gained]
  have amount (token : τ) (account : α) :
      after.amount other token account = before.amount book token account := by
    have same : after.amount other token account = after.amount book token account := by
      unfold Naming.amount
      rw [holdings]
    rw [same]
    rcases shifts.assets token with asset | ⟨lost, gained⟩
    · rcases shifts.members account with member | ⟨lost, gained⟩
      · unfold Naming.amount
        rw [asset, member]
      · rw [amount_idle_member lost, amount_idle_member gained]
    · rw [amount_idle_asset lost, amount_idle_asset gained]
  refine Custody.ext (funext reserve) (funext fun token => ?_) rfl
  exact Finsupp.ext (amount token)

open Custody

variable {token : τ} {account source target : α} {asset : ι} {holder payer payee : υ}
  {amount supply : ℕ}

/-- What is recorded under two names is what the book holds. -/
theorem amount_eq (book : Book ι υ) (named : naming.asset token = some asset)
    (owner : naming.member account = some holder) :
    naming.amount book token account = book.holding asset holder := by
  unfold Naming.amount
  rw [named, owner]
  rfl

/-- What is recorded under the name of an asset is its supply. -/
theorem reserve_eq (named : naming.asset token = some asset)
    (registered : book.supply asset = some supply) : naming.reserve book token = supply := by
  unfold Naming.reserve
  rw [named]
  simp [Book.outstanding, registered]

variable [DecidableEq τ] [DecidableEq ι]

/-- The reserves after a supply is recorded. -/
theorem Distinct.reserve_record (distinct : naming.Distinct) (book : Book ι υ)
    (named : naming.asset token = some asset) (supply : ℕ) (other : τ) :
    naming.reserve (book.record asset (some supply)) other =
      if other = token then supply else naming.reserve book other := by
  unfold Naming.reserve
  by_cases same : other = token
  · subst same
    rw [if_pos rfl, named]
    simp [Book.outstanding, Book.record]
  · rw [if_neg same]
    cases its : naming.asset other with
    | none => rfl
    | some found =>
      have apart : found ≠ asset := by
        rintro rfl
        exact same (distinct.assets _ _ _ its named)
      simp [Book.outstanding, Book.record, apart]

variable [DecidableEq α] [DecidableEq υ]

/-- The holdings after one of them is overwritten. -/
theorem Distinct.amount_put (distinct : naming.Distinct) (book : Book ι υ)
    (named : naming.asset token = some asset) (owner : naming.member account = some holder)
    (value : ℕ) (other : τ) (who : α) :
    naming.amount (book.put asset holder value) other who =
      if other = token ∧ who = account then value else naming.amount book other who := by
  unfold Naming.amount
  by_cases same : other = token ∧ who = account
  · rw [if_pos same, same.1, same.2, named, owner]
    simp [Book.put]
  · rw [if_neg same]
    cases its : naming.asset other with
    | none => rfl
    | some found =>
      cases theirs : naming.member who with
      | none => rfl
      | some member =>
        have apart : ¬(found = asset ∧ member = holder) := by
          rintro ⟨rfl, rfl⟩
          exact same ⟨distinct.assets _ _ _ its named, distinct.members _ _ _ theirs owner⟩
        simp [Book.put, apart]

/-- A book that gains an amount takes a deposit. -/
theorem Distinct.deposit (distinct : naming.Distinct) (named : naming.asset token = some asset)
    (owner : naming.member account = some holder) (registered : book.supply asset = some supply)
    (amount : ℕ) (outbox : List ν) :
    Moves (naming.custody book outbox) (.deposit token account amount)
      (naming.custody ((book.put asset holder (book.holding asset holder + amount)).record asset
        (some (supply + amount))) outbox) where
  reserve := by
    funext other
    have recorded := distinct.reserve_record book named (supply + amount) other
    have before := reserve_eq named registered
    change naming.reserve book other + (Pi.single token amount : τ → ℕ) other =
      naming.reserve (book.record asset _) other + 0
    rw [recorded, Pi.single_apply]
    split
    · subst other
      omega
    · omega
  holding := by
    funext other
    ext who
    have put := distinct.amount_put book named owner
      (book.holding asset holder + amount) other who
    have before := amount_eq book named owner
    change naming.amount book other who +
        (Pi.single token (Finsupp.single account amount) : τ → α →₀ ℕ) other who =
      naming.amount (book.put asset holder _) other who + 0
    rw [put, single_single_apply]
    split
    · rw [(‹other = token ∧ who = account›).1, (‹other = token ∧ who = account›).2]
      omega
    · omega
  outbox := (List.append_nil _).symm

/-- A book that loses an amount carries out a withdrawal. -/
theorem Distinct.withdraw (distinct : naming.Distinct) (named : naming.asset token = some asset)
    (owner : naming.member account = some holder) (registered : book.supply asset = some supply)
    (enough : amount ≤ book.holding asset holder) (covered : amount ≤ supply) (outbox : List ν) :
    Moves (naming.custody book outbox) (.withdraw token account amount)
      (naming.custody ((book.put asset holder (book.holding asset holder - amount)).record asset
        (some (supply - amount))) outbox) where
  reserve := by
    funext other
    have recorded := distinct.reserve_record book named (supply - amount) other
    have before := reserve_eq named registered
    change naming.reserve book other + 0 =
      naming.reserve (book.record asset _) other + (Pi.single token amount : τ → ℕ) other
    rw [recorded, Pi.single_apply]
    split
    · subst other
      omega
    · omega
  holding := by
    funext other
    ext who
    have put := distinct.amount_put book named owner
      (book.holding asset holder - amount) other who
    have before := amount_eq book named owner
    change naming.amount book other who + 0 = naming.amount (book.put asset holder _) other who +
      (Pi.single token (Finsupp.single account amount) : τ → α →₀ ℕ) other who
    rw [put, single_single_apply]
    split
    · rw [(‹other = token ∧ who = account›).1, (‹other = token ∧ who = account›).2]
      omega
    · omega
  outbox := (List.append_nil _).symm

/-- A book that loses an amount of a holder without losing supply has lost it. -/
theorem Distinct.lose (distinct : naming.Distinct) (named : naming.asset token = some asset)
    (owner : naming.member account = some holder) (enough : amount ≤ book.holding asset holder)
    (outbox : List ν) :
    Moves (naming.custody book outbox) (.lose token account amount)
      (naming.custody (book.put asset holder (book.holding asset holder - amount)) outbox) where
  reserve := rfl
  holding := by
    funext other
    ext who
    have put := distinct.amount_put book named owner
      (book.holding asset holder - amount) other who
    have before := amount_eq book named owner
    change naming.amount book other who + 0 = naming.amount (book.put asset holder _) other who +
      (Pi.single token (Finsupp.single account amount) : τ → α →₀ ℕ) other who
    rw [put, single_single_apply]
    split
    · rw [(‹other = token ∧ who = account›).1, (‹other = token ∧ who = account›).2]
      omega
    · omega
  outbox := (List.append_nil _).symm

/-- A book that moves an amount carries out a transfer. -/
theorem Distinct.transfer (distinct : naming.Distinct) (named : naming.asset token = some asset)
    (sender : naming.member source = some payer) (receiver : naming.member target = some payee)
    (different : payer ≠ payee) (enough : amount ≤ book.holding asset payer) (outbox : List ν) :
    Moves (naming.custody book outbox) (.transfer token source target amount)
      (naming.custody ((book.put asset payer (book.holding asset payer - amount)).put asset payee
        (book.holding asset payee + amount)) outbox) where
  reserve := rfl
  holding := by
    have apart : source ≠ target := by
      rintro rfl
      exact different (Option.some.inj (sender.symm.trans receiver))
    funext other
    ext who
    have credit := distinct.amount_put
      (book.put asset payer (book.holding asset payer - amount)) named receiver
      (book.holding asset payee + amount) other who
    have debit := distinct.amount_put book named sender
      (book.holding asset payer - amount) other who
    have paid := amount_eq book named sender
    have got := amount_eq book named receiver
    change naming.amount book other who +
        (Pi.single token (Finsupp.single target amount) : τ → α →₀ ℕ) other who =
      naming.amount ((book.put asset payer _).put asset payee _) other who +
        (Pi.single token (Finsupp.single source amount) : τ → α →₀ ℕ) other who
    rw [credit, debit, single_single_apply, single_single_apply]
    by_cases gains : other = token ∧ who = target
    · have keeps : ¬(other = token ∧ who = source) := fun pays =>
        apart (pays.2.symm.trans gains.2)
      rw [if_pos gains, if_pos gains, if_neg keeps, gains.1, gains.2]
      omega
    · rw [if_neg gains, if_neg gains]
      split
      · rw [(‹other = token ∧ who = source›).1, (‹other = token ∧ who = source›).2]
        omega
      · omega
  outbox := (List.append_nil _).symm

end Naming

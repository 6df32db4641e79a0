import Mathlib.Algebra.BigOperators.Group.List.Basic
import Mathlib.Algebra.Group.Pi.Basic
import Mathlib.Algebra.Notation.Pi.Basic
import Mathlib.Data.Finsupp.Weight

/-!
# Custody of tokens for accounts

A custodian holds a reserve of each token `τ` and owes parts of it to accounts `α`; what it sends
out, of type `ν`, is in its outbox. An `Order` moves reserves and holdings, or sends something.
`Moves` says by equations of sums what one order does, so that no difference of naturals appears,
and `Performs` what a list of orders does. The totals of a list are the sums of its orders', and the
holdings account for the whole reserve, up to what was lost.

A list of orders that is not performed to its end is `Cut`: the orders before some point were
performed, and of a transfer at that point perhaps only the debit.
-/

/-- Reserves, holdings and the outbox of a custodian. -/
@[ext] structure Custody (τ α ν : Type) where
  /-- How much there is of a token. -/
  reserve : τ → ℕ
  /-- How much of a token is owed to an account. -/
  holding : τ → α →₀ ℕ
  /-- What was sent. -/
  outbox : List ν

namespace Custody

variable {τ α ν : Type}

/-- A custodian that has and owes nothing. -/
noncomputable def blank : Custody τ α ν := ⟨0, 0, []⟩

/-- What a custodian may be told to do. -/
inductive Order (τ α ν : Type) where
  /-- An amount comes in for an account. -/
  | deposit (token : τ) (account : α) (amount : ℕ)
  /-- An amount of an account goes out. -/
  | withdraw (token : τ) (account : α) (amount : ℕ)
  /-- An amount changes hands. -/
  | transfer (token : τ) (source target : α) (amount : ℕ)
  /-- An amount is taken from an account and given to nobody. -/
  | lose (token : τ) (account : α) (amount : ℕ)
  /-- Something is sent. -/
  | send (item : ν)

namespace Order

/-- What an order sends. -/
def sent : Order τ α ν → List ν
  | .send item => [item]
  | _ => []

section Amounts

variable [DecidableEq τ]

/-- What an order adds to the reserves. -/
def inflow : Order τ α ν → τ → ℕ
  | .deposit token _ amount => Pi.single token amount
  | _ => 0

/-- What an order takes from the reserves. -/
def outflow : Order τ α ν → τ → ℕ
  | .withdraw token _ amount => Pi.single token amount
  | _ => 0

/-- What an order adds to the holdings. -/
noncomputable def credits : Order τ α ν → τ → α →₀ ℕ
  | .deposit token account amount => Pi.single token (.single account amount)
  | .transfer token _ target amount => Pi.single token (.single target amount)
  | _ => 0

/-- What an order takes from the holdings. -/
noncomputable def debits : Order τ α ν → τ → α →₀ ℕ
  | .withdraw token account amount => Pi.single token (.single account amount)
  | .transfer token source _ amount => Pi.single token (.single source amount)
  | .lose token account amount => Pi.single token (.single account amount)
  | _ => 0

/-- What an order takes from the holdings without a counterpart. -/
def loss : Order τ α ν → τ → ℕ
  | .lose token _ amount => Pi.single token amount
  | _ => 0

end Amounts

/-- The account an order takes from. -/
def payer : Order τ α ν → Option α
  | .withdraw _ account _ => some account
  | .transfer _ source _ _ => some source
  | .lose _ account _ => some account
  | _ => none

end Order

/-- The holdings and what was lost make up the reserve. -/
def Accounted (custody : Custody τ α ν) (lost : τ → ℕ) : Prop :=
  ∀ token, (custody.holding token).degree + lost token = custody.reserve token

/-- A custodian that has nothing is accounted for. -/
theorem accounted_blank : (blank : Custody τ α ν).Accounted 0 := by
  intro token
  change (0 : α →₀ ℕ).degree + 0 = 0
  rw [map_zero]

/-- What any accounts hold together is at most the reserve. -/
theorem Accounted.sum_le {custody : Custody τ α ν} {lost : τ → ℕ}
    (accounted : custody.Accounted lost) (token : τ) (accounts : Finset α) :
    ∑ account ∈ accounts, custody.holding token account ≤ custody.reserve token := by
  classical
  have whole := accounted token
  have support : ∑ account ∈ accounts ∪ (custody.holding token).support,
      custody.holding token account = (custody.holding token).degree := by
    refine (Finset.sum_subset Finset.subset_union_right fun account _ outside => ?_).symm
    exact Finsupp.notMem_support_iff.mp outside
  have part : ∑ account ∈ accounts, custody.holding token account ≤
      ∑ account ∈ accounts ∪ (custody.holding token).support, custody.holding token account :=
    Finset.sum_le_sum_of_subset Finset.subset_union_left
  omega

/-- Orders that send nothing. -/
def Silent (orders : List (Order τ α ν)) : Prop := orders.flatMap Order.sent = []

/-- No orders send nothing. -/
theorem silent_nil : Silent ([] : List (Order τ α ν)) := rfl

/-- Orders that each send nothing. -/
theorem silent_map {β : Type} (list : List β) (order : β → Order τ α ν)
    (nothing : ∀ item, (order item).sent = []) : Silent (list.map order) := by
  unfold Silent
  rw [List.flatMap_map, List.flatMap_eq_nil_iff]
  exact fun item _ => nothing item

/-- Orders that send nothing, and then more of them. -/
theorem Silent.append {first second : List (Order τ α ν)} (early : Silent first)
    (late : Silent second) : Silent (first ++ second) := by
  unfold Silent at *
  rw [List.flatMap_append, early, late, List.append_nil]

section Cutting

variable {order : Order τ α ν} {orders first second : List (Order τ α ν)}

/-- The orders that were performed when a list of them was not performed to its end. -/
inductive Cut : List (Order τ α ν) → List (Order τ α ν) → Prop
  /-- Nothing more was done. -/
  | stop (orders : List (Order τ α ν)) : Cut [] orders
  /-- One more order was performed. -/
  | order (order : Order τ α ν) {done orders : List (Order τ α ν)} (rest : Cut done orders) :
      Cut (order :: done) (order :: orders)
  /-- Of a transfer only the debit was performed. -/
  | strand (token : τ) (source target : α) (amount : ℕ) (orders : List (Order τ α ν)) :
      Cut [.lose token source amount] (.transfer token source target amount :: orders)

/-- Orders that were cut are cut before further orders. -/
theorem Cut.append_right {done : List (Order τ α ν)} (cut : Cut done first)
    (second : List (Order τ α ν)) : Cut done (first ++ second) := by
  induction cut with
  | stop => exact .stop _
  | order order _ ih => exact .order order ih
  | strand token source target amount orders => exact .strand token source target amount _

/-- Orders that were cut, behind orders that were performed. -/
theorem Cut.append_left {done : List (Order τ α ν)} (first : List (Order τ α ν))
    (cut : Cut done second) : Cut (first ++ done) (first ++ second) := by
  induction first with
  | nil => exact cut
  | cons order rest ih => exact .order order ih

/-- Orders that were cut have the payers of the whole list. -/
theorem Cut.payers {done : List (Order τ α ν)} (cut : Cut done orders) {account : α}
    (paid : ∃ order ∈ done, order.payer = some account) :
    ∃ order ∈ orders, order.payer = some account := by
  induction cut with
  | stop => simp at paid
  | order order _ ih =>
    obtain ⟨found, member, payer⟩ := paid
    rcases List.mem_cons.mp member with rfl | later
    · exact ⟨found, List.mem_cons_self, payer⟩
    · obtain ⟨other, among, same⟩ := ih ⟨found, later, payer⟩
      exact ⟨other, List.mem_cons_of_mem _ among, same⟩
  | strand token source target amount orders =>
    obtain ⟨found, member, payer⟩ := paid
    rw [List.mem_singleton.mp member] at payer
    exact ⟨_, List.mem_cons_self, payer⟩

end Cutting

variable [DecidableEq τ]

/-- What is added at one place is there. -/
theorem single_single_apply [DecidableEq α] (token other : τ) (account who : α) (amount : ℕ) :
    (Pi.single token (Finsupp.single account amount) : τ → α →₀ ℕ) other who =
      if other = token ∧ who = account then amount else 0 := by
  by_cases same : other = token
  · subst same
    rw [Pi.single_eq_same, Finsupp.single_apply]
    by_cases owner : account = who
    · rw [if_pos owner, if_pos ⟨rfl, owner.symm⟩]
    · rw [if_neg owner, if_neg fun both => owner both.2.symm]
  · rw [Pi.single_eq_of_ne same, if_neg fun both => same both.1]
    rfl

/-- The sum of what is added at one place. -/
theorem degree_single_single (token other : τ) (account : α) (amount : ℕ) :
    ((Pi.single token (Finsupp.single account amount) : τ → α →₀ ℕ) other).degree =
      (Pi.single token amount : τ → ℕ) other := by
  by_cases same : other = token
  · subst same
    rw [Pi.single_eq_same, Pi.single_eq_same, Finsupp.degree_single]
  · rw [Pi.single_eq_of_ne same, Pi.single_eq_of_ne same, map_zero]

/-- Coming in and being credited balance going out, being debited and getting lost. -/
theorem Order.balance (order : Order τ α ν) (token : τ) :
    order.inflow token + (order.debits token).degree =
      (order.credits token).degree + order.outflow token + order.loss token := by
  cases order with
  | deposit token account amount =>
    simp only [Order.inflow, Order.debits, Order.credits, Order.outflow, Order.loss,
      degree_single_single, Pi.zero_apply, map_zero, Nat.add_zero]
  | withdraw token account amount =>
    simp only [Order.inflow, Order.debits, Order.credits, Order.outflow, Order.loss,
      degree_single_single, Pi.zero_apply, map_zero, Nat.add_zero]
  | transfer token source target amount =>
    simp only [Order.inflow, Order.debits, Order.credits, Order.outflow, Order.loss,
      degree_single_single, Pi.zero_apply, Nat.add_zero, Nat.zero_add]
  | lose token account amount =>
    simp only [Order.inflow, Order.debits, Order.credits, Order.outflow, Order.loss,
      degree_single_single, Pi.zero_apply, map_zero, Nat.zero_add]
  | send item =>
    simp only [Order.inflow, Order.debits, Order.credits, Order.outflow, Order.loss,
      Pi.zero_apply, map_zero, Nat.add_zero]

/-- An order takes from its payer only. -/
theorem Order.debits_apply_zero (order : Order τ α ν) (token : τ) (account : α)
    (other : order.payer ≠ some account) : order.debits token account = 0 := by
  classical
  have apart (payer : α) (paid : order.payer = some payer) (amount : ℕ) (its : τ) :
      (Pi.single its (Finsupp.single payer amount) : τ → α →₀ ℕ) token account = 0 := by
    rw [single_single_apply, if_neg]
    exact fun both => other (paid.trans (congrArg some both.2.symm))
  cases order with
  | withdraw token payer amount => exact apart payer rfl amount token
  | transfer token source target amount => exact apart source rfl amount token
  | lose token payer amount => exact apart payer rfl amount token
  | deposit => rfl
  | send => rfl

/-- An order leads from one custody to another. -/
structure Moves (before : Custody τ α ν) (order : Order τ α ν) (after : Custody τ α ν) : Prop where
  /-- The reserves differ by what comes in and goes out. -/
  reserve : before.reserve + order.inflow = after.reserve + order.outflow
  /-- The holdings differ by what is credited and debited. -/
  holding : before.holding + order.credits = after.holding + order.debits
  /-- The outbox grows by what is sent. -/
  outbox : after.outbox = before.outbox ++ order.sent

/-- A list of orders leads from one custody to another. -/
inductive Performs : Custody τ α ν → List (Order τ α ν) → Custody τ α ν → Prop
  /-- There is nothing to do. -/
  | done (custody : Custody τ α ν) : Performs custody [] custody
  /-- The first order, and then the others. -/
  | order {before middle after : Custody τ α ν} {order : Order τ α ν}
      {rest : List (Order τ α ν)} (moves : Moves before order middle)
      (others : Performs middle rest after) : Performs before (order :: rest) after

variable {before middle after : Custody τ α ν} {order : Order τ α ν}
  {orders first second : List (Order τ α ν)}

/-- One order. -/
theorem Moves.performs (moves : Moves before order after) : Performs before [order] after :=
  .order moves (.done after)

/-- An order leads to one custody only. -/
theorem Moves.unique {other : Custody τ α ν} (moves : Moves before order after)
    (again : Moves before order other) : after = other := by
  apply Custody.ext
  · exact add_right_cancel (moves.reserve.symm.trans again.reserve)
  · funext token
    have first := congrFun moves.holding token
    have second := congrFun again.holding token
    exact add_right_cancel (first.symm.trans second)
  · rw [moves.outbox, again.outbox]

/-- What is withdrawn was held. -/
theorem Moves.enough {token : τ} {account : α} {amount : ℕ}
    (moves : Moves before (.withdraw token account amount) after) :
    amount ≤ before.holding token account := by
  classical
  have sums := DFunLike.congr_fun (congrFun moves.holding token) account
  simp only [Order.credits, Order.debits, Pi.add_apply, Finsupp.add_apply, Pi.zero_apply,
    Finsupp.coe_zero, single_single_apply, and_self, ↓reduceIte] at sums
  omega

/-- What is held and in the reserve can be withdrawn. -/
theorem exists_moves_withdraw {token : τ} {account : α} {amount : ℕ}
    (enough : amount ≤ before.holding token account) (covered : amount ≤ before.reserve token) :
    ∃ after, Moves before (.withdraw token account amount) after := by
  classical
  refine ⟨⟨before.reserve - (Pi.single token amount : τ → ℕ),
    before.holding - (Pi.single token (Finsupp.single account amount) : τ → α →₀ ℕ),
    before.outbox⟩, ?_, ?_, (List.append_nil _).symm⟩
  · funext other
    simp only [Order.inflow, Order.outflow, Pi.add_apply, Pi.sub_apply, Pi.zero_apply]
    by_cases same : other = token
    · subst same
      rw [Pi.single_eq_same]
      omega
    · rw [Pi.single_eq_of_ne same]
      omega
  · funext other
    ext who
    simp only [Order.credits, Order.debits, Pi.add_apply, Pi.sub_apply, Pi.zero_apply,
      Finsupp.add_apply, Finsupp.tsub_apply, Finsupp.coe_zero, single_single_apply]
    split
    · next same =>
      obtain ⟨rfl, rfl⟩ := same
      omega
    · omega

/-- An order that takes from one account, or sends something. -/
def Order.Draws (account : α) : Order τ α ν → Prop
  | .withdraw _ owner _ => owner = account
  | .send _ => True
  | _ => False

/-- An order that draws on an account takes from its holding what it takes out. -/
theorem Order.Draws.moves {account : α} (draws : order.Draws account)
    (moves : Moves before order after) (token : τ) :
    before.holding token account = after.holding token account + order.outflow token ∧
      before.reserve token = after.reserve token + order.outflow token := by
  classical
  have reserves := congrFun moves.reserve token
  have sums := DFunLike.congr_fun (congrFun moves.holding token) account
  cases order with
  | withdraw its owner amount =>
    obtain rfl : owner = account := draws
    have taken : (Pi.single its (Finsupp.single owner amount) : τ → α →₀ ℕ) token owner =
        (Pi.single its amount : τ → ℕ) token := by
      rw [single_single_apply]
      by_cases same : token = its
      · rw [if_pos ⟨same, rfl⟩, same, Pi.single_eq_same]
      · rw [if_neg fun both => same both.1, Pi.single_eq_of_ne same]
    simp only [Order.inflow, Order.outflow, Order.credits, Order.debits, Pi.add_apply,
      Pi.zero_apply, Finsupp.add_apply, Finsupp.coe_zero, taken] at reserves sums ⊢
    omega
  | send item =>
    simp only [Order.inflow, Order.outflow, Order.credits, Order.debits, Pi.add_apply,
      Pi.zero_apply, Finsupp.add_apply, Finsupp.coe_zero] at reserves sums ⊢
    omega
  | _ => exact draws.elim

/-- Orders that draw on an account whose holdings are covered can be performed exactly when together
they take out no more than it holds. -/
theorem exists_performs_iff {account : α} (draws : ∀ order ∈ orders, order.Draws account)
    (covered : ∀ token, before.holding token account ≤ before.reserve token) :
    (∃ after, Performs before orders after) ↔
      ∀ token, (orders.map fun order => order.outflow token).sum ≤
        before.holding token account := by
  induction orders generalizing before with
  | nil => exact iff_of_true ⟨before, .done before⟩ fun _ => Nat.zero_le _
  | cons order rest ih =>
    obtain ⟨here, others⟩ := List.forall_mem_cons.mp draws
    simp only [List.map_cons, List.sum_cons]
    have still {middle : Custody τ α ν} (moves : Moves before order middle) (token : τ) :
        middle.holding token account ≤ middle.reserve token := by
      have taken := here.moves moves token
      have most := covered token
      omega
    constructor
    · rintro ⟨after, performs⟩ token
      cases performs with
      | @order _ middle _ _ _ moves late =>
        have enough := (ih others (still moves)).mp ⟨after, late⟩ token
        have taken := here.moves moves token
        omega
    · intro enough
      have first : ∃ middle, Moves before order middle := by
        cases order with
        | withdraw its owner amount =>
          obtain rfl : owner = account := here
          have total := enough its
          have most := covered its
          rw [Order.outflow, Pi.single_eq_same] at total
          exact exists_moves_withdraw (by omega) (by omega)
        | send item =>
          exact ⟨⟨before.reserve, before.holding, before.outbox ++ [item]⟩, rfl, rfl, rfl⟩
        | _ => exact here.elim
      obtain ⟨middle, moves⟩ := first
      have left (token : τ) : (rest.map fun order => order.outflow token).sum ≤
          middle.holding token account := by
        have taken := here.moves moves token
        have total := enough token
        omega
      obtain ⟨after, late⟩ := (ih others (still moves)).mpr left
      exact ⟨after, .order moves late⟩

/-- Nothing is done by no orders. -/
theorem Performs.eq_of_nil (performs : Performs before [] after) : after = before := by
  cases performs
  rfl

/-- Orders and then more orders. -/
theorem Performs.append (early : Performs before first middle)
    (late : Performs middle second after) : Performs before (first ++ second) after := by
  induction early with
  | done => exact late
  | order moves _ ih => exact .order moves (ih late)

section Totals

/-- The reserves after a list of orders. -/
theorem Performs.reserve (performs : Performs before orders after) (token : τ) :
    before.reserve token + (orders.map fun order => order.inflow token).sum =
      after.reserve token + (orders.map fun order => order.outflow token).sum := by
  induction performs with
  | done => rfl
  | order moves _ ih =>
    have step := congrFun moves.reserve token
    simp only [Pi.add_apply] at step
    simp only [List.map_cons, List.sum_cons]
    omega

/-- The holdings after a list of orders. -/
theorem Performs.holding (performs : Performs before orders after) (token : τ) (account : α) :
    before.holding token account + (orders.map fun order => order.credits token account).sum =
      after.holding token account + (orders.map fun order => order.debits token account).sum := by
  induction performs with
  | done => rfl
  | order moves _ ih =>
    have step := DFunLike.congr_fun (congrFun moves.holding token) account
    simp only [Pi.add_apply, Finsupp.add_apply] at step
    simp only [List.map_cons, List.sum_cons]
    omega

/-- The outbox after a list of orders. -/
theorem Performs.outbox (performs : Performs before orders after) :
    after.outbox = before.outbox ++ orders.flatMap Order.sent := by
  induction performs with
  | done => rw [List.flatMap_nil, List.append_nil]
  | order moves _ ih => rw [ih, moves.outbox, List.flatMap_cons, List.append_assoc]

/-- An order keeps a custodian accounted for. -/
theorem Accounted.moves {lost : τ → ℕ} (accounted : before.Accounted lost)
    (moves : Moves before order after) : after.Accounted (lost + order.loss) := by
  intro token
  have sums := congrArg Finsupp.degree (congrFun moves.holding token)
  have reserves := congrFun moves.reserve token
  have whole := accounted token
  have balance := order.balance token
  simp only [Pi.add_apply, map_add] at sums reserves ⊢
  omega

/-- Orders keep a custodian accounted for. -/
theorem Accounted.performs {lost : τ → ℕ} (accounted : before.Accounted lost)
    (performs : Performs before orders after) :
    after.Accounted fun token => lost token + (orders.map fun order => order.loss token).sum := by
  induction performs generalizing lost with
  | done => exact accounted
  | order moves _ ih =>
    intro token
    have rest := ih (accounted.moves moves) token
    simp only [Pi.add_apply] at rest
    simp only [List.map_cons, List.sum_cons]
    omega

/-- Who holds less after some orders paid for one of them. -/
theorem Performs.exists_payer (performs : Performs before orders after) {token : τ} {account : α}
    (less : after.holding token account < before.holding token account) :
    ∃ order ∈ orders, order.payer = some account := by
  by_contra nobody
  have sums := performs.holding token account
  have zero : (orders.map fun order => order.debits token account).sum = 0 := by
    apply List.sum_eq_zero
    intro amount member
    obtain ⟨order, among, rfl⟩ := List.mem_map.mp member
    exact order.debits_apply_zero token account fun paid => nobody ⟨order, among, paid⟩
  omega

/-- Orders that were cut brought in no more than the whole list. -/
theorem Cut.inflow_le {done : List (Order τ α ν)} (cut : Cut done orders) (token : τ) :
    (done.map fun order => order.inflow token).sum ≤
      (orders.map fun order => order.inflow token).sum := by
  induction cut with
  | stop => exact Nat.zero_le _
  | order order _ ih =>
    simp only [List.map_cons, List.sum_cons]
    omega
  | strand token source target amount orders => exact Nat.zero_le _

end Totals

end Custody

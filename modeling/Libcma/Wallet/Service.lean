import Libcma.Wallet.Requests

/-!
# The service of the application

`main` creates the ether asset and then serves one request after the other; whether the machine goes
back to where it was when a request is rejected is up to the rollup device. Served requests are
orders to a custodian: those of an accepted request are performed, those of a rejected one are cut.
What holds of the custodian's accounts then holds of every run of the application.
-/

namespace Libcma.Wallet

open Exec Custody

/-- A request to the application. -/
structure Request where
  /-- The input. -/
  input : Advance
  /-- Whether the machine goes back when the request is rejected. -/
  reverts : Bool

section

variable (platform : Platform)

/-- One turn of the loop of `main`; whether the request is accepted. Reports outlast it. -/
def serve (app : App) (request : Request) : Option (App × Bool) :=
  match (advanceState platform request.input).run app with
  | .ok true after => some (after, true)
  | .ok false after =>
    some (if request.reverts then { app with reports := after.reports } else after, false)
  | .throw _ _ => none
  | .undefined => none

/-- What was performed of a request that got an answer. -/
def Settled (request : Request) (accepted : Bool) (done : List Order) : Prop :=
  if accepted then done = request.input.orders platform
  else Cut done (request.input.orders platform) ∧ Silent done ∧ (request.reverts → done = [])

/-- What was performed of requests that got answers. -/
inductive Settles : List Request → List Bool → List Order → Prop
  /-- There were no requests. -/
  | none : Settles [] [] []
  /-- The first request, and then the others. -/
  | next {request : Request} {accepted : Bool} {done : List Order} {requests : List Request}
      {answers : List Bool} {orders : List Order} (settled : Settled platform request accepted done)
      (later : Settles requests answers orders) :
      Settles (request :: requests) (accepted :: answers) (done ++ orders)

/-- The orders of the requests that were accepted. -/
def acceptedOrders : List Request → List Bool → List Order
  | request :: requests, accepted :: answers =>
    (if accepted then request.input.orders platform else []) ++ acceptedOrders requests answers
  | _, _ => []

/-- The orders of all requests. -/
def requestedOrders (requests : List Request) : List Order :=
  requests.flatMap fun request => request.input.orders platform

end

variable {platform : Platform} {app after : App} {request : Request} {requests : List Request}
  {answers : List Bool} {accepted : Bool} {orders done : List Order}

/-- Reporting a failure adds a report at most. -/
theorem report_run (platform : Platform) (app : App) (status : Int) : ∃ reports,
    (do rollupEmitReport platform (.error status); pure false : Handler Bool).run app =
      .ok false { app with reports := reports } := by
  unfold rollupEmitReport
  by_cases fails : platform.emitReport app.reports (.error status) < 0
  · exact ⟨app.reports, by simp [fails]⟩
  · exact ⟨app.reports ++ [.error status], by simp [fails]⟩

/-- A request that is served settles its orders. -/
theorem serve_settled (standard : platform.libcmt.Standard) (sound : app.Sound platform.config)
    (served : serve platform app request = some (after, accepted)) :
    after.Sound platform.config ∧ ∃ done, Settled platform request accepted done ∧
      Performs app.custody done after.custody := by
  have carries : Carries (custodian platform.config) (request.input.orders platform)
      (chooseAdvance platform request.input) app fun _ _ => True :=
    carries_chooseAdvance standard sound
  unfold Carries at carries
  unfold serve advanceState catchFailure at served
  cases outcome : (chooseAdvance platform request.input).run app with
  | ok value reached =>
    rw [outcome] at carries
    simp only [outcome, Option.some.injEq, Prod.mk.injEq] at served
    obtain ⟨rfl, rfl⟩ := served
    obtain ⟨still, performs⟩ := carries.1
    exact ⟨still, _, rfl, performs⟩
  | throw failure reached =>
    rw [outcome] at carries
    obtain ⟨reports, reported⟩ := report_run platform reached failure.status
    simp only [outcome, reported, Option.some.injEq, Prod.mk.injEq] at served
    obtain ⟨rfl, rfl⟩ := served
    obtain ⟨done, cut, silent, still, performs⟩ := carries
    by_cases reverts : request.reverts
    · rw [if_pos reverts]
      exact ⟨⟨sound.ledger, sound.covered, sound.ether, sound.typed⟩, [],
        ⟨.stop _, silent_nil, fun _ => rfl⟩, .done app.custody⟩
    · rw [if_neg reverts]
      exact ⟨⟨still.ledger, still.covered, still.ether, still.typed⟩, done,
        ⟨cut, silent, fun back => absurd back reverts⟩, performs⟩
  | undefined =>
    simp only [outcome, reduceCtorEq] at served

/-- A run of requests settles their orders. -/
theorem execute_settles (standard : platform.libcmt.Standard) (sound : app.Sound platform.config)
    (executed : Run.execute (serve platform) app requests = some (after, answers)) :
    after.Sound platform.config ∧ ∃ done, Settles platform requests answers done ∧
      Performs app.custody done after.custody := by
  induction requests generalizing app answers with
  | nil =>
    simp only [Run.execute, Option.some.injEq, Prod.mk.injEq] at executed
    obtain ⟨rfl, rfl⟩ := executed
    exact ⟨sound, [], .none, .done app.custody⟩
  | cons request rest ih =>
    obtain ⟨middle, accepted, others, served, later, rfl⟩ := Run.execute_cons executed
    obtain ⟨still, first, settled, early⟩ := serve_settled standard sound served
    obtain ⟨final, second, settles, late⟩ := ih still later
    exact ⟨final, first ++ second, .next settled settles, early.append late⟩

section Settling

/-- What settles requests sends what the accepted ones ask to send. -/
theorem Settles.sent (settles : Settles platform requests answers done) :
    done.flatMap Order.sent = (acceptedOrders platform requests answers).flatMap Order.sent := by
  induction settles with
  | none => rfl
  | @next request accepted first requests answers orders settled later ih =>
    rw [acceptedOrders, List.flatMap_append, List.flatMap_append, ih]
    cases accepted with
    | true => rw [show first = _ from settled, if_pos rfl]
    | false => rw [show first.flatMap Order.sent = [] from settled.2.1, if_neg Bool.false_ne_true,
        List.flatMap_nil]

/-- Where rejected requests revert, what is performed is what the accepted ones ask for. -/
theorem Settles.reverted (settles : Settles platform requests answers done)
    (reverts : ∀ request ∈ requests, request.reverts) :
    done = acceptedOrders platform requests answers := by
  induction settles with
  | none => rfl
  | @next request accepted first requests answers orders settled later ih =>
    rw [acceptedOrders, ih fun other member => reverts other (List.mem_cons_of_mem _ member)]
    cases accepted with
    | true => rw [show first = _ from settled, if_pos rfl]
    | false => rw [settled.2.2 (reverts request List.mem_cons_self), if_neg Bool.false_ne_true]

/-- What comes in is at most what the requests ask for. -/
theorem Settles.inflow_le (settles : Settles platform requests answers done) (token : Token) :
    (done.map fun order => order.inflow token).sum ≤
      ((requestedOrders platform requests).map fun order => order.inflow token).sum := by
  induction settles with
  | none => exact Nat.zero_le _
  | @next request accepted first requests answers orders settled later ih =>
    have head : (first.map fun order => order.inflow token).sum ≤
        ((request.input.orders platform).map fun order => order.inflow token).sum := by
      cases accepted with
      | true => exact Nat.le_of_eq (congrArg _ (congrArg _ (show first = _ from settled)))
      | false => exact Cut.inflow_le settled.1 token
    unfold requestedOrders at ih ⊢
    simp only [List.flatMap_cons, List.map_append, List.sum_append]
    omega

/-- What goes out is at least what the accepted requests ask for. -/
theorem Settles.outflow_ge (settles : Settles platform requests answers done) (token : Token) :
    ((acceptedOrders platform requests answers).map fun order => order.outflow token).sum ≤
      (done.map fun order => order.outflow token).sum := by
  induction settles with
  | none => exact Nat.zero_le _
  | @next request accepted first requests answers orders settled later ih =>
    rw [acceptedOrders]
    simp only [List.map_append, List.sum_append]
    cases accepted with
    | true =>
      rw [show first = _ from settled, if_pos rfl]
      omega
    | false =>
      rw [if_neg Bool.false_ne_true]
      simp only [List.map_nil, List.sum_nil]
      omega

/-- Whoever pays for what settled is the payer of an order of a request that did not go back. -/
theorem Settles.payer (settles : Settles platform requests answers done) {account : Bytes32}
    (paid : ∃ order ∈ done, order.payer = some account) :
    ∃ turn ∈ requests.zip answers, (turn.2 ∨ ¬turn.1.reverts) ∧
      ∃ order ∈ turn.1.input.orders platform, order.payer = some account := by
  induction settles with
  | none => simp at paid
  | @next request accepted first requests answers orders settled later ih =>
    obtain ⟨order, member, payer⟩ := paid
    rw [List.zip_cons_cons]
    rcases List.mem_append.mp member with early | late
    · refine ⟨(request, accepted), List.mem_cons_self, ?_⟩
      cases accepted with
      | true => exact ⟨.inl rfl, order, (show first = _ from settled) ▸ early, payer⟩
      | false =>
        have stays : ¬request.reverts := by
          intro back
          have nothing : first = [] := settled.2.2 back
          rw [nothing] at early
          contradiction
        exact ⟨.inr stays, Cut.payers settled.1 ⟨order, early, payer⟩⟩
    · obtain ⟨turn, there, rest⟩ := ih ⟨order, late, payer⟩
      exact ⟨turn, List.mem_cons_of_mem _ there, rest⟩

/-- An order of an accepted request is an order of a request. -/
theorem mem_acceptedOrders {order : Order}
    (member : order ∈ acceptedOrders platform requests answers) :
    ∃ request ∈ requests, order ∈ request.input.orders platform := by
  induction requests generalizing answers with
  | nil => cases member
  | cons request rest ih =>
    cases answers with
    | nil => cases member
    | cons accepted others =>
      rw [acceptedOrders] at member
      rcases List.mem_append.mp member with early | late
      · cases accepted with
        | true => exact ⟨request, List.mem_cons_self, early⟩
        | false => cases early
      · obtain ⟨found, among, its⟩ := ih late
        exact ⟨found, List.mem_cons_of_mem _ among, its⟩

/-- Accepted requests lose nothing. -/
theorem acceptedOrders_loss (token : Token) :
    ((acceptedOrders platform requests answers).map fun order => order.loss token).sum = 0 := by
  apply List.sum_eq_zero
  intro amount member
  obtain ⟨order, among, rfl⟩ := List.mem_map.mp member
  obtain ⟨request, -, its⟩ := mem_acceptedOrders among
  have free := (orders_owned its).1.2
  exact congrFun free token

/-- The vouchers of accepted requests send the ether that is withdrawn. -/
theorem acceptedOrders_ether (platform : Platform) (requests : List Request)
    (answers : List Bool) :
    etherSent ((acceptedOrders platform requests answers).flatMap Order.sent) =
      ((acceptedOrders platform requests answers).map fun order => order.outflow .ether).sum := by
  induction requests generalizing answers with
  | nil => rfl
  | cons request rest ih =>
    cases answers with
    | nil => rfl
    | cons accepted others =>
      rw [acceptedOrders, List.flatMap_append, etherSent_append, List.map_append, List.sum_append,
        ih others]
      cases accepted with
      | true => rw [if_pos rfl, orders_ether]
      | false => rfl

end Settling

section Starting

variable {region : ℕ → AccountBalance}

/-- An application whose ledger records nothing keeps nothing. -/
theorem custody_blank (idle : ∀ assetId, Naming.IdleAsset app.ledger.book assetId)
    (unsent : app.vouchers = []) : app.custody = .blank := by
  refine Custody.ext ?_ ?_ unsent
  · exact funext fun token => Naming.reserve_idle fun assetId _ => idle assetId
  · funext token
    exact Finsupp.ext (Naming.amount_idle_asset fun assetId _ => idle assetId)

/-- A new ledger gives an application that keeps nothing. -/
theorem start_blank (started : start platform (Memory.empty region) = some app) :
    app.Sound platform.config ∧ app.custody = .blank := by
  have sound := Memory.sound_empty platform.config region
  unfold start at started
  split at started
  · next after response called =>
    split at started
    · have step := Memory.call_step sound called
      obtain rfl := Option.some.inj started
      cases step with
      | refused call error output =>
        have negative : error.code < 0 := Memory.call_negative called rfl
        have failed : error.code ≠ success := Int.ne_of_lt negative
        exact absurd ‹_› failed
      | asset result =>
        cases result with
        | found assetId asset finds present => simp [Memory.empty, Finmap.lookup_empty] at present
        | added asset creates room type keyed fresh single unsupplied plain =>
          have covered : ((Memory.empty region).addAsset asset).book.Covered :=
            Book.blank_balanced.covered.lossy (.move (Memory.book_addAsset sound unsupplied))
          have base : asset.type = .base := (Option.some.inj type).symm
          refine ⟨⟨sound.addAsset fresh single plain, covered, ⟨asset, ?_, base⟩, ?_⟩, ?_⟩
          · exact (Finmap.lookup_insert_if _ _ _ _).trans (if_pos rfl)
          · intro accountId account found
            simp [Memory.account, Memory.addAsset, Memory.empty, Finmap.lookup_empty] at found
          · apply custody_blank _ rfl
            intro assetId
            have nothing :
                ((Memory.empty region).addAsset asset).book.outstanding assetId = 0 := by
              simp only [Book.outstanding, Memory.book, Memory.addAsset, Finmap.lookup_insert_if]
              split
              · rw [Option.map_some, unsupplied, toNat_zeros]
                rfl
              · rfl
            exact ⟨nothing, covered.holding_zero nothing⟩
        | removed assetId asset removes => contradiction
    · contradiction
  · contradiction

end Starting

end Libcma.Wallet

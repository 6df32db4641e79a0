import Libcma.Wallet.Withdrawals

/-!
# What the application guarantees

For every run of requests from a new ledger: what is kept is what the orders of the requests say,
nobody is owed what did not come in, an account pays only for requests of its own wallet, and the
vouchers are those of the withdrawals that were accepted.
-/

namespace Libcma.Wallet

open Exec Custody

/-- The application after it started on a new ledger and gave requests their answers. -/
def Served (platform : Platform) (region : ℕ → AccountBalance) (requests : List Request)
    (answers : List Bool) (app : App) : Prop :=
  ∃ first, start platform (Memory.empty region) = some first ∧
    Run.execute (serve platform) first requests = some (app, answers)

/-- What orders bring in of a token. -/
def inflows (orders : List Order) (token : Token) : ℕ :=
  (orders.map fun order => order.inflow token).sum

/-- What orders take out of a token. -/
def outflows (orders : List Order) (token : Token) : ℕ :=
  (orders.map fun order => order.outflow token).sum

section Sample

/-- A memory that has bytes at an address. -/
def memoryOf (bytes : List UInt8) : Parser.Memory := fun pointer =>
  bytes.getD (pointer.toNat - 4096) 0

/-- The bytes lie there, with zeros behind them. -/
theorem memoryOf_holds (bytes : List UInt8) (blank : ℕ) (small : bytes.length + blank < 2 ^ 32) :
    Cells.Holds (memoryOf bytes) (4096 : BitVec 64) (bytes ++ List.replicate blank 0) := by
  intro index value found
  have inside := (List.getElem?_eq_some_iff.mp found).1
  rw [List.length_append, List.length_replicate] at inside
  have place : ((4096 : BitVec 64) + BitVec.ofNat 64 index).toNat = 4096 + index := by
    rw [BitVec.toNat_add, BitVec.toNat_ofNat]
    change (4096 + index % 2 ^ 64) % 2 ^ 64 = _
    omega
  rw [memoryOf, place, Nat.add_sub_cancel_left, List.getD_eq_getElem?_getD]
  by_cases early : index < bytes.length
  · rw [List.getElem?_append_left early] at found
    rw [found, Option.getD_some]
  · rw [List.getElem?_append_right (Nat.not_lt.mp early)] at found
    have zero := List.eq_of_mem_replicate (List.mem_of_getElem? found)
    rw [List.getElem?_eq_none (Nat.not_lt.mp early), Option.getD_none, zero]

/-- A platform whose device takes everything. -/
def samplePlatform : Platform where
  libcmt := .reference
  growCapacity capacity := 2 * capacity
  uninitialised := ⟨⟨⟨.zero, []⟩, .zero⟩, 0, 0, ⟨.id, zeros 32⟩, zeros 32, 0⟩
  erc20Payload := ⟨⟨_, 4096, by decide⟩, rfl, by decide⟩
  erc721Payload := ⟨⟨_, 4096, by decide⟩, rfl, by decide⟩
  erc1155SinglePayload := ⟨⟨_, 4096, by decide⟩, rfl, by decide⟩
  allocate size :=
    if fits : 4096 + size.toNat < 2 ^ 64 then
      some ⟨⟨size, 4096, fits⟩, rfl, (by decide : (4096 : BitVec 64) ≠ 0)⟩
    else none
  emitVoucher _ _ := 0
  emitReport _ _ := 0

/-- A payload of a small size. -/
def samplePayload (size : BitVec 64) (small : size.toNat < 2 ^ 32) : Parser.Payload :=
  ⟨size, 4096, by change 4096 + size.toNat < 2 ^ 64; omega⟩

/-- Five units of ether come in for the wallet at the zero address. -/
def sampleDeposit : Request :=
  ⟨⟨zeros 20, etherPortalAddress, samplePayload 52 (by decide),
    memoryOf ((zeros 20).toList ++ (smallAmount 5).toList)⟩, true⟩

/-- The wallet takes three units of ether out. -/
def sampleWithdrawal : Request :=
  ⟨⟨zeros 20, zeros 20, samplePayload 100 (by decide),
    memoryOf (Parser.selectorBytes Parser.withdrawEther ++ (smallAmount 3).toList ++
      (smallAmount 64).toList)⟩, true⟩

/-- What the wallet at the zero address holds of ether. -/
def sampleHolding (app : App) : ℕ :=
  app.naming.amount app.ledger.book .ether (walletId (zeros 20))

/-- The tests of selectors on the platform. -/
theorem sample_selects : samplePlatform.libcmt.toLibcmt.Selects := by
  have reference := Parser.Libcmt.reference_selects
  exact ⟨reference.matched, reference.kept⟩

/-- The deposit carries an encoding. -/
theorem sampleDeposit_canonical :
    sampleDeposit.input.Canonical (.etherDeposit (zeros 20) (smallAmount 5) []) := by
  have encoded : (Parser.Arguments.etherDeposit (zeros 20) (smallAmount 5) []).canonical =
      ((zeros 20).toList ++ (smallAmount 5).toList) ++ List.replicate 0 0 := by
    simp [Parser.Arguments.canonical]
  refine ⟨by decide, ?_, ?_⟩
  · rw [encoded]
    decide +kernel
  · rw [encoded]
    simp only [sampleDeposit, samplePayload]
    exact memoryOf_holds _ 0 (by simp)

/-- The withdrawal carries an encoding. -/
theorem sampleWithdrawal_canonical :
    sampleWithdrawal.input.Canonical (.etherWithdrawal (smallAmount 3) []) := by
  have encoded : (Parser.Arguments.etherWithdrawal (smallAmount 3) []).canonical =
      (Parser.selectorBytes Parser.withdrawEther ++ (smallAmount 3).toList ++
        (smallAmount 64).toList) ++ List.replicate 32 0 := by
    decide +kernel
  refine ⟨by decide, ?_, ?_⟩
  · rw [encoded]
    decide +kernel
  · rw [encoded]
    simp only [sampleWithdrawal, samplePayload]
    exact memoryOf_holds _ 32 (by simp)

/-- Both requests are accepted. -/
theorem sample_served :
    ∃ app, Served samplePlatform (fun _ => .zero) [sampleDeposit, sampleWithdrawal] [true, true]
      app := by
  have run : ((start samplePlatform (Memory.empty fun _ => .zero)).bind fun first =>
      (Run.execute (serve samplePlatform) first [sampleDeposit, sampleWithdrawal]).map
        fun finish => finish.2) = some [true, true] := by
    decide +kernel
  obtain ⟨first, started, rest⟩ := Option.bind_eq_some_iff.mp run
  obtain ⟨⟨app, answers⟩, executed, same⟩ := Option.map_eq_some_iff.mp rest
  cases same
  exact ⟨app, first, started, executed⟩

end Sample

variable {platform : Platform} {region : ℕ → AccountBalance} {requests : List Request}
  {answers : List Bool} {app : App}

/-- A served application is sound, and its requests are settled from nothing. -/
theorem Served.settles (standard : platform.libcmt.Standard)
    (served : Served platform region requests answers app) :
    app.Sound platform.config ∧ ∃ done, Settles platform requests answers done ∧
      Performs .blank done app.custody := by
  obtain ⟨first, started, executed⟩ := served
  obtain ⟨sound, blank⟩ := start_blank started
  rw [← blank]
  exact execute_settles standard sound executed

/-- What accounts of a served application hold and what went out came in. -/
theorem Served.covers (standard : platform.libcmt.Standard)
    (served : Served platform region requests answers app) (token : Token)
    (accounts : Finset Bytes32) :
    (∑ account ∈ accounts, app.custody.holding token account) +
        outflows (acceptedOrders platform requests answers) token ≤
      inflows (requestedOrders platform requests) token := by
  obtain ⟨-, done, settles, performs⟩ := served.settles standard
  have reserves : 0 + inflows done token = app.custody.reserve token + outflows done token :=
    performs.reserve token
  have held := (accounted_blank.performs performs).sum_le token accounts
  have incoming : inflows done token ≤ inflows (requestedOrders platform requests) token :=
    settles.inflow_le token
  have outgoing : outflows (acceptedOrders platform requests answers) token ≤
      outflows done token := settles.outflow_ge token
  omega

/-- Served from a new ledger, requests are orders to a custodian who had nothing: those of the
accepted ones are performed in turn, and of a rejected one those before a point at which it was cut
and none that sends a voucher; none at all where the machine goes back. -/
theorem served_performs (standard : platform.libcmt.Standard)
    (served : Served platform region requests answers app) :
    ∃ done, Settles platform requests answers done ∧ Performs .blank done app.custody :=
  (served.settles standard).2

/-- A deposit and a withdrawal are performed. -/
theorem served_performs_sample : ∃ app,
    Served samplePlatform (fun _ => .zero) [sampleDeposit, sampleWithdrawal] [true, true] app ∧
      ∃ done, Settles samplePlatform [sampleDeposit, sampleWithdrawal] [true, true] done ∧
        Performs .blank done app.custody := by
  obtain ⟨app, served⟩ := sample_served
  exact ⟨app, served, served_performs Parser.LibcmtPut.reference_standard served⟩

/-- Whatever the requests were, what any accounts hold of a token and what accepted requests took
out of it is no more than the requests brought in. Where the machine goes back on rejection, the
holdings are the whole reserve, and the reserve is what came in less what went out. -/
theorem served_solvent (standard : platform.libcmt.Standard)
    (served : Served platform region requests answers app) (token : Token)
    (accounts : Finset Bytes32) :
    (∑ account ∈ accounts, app.custody.holding token account) +
        outflows (acceptedOrders platform requests answers) token ≤
      inflows (requestedOrders platform requests) token ∧
    ((∀ request ∈ requests, request.reverts) →
      (app.custody.holding token).degree = app.custody.reserve token ∧
      app.custody.reserve token + outflows (acceptedOrders platform requests answers) token =
        inflows (acceptedOrders platform requests answers) token) := by
  refine ⟨served.covers standard token accounts, fun reverts => ?_⟩
  obtain ⟨-, done, settles, performs⟩ := served.settles standard
  have accounted := accounted_blank.performs performs
  have reserves : 0 + inflows done token = app.custody.reserve token + outflows done token :=
    performs.reserve token
  have whole : (app.custody.holding token).degree +
      (0 + (done.map fun order => order.loss token).sum) = app.custody.reserve token :=
    accounted token
  rw [settles.reverted reverts] at reserves whole
  have lossless : ((acceptedOrders platform requests answers).map fun order =>
      order.loss token).sum = 0 := acceptedOrders_loss token
  exact ⟨by omega, by omega⟩

/-- What is left of a deposit after a withdrawal is covered. -/
theorem served_solvent_sample : ∃ app,
    Served samplePlatform (fun _ => .zero) [sampleDeposit, sampleWithdrawal] [true, true] app ∧
      (∑ account ∈ {walletId (zeros 20)}, app.custody.holding .ether account) +
          outflows (acceptedOrders samplePlatform [sampleDeposit, sampleWithdrawal] [true, true])
            .ether ≤
        inflows (requestedOrders samplePlatform [sampleDeposit, sampleWithdrawal]) .ether := by
  obtain ⟨app, served⟩ := sample_served
  exact ⟨app, served, (served_solvent Parser.LibcmtPut.reference_standard served .ether
    {walletId (zeros 20)}).1⟩

/-- An account never holds less of a token than before unless a request from its own wallet, which
is no portal, was accepted in between, or was rejected without the machine going back. -/
theorem served_authorised (standard : platform.libcmt.Standard)
    (served : Served platform region requests answers app) {more : List Request}
    {others : List Bool} {after : App}
    (executed : Run.execute (serve platform) app more = some (after, others))
    {token : Token} {account : Bytes32}
    (less : after.custody.holding token account < app.custody.holding token account) :
    ∃ turn ∈ more.zip others, (turn.2 ∨ ¬turn.1.reverts) ∧
      portalType turn.1.input.msgSender = none ∧ account = walletId turn.1.input.msgSender := by
  obtain ⟨sound, -⟩ := served.settles standard
  obtain ⟨-, done, settles, performs⟩ := execute_settles standard sound executed
  have paid : ∃ order ∈ done, order.payer = some account := performs.exists_payer less
  obtain ⟨turn, member, stays, order, its, payer⟩ := settles.payer paid
  obtain ⟨owned, portal⟩ := orders_owned its
  have person : portalType turn.1.input.msgSender = none := by
    rcases portal with person | free
    · exact person
    · rw [free] at payer
      contradiction
  exact ⟨turn, member, stays, person, owned.1 account payer⟩

/-- The wallet that deposited takes something out. -/
theorem served_authorised_sample :
    ∃ turn ∈ [sampleWithdrawal].zip [true], (turn.2 ∨ ¬turn.1.reverts) ∧
      portalType turn.1.input.msgSender = none ∧
        walletId (zeros 20) = walletId turn.1.input.msgSender := by
  have run : ((start samplePlatform (Memory.empty fun _ => .zero)).bind fun first =>
      (Run.execute (serve samplePlatform) first [sampleDeposit]).bind fun early =>
        (Run.execute (serve samplePlatform) early.1 [sampleWithdrawal]).map fun late =>
          (early.2, late.2, sampleHolding early.1, sampleHolding late.1)) =
      some ([true], [true], 5, 2) := by
    decide +kernel
  obtain ⟨first, started, rest⟩ := Option.bind_eq_some_iff.mp run
  obtain ⟨⟨app, answers⟩, early, rest⟩ := Option.bind_eq_some_iff.mp rest
  obtain ⟨⟨after, others⟩, late, same⟩ := Option.map_eq_some_iff.mp rest
  simp only [Prod.mk.injEq] at same
  obtain ⟨rfl, rfl, before, left⟩ := same
  have less : after.custody.holding .ether (walletId (zeros 20)) <
      app.custody.holding .ether (walletId (zeros 20)) := by
    change sampleHolding after < sampleHolding app
    omega
  exact served_authorised Parser.LibcmtPut.reference_standard ⟨first, started, early⟩ late less

/-- The vouchers emitted are those of the accepted requests, in their order. -/
theorem served_vouchers (standard : platform.libcmt.Standard)
    (served : Served platform region requests answers app) :
    app.vouchers = (acceptedOrders platform requests answers).flatMap Order.sent := by
  obtain ⟨-, done, settles, performs⟩ := served.settles standard
  have outbox : app.vouchers = [] ++ done.flatMap Order.sent := performs.outbox
  rw [outbox, List.nil_append, settles.sent]

/-- One voucher is emitted, for the withdrawal. -/
theorem served_vouchers_sample : ∃ app,
    Served samplePlatform (fun _ => .zero) [sampleDeposit, sampleWithdrawal] [true, true] app ∧
      app.vouchers = (acceptedOrders samplePlatform [sampleDeposit, sampleWithdrawal]
        [true, true]).flatMap Order.sent := by
  obtain ⟨app, served⟩ := sample_served
  exact ⟨app, served, served_vouchers Parser.LibcmtPut.reference_standard served⟩

/-- The ether that the vouchers send and the ether that any accounts hold is no more than the ether
that the requests brought in. -/
theorem served_ether (standard : platform.libcmt.Standard)
    (served : Served platform region requests answers app) (accounts : Finset Bytes32) :
    etherSent app.vouchers + ∑ account ∈ accounts, app.custody.holding .ether account ≤
      inflows (requestedOrders platform requests) .ether := by
  have covered := served.covers standard .ether accounts
  obtain ⟨-, done, settles, performs⟩ := served.settles standard
  have outbox : app.vouchers = [] ++ done.flatMap Order.sent := performs.outbox
  have sent : etherSent app.vouchers =
      outflows (acceptedOrders platform requests answers) .ether := by
    rw [outbox, List.nil_append, settles.sent, acceptedOrders_ether, outflows]
  omega

/-- The ether of a deposit covers the voucher of the withdrawal. -/
theorem served_ether_sample : ∃ app,
    Served samplePlatform (fun _ => .zero) [sampleDeposit, sampleWithdrawal] [true, true] app ∧
      etherSent app.vouchers +
          ∑ account ∈ {walletId (zeros 20)}, app.custody.holding .ether account ≤
        inflows (requestedOrders samplePlatform [sampleDeposit, sampleWithdrawal]) .ether := by
  obtain ⟨app, served⟩ := sample_served
  exact ⟨app, served, served_ether Parser.LibcmtPut.reference_standard served
    {walletId (zeros 20)}⟩

/-- Requests that carry encodings of arguments, from the portals and from users, are orders to a
custodian who had nothing, as the arguments of the accepted ones say: the vouchers are those of
their withdrawals, and where the machine goes back on rejection nothing else is performed. -/
theorem served_canonical (standard : platform.libcmt.Standard)
    (selects : platform.libcmt.toLibcmt.Selects)
    (served : Served platform region requests answers app) {encoded : List Parser.Arguments}
    (canonical : List.Forall₂ (fun request => request.input.Canonical) requests encoded) :
    app.vouchers = (askedOrders requests encoded answers).flatMap Order.sent ∧
    ((∀ request ∈ requests, request.reverts) →
      Performs .blank (askedOrders requests encoded answers) app.custody) := by
  obtain ⟨-, done, settles, performs⟩ := served.settles standard
  rw [← acceptedOrders_canonical standard selects canonical]
  constructor
  · have outbox : app.vouchers = [] ++ done.flatMap Order.sent := performs.outbox
    rw [outbox, List.nil_append, settles.sent]
  · intro reverts
    rw [← settles.reverted reverts]
    exact performs

/-- Five units of ether came in for the wallet and three went out to it. -/
theorem served_canonical_sample : ∃ app,
    Served samplePlatform (fun _ => .zero) [sampleDeposit, sampleWithdrawal] [true, true] app ∧
      app.vouchers = [etherVoucher (zeros 20) (smallAmount 3)] ∧
      Performs .blank
        [.deposit .ether (walletId (zeros 20)) (smallAmount 5).toNat,
          .withdraw .ether (walletId (zeros 20)) (smallAmount 3).toNat,
          .send (etherVoucher (zeros 20) (smallAmount 3))] app.custody := by
  obtain ⟨app, served⟩ := sample_served
  obtain ⟨vouchers, performs⟩ := served_canonical Parser.LibcmtPut.reference_standard sample_selects
    served (.cons sampleDeposit_canonical (.cons sampleWithdrawal_canonical .nil))
  refine ⟨app, served, vouchers, performs ?_⟩
  simp [sampleDeposit, sampleWithdrawal]

/-- A canonical request to withdraw something from the wallet of its sender, whose voucher the
device takes, is accepted exactly when the wallet holds what it asks for. -/
theorem served_withdraws (standard : platform.libcmt.Standard)
    (selects : platform.libcmt.toLibcmt.Selects)
    (served : Served platform region requests answers app) {request : Request}
    {arguments : Parser.Arguments} (canonical : request.input.Canonical arguments)
    (draws : ∃ token account amount,
      Order.withdraw token account amount ∈ request.input.asked arguments)
    (positive : ∀ token account amount,
      Order.withdraw token account amount ∈ request.input.asked arguments → 0 < amount)
    (takes : ∀ voucher ∈ (request.input.asked arguments).flatMap Order.sent,
      0 ≤ platform.emitVoucher app.vouchers voucher)
    (room : platform.HasRoom arguments) :
    (∃ after, serve platform app request = some (after, true)) ↔
      ∀ token, outflows (request.input.asked arguments) token ≤
        app.custody.holding token (walletId request.input.msgSender) := by
  obtain ⟨sound, -⟩ := served.settles standard
  obtain ⟨-, -, own⟩ := asked_draws draws
  have covered (token : Token) := sound.holding_le token (walletId request.input.msgSender)
  have accepts := serve_withdraws_iff standard selects sound canonical draws positive takes room
  exact accepts.trans (exists_performs_iff own covered)

/-- Three units of five can be withdrawn. -/
theorem served_withdraws_sample : ∃ app after,
    Served samplePlatform (fun _ => .zero) [sampleDeposit] [true] app ∧
      serve samplePlatform app sampleWithdrawal = some (after, true) := by
  have run : ((start samplePlatform (Memory.empty fun _ => .zero)).bind fun first =>
      (Run.execute (serve samplePlatform) first [sampleDeposit]).map fun finish =>
        (finish.2, sampleHolding finish.1)) = some ([true], 5) := by
    decide +kernel
  obtain ⟨first, started, rest⟩ := Option.bind_eq_some_iff.mp run
  obtain ⟨⟨app, answers⟩, executed, same⟩ := Option.map_eq_some_iff.mp rest
  simp only [Prod.mk.injEq] at same
  obtain ⟨rfl, five⟩ := same
  have served : Served samplePlatform (fun _ => .zero) [sampleDeposit] [true] app :=
    ⟨first, started, executed⟩
  have three : (smallAmount 3).toNat = 3 := by decide +kernel
  have positive (token : Token) (account : Bytes32) (amount : ℕ)
      (member : Order.withdraw token account amount ∈
        sampleWithdrawal.input.asked (.etherWithdrawal (smallAmount 3) [])) : 0 < amount := by
    simp only [Advance.asked, List.mem_cons, List.not_mem_nil, Order.withdraw.injEq, reduceCtorEq,
      or_false] at member
    omega
  have holds (token : Token) :
      outflows (sampleWithdrawal.input.asked (.etherWithdrawal (smallAmount 3) [])) token ≤
        app.custody.holding token (walletId (zeros 20)) := by
    by_cases ether : token = .ether
    · subst ether
      have held : app.custody.holding .ether (walletId (zeros 20)) = 5 := five
      simp [outflows, Advance.asked, Order.outflow, three, held]
    · simp [outflows, Advance.asked, Order.outflow, ether]
  obtain ⟨after, accepted⟩ := (served_withdraws Parser.LibcmtPut.reference_standard sample_selects
    served sampleWithdrawal_canonical ⟨.ether, walletId (zeros 20), _, List.mem_cons_self⟩
    positive (fun _ _ => Int.le_refl 0) trivial).mpr holds
  exact ⟨app, after, served, accepted⟩

end Libcma.Wallet

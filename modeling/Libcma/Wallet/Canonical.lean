import Libcma.Parser.Auto
import Libcma.Parser.Canonical
import Libcma.Wallet.Service

/-!
# What canonical requests ask for

`Advance.asked` reads the orders of a request off the arguments that were encoded, without a
decoder. A request whose payload is the canonical one asks for exactly these.
-/

namespace Libcma.Wallet

open Exec Libcma.Parser

/-- The portal that sends inputs of a type; users send the others. -/
def portalOf : InputType → Option InputType
  | .etherDeposit => some .etherDeposit
  | .erc20Deposit => some .erc20Deposit
  | .erc721Deposit => some .erc721Deposit
  | .erc1155SingleDeposit => some .erc1155SingleDeposit
  | .erc1155BatchDeposit => some .erc1155BatchDeposit
  | _ => none

/-- What a request with these arguments has to do. -/
def Advance.asked (input : Advance) : Arguments → List Order
  | .etherDeposit sender amount _ => [.deposit .ether (walletId sender) amount.toNat]
  | .erc20Deposit token sender amount _ =>
    [.deposit (.ofAddress token) (walletId sender) amount.toNat]
  | .erc721Deposit token sender tokenId _ _ => [.deposit (.ofId token tokenId) (walletId sender) 1]
  | .erc1155SingleDeposit token sender tokenId amount _ _ =>
    [.deposit (.ofId token tokenId) (walletId sender) amount.toNat]
  | .erc1155BatchDeposit token sender tokenIds amounts _ _ _ =>
    (tokenIds.zip amounts).map fun pair =>
      .deposit (.ofId token pair.1) (walletId sender) pair.2.toNat
  | .etherWithdrawal amount _ =>
    [.withdraw .ether (walletId input.msgSender) amount.toNat,
      .send (etherVoucher input.msgSender amount)]
  | .erc20Withdrawal token amount _ =>
    [.withdraw (.ofAddress token) (walletId input.msgSender) amount.toNat,
      .send (erc20Voucher input.msgSender token amount)]
  | .erc721Withdrawal token tokenId _ =>
    [.withdraw (.ofId token tokenId) (walletId input.msgSender) 1,
      .send (erc721Voucher input.appContract input.msgSender token tokenId)]
  | .erc1155SingleWithdrawal token tokenId amount _ =>
    [.withdraw (.ofId token tokenId) (walletId input.msgSender) amount.toNat,
      .send (erc1155SingleVoucher input.appContract input.msgSender token tokenId amount)]
  | .erc1155BatchWithdrawal token tokenIds amounts _ _ =>
    (tokenIds.zip amounts).map (fun pair =>
      .withdraw (.ofId token pair.1) (walletId input.msgSender) pair.2.toNat) ++
    [.send (erc1155BatchVoucher input.appContract input.msgSender token tokenIds amounts)]
  | .etherTransfer receiver amount _ =>
    [.transfer .ether (walletId input.msgSender) receiver amount.toNat]
  | .erc20Transfer token receiver amount _ =>
    [.transfer (.ofAddress token) (walletId input.msgSender) receiver amount.toNat]
  | .erc721Transfer token receiver tokenId _ =>
    [.transfer (.ofId token tokenId) (walletId input.msgSender) receiver 1]
  | .erc1155SingleTransfer token receiver tokenId amount _ =>
    [.transfer (.ofId token tokenId) (walletId input.msgSender) receiver amount.toNat]
  | .erc1155BatchTransfer token receiver tokenIds amounts _ _ =>
    (tokenIds.zip amounts).map fun pair =>
      .transfer (.ofId token pair.1) (walletId input.msgSender) receiver pair.2.toNat

section Lists

variable {memory : Parser.Memory} {list ids amounts : U256List} {items others : List Bytes32}

/-- An element of a list in memory. -/
theorem element_of_denotes (denotes : list.Denotes memory items) {index : ℕ}
    (inside : index < items.length) : element memory list index = items[index] := by
  have split : items = items.take index ++ items[index] :: items.drop (index + 1) := by
    rw [List.getElem_cons_drop, List.take_append_drop]
  have holds := denotes.2
  rw [split, List.flatMap_append, List.flatMap_cons, Cells.holds_append, Cells.holds_append]
    at holds
  have before : ((items.take index).flatMap List.Vector.toList).length = 32 * index := by
    rw [Abi.length_words, List.length_take, Nat.min_eq_left inside.le]
  rw [before] at holds
  exact bytes_of_holds _ holds.2.1

/-- The elements of a list in memory. -/
theorem elements_of_denotes (denotes : list.Denotes memory items) :
    elements memory list = items := by
  have count := denotes.1
  apply List.ext_getElem
  · rw [elements, List.length_map, List.length_range, count]
  · intro index _ inside
    simp only [elements, List.getElem_map, List.getElem_range, element_of_denotes denotes inside]

/-- The pairs of a batch in memory. -/
theorem pairs_of_denotes (denotes : ids.Denotes memory items)
    (matched : amounts.Denotes memory others) (paired : items.length = others.length) :
    pairs memory ids amounts = items.zip others := by
  have count := denotes.1
  apply List.ext_getElem
  · rw [pairs, List.length_map, List.length_range, count, List.length_zip]
    omega
  · intro index _ inside
    rw [List.length_zip] at inside
    have first : index < items.length := by omega
    have second : index < others.length := by omega
    simp only [pairs, List.getElem_map, List.getElem_range, List.getElem_zip,
      element_of_denotes denotes first, element_of_denotes matched second]

end Lists

section Decoding

variable {platform : Platform} {input : Advance} {type : InputType} {orders : List Order}

/-- AUTO returns what the type of a withdrawal or a transfer returns. -/
theorem decodeAuto_run {libcmt : Libcmt} {memory : Parser.Memory} {payload : Payload}
    {state after : Parsed} (selects : libcmt.Selects) (call : type.IsCall)
    (run : (decodeAdvance libcmt memory type payload).run state = .ok () after) :
    (decodeAdvance libcmt memory .auto payload).run state = .ok () after := by
  obtain ⟨entry, member, rfl⟩ := exists_callFunsel call
  have selected := decodeAdvance_selected member run
  have listed : (entry.1, decodeAdvance libcmt memory entry.2) ∈ autoDecoders libcmt memory := by
    rw [autoDecoders_eq]
    exact List.mem_map_of_mem member
  have apart : (autoDecoders libcmt memory).Pairwise fun one other =>
      selectorBytes one.1 ≠ selectorBytes other.1 := by
    rw [autoDecoders_eq]
    exact List.pairwise_map.mpr (List.pairwise_map.mp callFunsels_distinct)
  have found := decodeFirst_eq selects listed apart selected
  change (decodeFirst libcmt memory payload _ _).run state = _
  rw [found]
  exact run

/-- What a portal's request asks for when it is decoded. -/
theorem orders_deposit (portal : portalType input.msgSender = some type)
    (decodes : ∃ session members, (decodeAdvance platform.libcmt.toLibcmt input.memory type
        input.payload).run platform.uninitialised.parserInput = .ok () (session, members) ∧
      session.input.type = type ∧ input.deposits (session, members) type = orders) :
    input.orders platform = orders := by
  obtain ⟨session, members, run, -, asks⟩ := decodes
  have decoded : decodedDeposit platform type input = some (session, members) := by
    rw [decodedDeposit, run]
    rfl
  unfold Advance.orders
  simp only [portal, decoded, Option.elim_some]
  exact asks

/-- A user's request is decoded as a withdrawal or a transfer. -/
structure Advance.Decodes (input : Advance) (platform : Platform) (type : InputType)
    (parsed : Parsed) : Prop where
  /-- AUTO returns it. -/
  run : (decodeAdvance platform.libcmt.toLibcmt input.memory .auto input.payload).run
    platform.uninitialised.parserInput = .ok () parsed
  /-- It has the type. -/
  typed : parsed.1.input.type = type
  /-- The lists of a batch to withdraw have one length. -/
  lists : type = .erc1155BatchWithdrawal →
    parsed.1.input.erc1155BatchWithdrawal.amounts.length =
      parsed.1.input.erc1155BatchWithdrawal.tokenIds.length

/-- What the decoder of a type returns is what a user's request is decoded as. -/
theorem decodes_run (selects : platform.libcmt.toLibcmt.Selects) (call : type.IsCall)
    (single : type ≠ .erc1155BatchWithdrawal)
    (returns : ∃ session members, (decodeAdvance platform.libcmt.toLibcmt input.memory type
        input.payload).run platform.uninitialised.parserInput = .ok () (session, members) ∧
      session.input.type = type ∧ input.calls (session, members) = orders) :
    ∃ parsed, input.Decodes platform type parsed ∧ input.calls parsed = orders := by
  obtain ⟨session, members, run, typed, asks⟩ := returns
  have decodes : input.Decodes platform type (session, members) :=
    ⟨decodeAuto_run selects call run, typed, fun batch => absurd batch single⟩
  exact ⟨(session, members), decodes, asks⟩

/-- The input is what its sender gets by encoding arguments: the portal of the type for a deposit,
and a user for anything else. -/
structure Advance.Canonical (input : Advance) (arguments : Arguments) : Prop where
  /-- The sender is the one of the type. -/
  origin : portalType input.msgSender = portalOf arguments.type
  /-- The payload has the size of the encoding. -/
  sized : input.payload.length.toNat = arguments.canonical.length
  /-- The memory holds the encoding. -/
  holds : Cells.Holds input.memory input.payload.data arguments.canonical

/-- A canonical request of a user is decoded, and asks for what its arguments say. -/
theorem decodes_canonical (standard : platform.libcmt.Standard)
    (selects : platform.libcmt.toLibcmt.Selects) {arguments : Arguments}
    (canonical : input.Canonical arguments) (call : arguments.type.IsCall) :
    ∃ parsed, input.Decodes platform arguments.type parsed ∧
      input.calls parsed = input.asked arguments := by
  have reads := standard.toStandard
  obtain ⟨-, sized, holds⟩ := canonical
  cases arguments with
  | etherWithdrawal amount exec =>
    apply decodes_run selects call (by simp [Arguments.type])
    rw [Arguments.type, decodeAdvance, decodeEtherWithdrawal]
    exact decodeCall_run reads [amount]
      (.uint256 _ _ amount .nil)
      sized holds fun _ _ => rfl
  | erc20Withdrawal token amount exec =>
    apply decodes_run selects call (by simp [Arguments.type])
    rw [Arguments.type, decodeAdvance, decodeErc20Withdrawal]
    exact decodeCall_run reads [walletId token, amount]
      (.address _ _ token (.uint256 _ _ amount .nil))
      sized holds fun _ _ => rfl
  | erc721Withdrawal token tokenId exec =>
    apply decodes_run selects call (by simp [Arguments.type])
    rw [Arguments.type, decodeAdvance, decodeErc721Withdrawal]
    exact decodeCall_run reads [walletId token, tokenId]
      (.address _ _ token (.uint256 _ _ tokenId .nil))
      sized holds fun _ _ => rfl
  | erc1155SingleWithdrawal token tokenId amount exec =>
    apply decodes_run selects call (by simp [Arguments.type])
    rw [Arguments.type, decodeAdvance, decodeErc1155SingleWithdrawal]
    exact decodeCall_run reads [walletId token, tokenId, amount]
      (.address _ _ token (.uint256 _ _ tokenId (.uint256 _ _ amount .nil)))
      sized holds fun _ _ => rfl
  | erc1155BatchWithdrawal token tokenIds amounts paired exec =>
    obtain ⟨idList, amountList, data, words, run, idDenotes, amountDenotes, -⟩ :=
      decodeErc1155BatchWithdrawal_run reads token tokenIds amounts paired exec sized holds
        platform.uninitialised.parserInput.1
    have decoded : (decodeAdvance platform.libcmt.toLibcmt input.memory .erc1155BatchWithdrawal
        input.payload).run platform.uninitialised.parserInput =
          .ok () (⟨{ platform.uninitialised.parserInput.1.input with
            type := .erc1155BatchWithdrawal
            erc1155BatchWithdrawal := ⟨token, idList, amountList, data⟩ }, words⟩,
            platform.uninitialised.parserInput.2) := by
      rw [decodeAdvance, Exec.onFirst_run, run]
      rfl
    refine ⟨_, ⟨decodeAuto_run selects call decoded, rfl, fun _ => ?_⟩, ?_⟩
    · apply BitVec.eq_of_toNat_eq
      exact amountDenotes.1.trans (paired.symm.trans idDenotes.1.symm)
    · simp only [Advance.calls, Advance.asked, pairs_of_denotes idDenotes amountDenotes paired,
        elements_of_denotes idDenotes, elements_of_denotes amountDenotes]
  | etherTransfer receiver amount exec =>
    apply decodes_run selects call (by simp [Arguments.type])
    rw [Arguments.type, decodeAdvance, decodeEtherTransfer]
    exact decodeCall_run reads [receiver, amount]
      (.uint256 _ _ receiver (.uint256 _ _ amount .nil))
      sized holds fun _ _ => rfl
  | erc20Transfer token receiver amount exec =>
    apply decodes_run selects call (by simp [Arguments.type])
    rw [Arguments.type, decodeAdvance, decodeErc20Transfer]
    exact decodeCall_run reads [walletId token, receiver, amount]
      (.address _ _ token (.uint256 _ _ receiver (.uint256 _ _ amount .nil)))
      sized holds fun _ _ => rfl
  | erc721Transfer token receiver tokenId exec =>
    apply decodes_run selects call (by simp [Arguments.type])
    rw [Arguments.type, decodeAdvance, decodeErc721Transfer]
    exact decodeCall_run reads [walletId token, receiver, tokenId]
      (.address _ _ token (.uint256 _ _ receiver (.uint256 _ _ tokenId .nil)))
      sized holds fun _ _ => rfl
  | erc1155SingleTransfer token receiver tokenId amount exec =>
    apply decodes_run selects call (by simp [Arguments.type])
    rw [Arguments.type, decodeAdvance, decodeErc1155SingleTransfer]
    exact decodeCall_run reads [walletId token, receiver, tokenId, amount]
      (.address _ _ token (.uint256 _ _ receiver (.uint256 _ _ tokenId
        (.uint256 _ _ amount .nil))))
      sized holds fun _ _ => rfl
  | erc1155BatchTransfer token receiver tokenIds amounts paired exec =>
    apply decodes_run selects call (by simp [Arguments.type])
    obtain ⟨_, _, _, words, run, idDenotes, amountDenotes, -⟩ :=
      decodeErc1155BatchTransfer_run reads token receiver tokenIds amounts paired exec sized
        holds platform.uninitialised.parserInput.1
    rw [Arguments.type, decodeAdvance, Exec.onFirst_run, run]
    refine ⟨_, platform.uninitialised.parserInput.2, rfl, rfl, ?_⟩
    simp only [Advance.calls, Advance.asked, pairs_of_denotes idDenotes amountDenotes paired]
  | _ => exact call.elim

/-- A canonical request asks for what its arguments say. -/
theorem orders_canonical (standard : platform.libcmt.Standard)
    (selects : platform.libcmt.toLibcmt.Selects) {arguments : Arguments}
    (canonical : input.Canonical arguments) : input.orders platform = input.asked arguments := by
  have reads := standard.toStandard
  have calls (call : arguments.type.IsCall) (person : portalOf arguments.type = none) :
      input.orders platform = input.asked arguments := by
    obtain ⟨parsed, decodes, asks⟩ := decodes_canonical standard selects canonical call
    have decoded : decodedCall platform input = some parsed := by
      rw [decodedCall, decodes.run]
      rfl
    unfold Advance.orders
    simp only [canonical.origin, person, decoded, Option.elim_some]
    exact asks
  obtain ⟨origin, sized, holds⟩ := canonical
  cases arguments with
  | etherDeposit sender amount exec =>
    apply orders_deposit origin
    rw [decodeAdvance, decodeEtherDeposit]
    exact decodePackedDeposit_run reads (.packed _ sender (.uint256 _ _ amount .nil))
      sized holds fun _ _ => rfl
  | erc20Deposit token sender amount exec =>
    apply orders_deposit origin
    rw [decodeAdvance, decodeErc20Deposit]
    exact decodePackedDeposit_run reads
      (.packed _ token (.packed _ sender (.uint256 _ _ amount .nil)))
      sized holds fun _ _ => rfl
  | erc721Deposit token sender tokenId base exec =>
    apply orders_deposit origin
    rw [decodeAdvance, decodeErc721Deposit]
    exact decodeFramedDeposit_run reads
      (.packed _ token (.packed _ sender (.uint256 _ _ tokenId .nil)))
      sized holds fun _ _ _ _ => rfl
  | erc1155SingleDeposit token sender tokenId amount base exec =>
    apply orders_deposit origin
    rw [decodeAdvance, decodeErc1155SingleDeposit]
    exact decodeFramedDeposit_run reads (.packed _ token (.packed _ sender
      (.uint256 _ _ tokenId (.uint256 _ _ amount .nil))))
      sized holds fun _ _ _ _ => rfl
  | erc1155BatchDeposit token sender tokenIds amounts paired base exec =>
    apply orders_deposit origin
    obtain ⟨_, _, _, _, words, run, idDenotes, amountDenotes, -, -⟩ :=
      decodeErc1155BatchDeposit_run reads token sender tokenIds amounts paired base exec sized
        holds platform.uninitialised.parserInput.1
    rw [decodeAdvance, Exec.onFirst_run, run]
    refine ⟨_, platform.uninitialised.parserInput.2, rfl, rfl, ?_⟩
    simp only [Advance.deposits, Advance.asked, pairs_of_denotes idDenotes amountDenotes paired]
  | _ => exact calls trivial rfl

end Decoding

section Asking

variable {platform : Platform} {requests : List Request} {encoded : List Arguments}

/-- What the requests that were accepted ask for, by the arguments that were encoded. -/
def askedOrders : List Request → List Arguments → List Bool → List Order
  | request :: requests, arguments :: encoded, accepted :: answers =>
    (if accepted then request.input.asked arguments else []) ++
      askedOrders requests encoded answers
  | _, _, _ => []

/-- Canonical requests that are accepted ask for what their arguments say. -/
theorem acceptedOrders_canonical (standard : platform.libcmt.Standard)
    (selects : platform.libcmt.toLibcmt.Selects)
    (canonical : List.Forall₂ (fun request => request.input.Canonical) requests encoded)
    (answers : List Bool) :
    acceptedOrders platform requests answers = askedOrders requests encoded answers := by
  induction canonical generalizing answers with
  | nil => rfl
  | @cons request arguments requests encoded first rest ih =>
    cases answers with
    | nil => rfl
    | cons accepted others =>
      rw [acceptedOrders, askedOrders, ih others, orders_canonical standard selects first]

end Asking

end Libcma.Wallet

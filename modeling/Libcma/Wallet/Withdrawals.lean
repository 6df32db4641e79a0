import Libcma.Wallet.Canonical
import Libcma.Wallet.Exits

/-!
# What can be withdrawn is withdrawn

The handlers of withdrawals return where what is kept suffices for the orders of the request and the
device takes the voucher. With the orders that served requests carry out, a withdrawal is accepted
exactly when it can be performed.
-/

namespace Libcma.Wallet

open Exec Custody

variable {platform : Platform} {app now : App} {token : Token} {account : Bytes32}
  {address : Address} {assetId : AssetId} {accountId : AccountId} {orders rest : List Order}
  {context : String}

/-- Orders that what is kept suffices for, that withdraw something each, and whose vouchers the
device takes. -/
structure Feasible (platform : Platform) (app : App) (orders : List Order) : Prop where
  /-- They can be performed. -/
  affords : ∃ custody, Performs app.custody orders custody
  /-- A withdrawal is not of nothing. -/
  positive : ∀ token account amount, Order.withdraw token account amount ∈ orders → 0 < amount
  /-- The vouchers are taken. -/
  takes : ∀ voucher ∈ orders.flatMap Order.sent, 0 ≤ platform.emitVoucher app.vouchers voucher

section Feasibility

/-- Orders that send nothing keep the vouchers. -/
theorem vouchers_kept (advances : Advances (custodian platform.config) app orders now)
    (quiet : Silent orders) : now.vouchers = app.vouchers := by
  have outbox : now.vouchers = app.vouchers ++ orders.flatMap Order.sent :=
    advances.performs.outbox
  rw [outbox, show orders.flatMap Order.sent = [] from quiet, List.append_nil]

/-- Where nothing was done, the same is feasible. -/
theorem Feasible.idle (feasible : Feasible platform app orders)
    (advances : Advances (custodian platform.config) app [] now) :
    Feasible platform now orders := by
  have same : now.custody = app.custody := advances.performs.eq_of_nil
  have vouchers := vouchers_kept advances silent_nil
  refine ⟨?_, feasible.positive, ?_⟩
  · rw [same]
    exact feasible.affords
  · rw [vouchers]
    exact feasible.takes

/-- What is withdrawn first is something, and is held. -/
theorem Feasible.holds {amount : ℕ}
    (feasible : Feasible platform app (.withdraw token account amount :: rest)) :
    0 < amount ∧ amount ≤ app.custody.holding token account := by
  obtain ⟨custody, performs⟩ := feasible.affords
  cases performs with
  | order moves others =>
    exact ⟨feasible.positive token account amount List.mem_cons_self, moves.enough⟩

/-- After the first withdrawal, the rest is feasible. -/
theorem Feasible.next {amount : ℕ}
    (feasible : Feasible platform app (.withdraw token account amount :: rest))
    (advances : Advances (custodian platform.config) app [.withdraw token account amount] now) :
    Feasible platform now rest := by
  obtain ⟨custody, performs⟩ := feasible.affords
  have vouchers := vouchers_kept advances rfl
  refine ⟨⟨custody, ?_⟩, ?_, ?_⟩
  · cases performs with
    | @order _ middle _ _ _ moves others =>
      have moved : Moves app.custody (.withdraw token account amount) now.custody := by
        cases advances.performs with
        | order moves ended =>
          obtain rfl := ended.eq_of_nil
          exact moves
      rw [← moves.unique moved]
      exact others
  · intro token account amount member
    exact feasible.positive token account amount (List.mem_cons_of_mem _ member)
  · rw [vouchers]
    exact feasible.takes

end Feasibility

section Handlers

variable {amount : Amount} {emitted : Emitted}

/-- A feasible withdrawal and the removal of what it empties, and then what returns after it. -/
theorem returns_withdraw_then (sound : app.Sound platform.config)
    (named : app.naming.asset token = some assetId)
    (owner : app.naming.member (walletId address) = some accountId)
    (feasible : Feasible platform app
      (.withdraw token (walletId address) amount.toNat :: rest)) {next : Handler Unit}
    (returns : ∀ now, now.Sound platform.config → now.naming.asset token = some assetId →
      Feasible platform now rest → Returns next now fun _ _ => True) :
    Returns (do
      withdraw platform assetId accountId amount context
      checkAndRemoveAccount platform accountId
      next) app fun _ _ => True := by
  obtain ⟨positive, enough⟩ := feasible.holds
  apply ((returns_withdraw sound named owner positive enough).carried
    (carries_withdraw sound named owner amount)).bind
  rintro _ middle ⟨-, advances, same⟩
  have left := feasible.next advances
  have kept : middle.naming.member (walletId address) = some accountId := same ▸ owner
  have checked := (returns_checkAndRemoveAccount advances.sound kept).carried
    (carries_checkAndRemoveAccount advances.sound accountId)
  apply checked.bind
  rintro _ last ⟨assets, idle, -⟩
  exact returns last idle.sound ((congrFun assets token).trans (same ▸ named)) (left.idle idle)

/-- A voucher whose sending is feasible is sent. -/
theorem Feasible.sends (feasible : Feasible platform app [.send emitted])
    {type : Parser.VoucherType} {given : Option Address} {request : Parser.VoucherData}
    {payload : Parser.Payload}
    (writes : Writes platform.libcmt type given request payload emitted)
    (memory : Parser.Memory) (encodeContext emitContext : String) :
    Returns (sendVoucher platform type given request payload memory encodeContext emitContext) app
      fun _ _ => True :=
  returns_sendVoucher writes (feasible.takes emitted (List.mem_singleton_self emitted)) memory
    encodeContext emitContext

/-- The name of what is withdrawn first. -/
theorem Feasible.named {amount : ℕ}
    (feasible : Feasible platform app (.withdraw token account amount :: rest)) :
    (∃ assetId, app.naming.asset token = some assetId) ∧
      ∃ accountId, app.naming.member account = some accountId := by
  obtain ⟨positive, enough⟩ := feasible.holds
  exact app.named_of_holding (Nat.lt_of_lt_of_le positive enough)

/-- A feasible withdrawal of a token, the removal of what it empties, and its voucher. -/
theorem returns_withdraw_send (sound : app.Sound platform.config)
    (named : app.naming.asset token = some assetId)
    (owner : app.naming.member (walletId address) = some accountId)
    (feasible : Feasible platform app
      [.withdraw token (walletId address) amount.toNat, .send emitted])
    {type : Parser.VoucherType} {given : Option Address} {request : Parser.VoucherData}
    {payload : Parser.Payload}
    (writes : Writes platform.libcmt type given request payload emitted)
    (memory : Parser.Memory) (encodeContext emitContext : String) :
    Returns (do
      withdraw platform assetId accountId amount context
      checkAndRemoveAccount platform accountId
      checkAndRemoveAsset platform assetId
      sendVoucher platform type given request payload memory encodeContext emitContext) app
      fun _ _ => True := by
  apply returns_withdraw_then sound named owner feasible
  intro middle settled kept left
  apply ((returns_checkAndRemoveAsset settled kept).carried
    (carries_checkAndRemoveAsset settled assetId)).bind
  rintro _ last ⟨-, removed, -⟩
  exact (left.idle removed).sends writes memory encodeContext emitContext

variable {input : Advance} {holder : AccountArgs} {parsed : Parsed}

/-- `process_ether_withdrawal_and_send_voucher`. -/
theorem returns_processEtherWithdrawal (sound : app.Sound platform.config)
    (type : parsed.1.input.type = .etherWithdrawal)
    (owner : app.naming.member (walletId input.msgSender) = some (laccId holder))
    (receiver : accountAddressOf holder = input.msgSender)
    (feasible : Feasible platform app (input.calls parsed)) :
    Returns (processEtherWithdrawal platform input holder parsed) app fun _ _ => True := by
  unfold Advance.calls at feasible
  rw [type] at feasible
  unfold processEtherWithdrawal
  rw [receiver]
  apply Returns.read.bind
  rintro _ _ ⟨rfl, rfl⟩
  apply returns_withdraw_then sound rfl owner feasible
  intro last _ _ left
  exact left.sends (writes_etherVoucher _ _ _) _ _ _

/-- `process_erc20_withdrawal_and_send_voucher`. -/
theorem returns_processErc20Withdrawal (standard : platform.libcmt.Standard)
    (sound : app.Sound platform.config) (type : parsed.1.input.type = .erc20Withdrawal)
    (owner : app.naming.member (walletId input.msgSender) = some (laccId holder))
    (receiver : accountAddressOf holder = input.msgSender)
    (feasible : Feasible platform app (input.calls parsed)) :
    Returns (processErc20Withdrawal platform input holder parsed) app fun _ _ => True := by
  unfold Advance.calls at feasible
  rw [type] at feasible
  unfold processErc20Withdrawal
  rw [receiver]
  obtain ⟨⟨assetId, known⟩, -⟩ := feasible.named
  apply ((returns_retrieveToken sound rfl known).carried (carries_retrieveErc20 sound _ _)).bind
  rintro asset now ⟨-, found, named, members⟩
  exact returns_withdraw_send found.sound named ((congrFun members _).trans owner)
    (feasible.idle found) (writes_erc20Voucher standard _ platform.erc20Payload) _ _ _

/-- `process_erc721_withdrawal_and_send_voucher`. -/
theorem returns_processErc721Withdrawal (standard : platform.libcmt.Standard)
    (sound : app.Sound platform.config) (type : parsed.1.input.type = .erc721Withdrawal)
    (owner : app.naming.member (walletId input.msgSender) = some (laccId holder))
    (receiver : accountAddressOf holder = input.msgSender)
    (feasible : Feasible platform app (input.calls parsed)) :
    Returns (processErc721Withdrawal platform input holder parsed) app fun _ _ => True := by
  unfold Advance.calls at feasible
  rw [type] at feasible
  unfold processErc721Withdrawal
  rw [receiver]
  obtain ⟨⟨assetId, known⟩, -⟩ := feasible.named
  apply ((returns_retrieveToken sound rfl known).carried
    (carries_retrieveId sound _ (.inl rfl) _ _)).bind
  rintro asset now ⟨-, found, named, members, -⟩
  have one : oneAmount.toNat = 1 := toNat_oneAmount
  exact returns_withdraw_send found.sound named ((congrFun members _).trans owner)
    (one ▸ feasible.idle found)
    (writes_erc721Voucher standard input.appContract _ platform.erc721Payload) _ _ _

/-- `process_erc1155_single_withdrawal_and_send_voucher`. -/
theorem returns_processErc1155SingleWithdrawal (standard : platform.libcmt.Standard)
    (sound : app.Sound platform.config) (type : parsed.1.input.type = .erc1155SingleWithdrawal)
    (owner : app.naming.member (walletId input.msgSender) = some (laccId holder))
    (receiver : accountAddressOf holder = input.msgSender)
    (feasible : Feasible platform app (input.calls parsed)) :
    Returns (processErc1155SingleWithdrawal platform input holder parsed) app
      fun _ _ => True := by
  unfold Advance.calls at feasible
  rw [type] at feasible
  unfold processErc1155SingleWithdrawal
  rw [receiver]
  obtain ⟨⟨assetId, known⟩, -⟩ := feasible.named
  apply ((returns_retrieveToken sound rfl known).carried
    (carries_retrieveId sound _ (.inr rfl) _ _)).bind
  rintro asset now ⟨-, found, named, members, -⟩
  exact returns_withdraw_send found.sound named ((congrFun members _).trans owner)
    (feasible.idle found) (writes_erc1155SingleVoucher standard input.appContract _ rfl
      platform.erc1155SinglePayload) _ _ _

/-- The loop of `process_erc1155_batch_withdrawal_and_send_voucher`. -/
theorem returns_withdrawPairs (contract : Address) (list : List (TokenId × Amount))
    (sound : app.Sound platform.config)
    (owner : app.naming.member (walletId address) = some accountId) (before : AssetId)
    {assetType : Option AssetType} (identified : Identified assetType)
    (feasible : Feasible platform app ((list.map fun pair =>
      .withdraw (.ofId contract pair.1) (walletId address) pair.2.toNat) ++ rest)) :
    Returns (withdrawPairs platform contract accountId before assetType list) app fun _ now =>
      now.Sound platform.config ∧ now.naming.member (walletId address) = some accountId ∧
        Feasible platform now rest := by
  induction list generalizing app before assetType with
  | nil => exact .pure ⟨sound, owner, feasible⟩
  | cons pair others ih =>
    rw [List.map_cons, List.cons_append] at feasible
    obtain ⟨⟨assetId, known⟩, -⟩ := feasible.named
    have requested : AssetArgs.requestedKey
        ⟨some before, some contract, some pair.1, none, assetType⟩ =
          some (addressIdKey contract pair.1) := by
      rcases identified with rfl | rfl <;> rfl
    apply ((returns_retrieveToken sound requested known).carried
      (carries_retrieveId sound before identified contract pair.1)).bind
    rintro asset now ⟨-, found, named, members, stays⟩
    have owned := (congrFun members (walletId address)).trans owner
    have here := feasible.idle found
    obtain ⟨positive, enough⟩ := here.holds
    apply ((returns_withdraw found.sound named owned positive enough).carried
      (carries_withdraw found.sound named owned pair.2)).bind
    rintro _ middle ⟨-, paid, same⟩
    have kept : middle.naming.asset (.ofId contract pair.1) = some (lassId asset) := same ▸ named
    have holder : middle.naming.member (walletId address) = some accountId := same ▸ owned
    apply ((returns_checkAndRemoveAsset paid.sound kept).carried
      (carries_checkAndRemoveAsset paid.sound _)).bind
    rintro _ last ⟨-, removed, left⟩
    exact ih removed.sound ((congrFun left (walletId address)).trans holder) (lassId asset) stays
      ((here.next paid).idle removed)

/-- Lists of a size that fits are lists of a voucher request. -/
theorem sizedElements_run (memory : Parser.Memory) (list : Parser.U256List)
    (fits : 32 * list.length.toNat < 2 ^ 63) :
    ∃ sized, sizedElements memory list = some sized ∧ sized.items = elements memory list ∧
      sized.length = list.length := by
  have count : (elements memory list).length = list.length.toNat := by simp [elements]
  have short : 32 * (elements memory list).length < 2 ^ 63 := count ▸ fits
  have given : sizedElements memory list = some ⟨elements memory list, short⟩ := dif_pos short
  exact ⟨_, given, sizedElements_eq given⟩

/-- The voucher of some ids fits into the buffer that is allocated for it. -/
theorem writes_batch (standard : platform.libcmt.Standard)
    (appContract receiver contract : Address) {tokenIds amounts : Parser.SizedList Bytes32 32}
    (aligned : tokenIds.items.length = amounts.items.length) (some : 0 < tokenIds.items.length)
    (fits : 260 + 64 * tokenIds.items.length < 2 ^ 64)
    (buffer : Buffer (Parser.erc1155BatchVoucherPayloadMinSize +
      2 * tokenIds.length * Parser.u256Length)) :
    Writes platform.libcmt .erc1155Batch (.some appContract)
      { voucherRequest with
        receiver := receiver, erc1155Batch := ⟨contract, tokenIds, amounts, noElements⟩ }
      buffer.payload
      (erc1155BatchVoucher appContract receiver contract tokenIds.items amounts.items) := by
  refine writes_erc1155BatchVoucher standard appContract { voucherRequest with
    receiver := receiver, erc1155Batch := ⟨contract, tokenIds, amounts, noElements⟩ } rfl aligned
    buffer ?_
  rw [toNat_batchBuffer buffer, Nat.mod_eq_of_lt fits]
  have bare : Abi.paddedLength 0 = 0 := rfl
  simp only [Parser.VoucherData.testedSize, noElements, List.length_nil, bare]
  omega

/-- `process_erc1155_batch_withdrawal_and_send_voucher`, with memory for the voucher. -/
theorem returns_processErc1155BatchWithdrawal (standard : platform.libcmt.Standard)
    (sound : app.Sound platform.config) (type : parsed.1.input.type = .erc1155BatchWithdrawal)
    (owner : app.naming.member (walletId input.msgSender) = some (laccId holder))
    (receiver : accountAddressOf holder = input.msgSender)
    (feasible : Feasible platform app (input.calls parsed))
    (matched : parsed.1.input.erc1155BatchWithdrawal.amounts.length =
      parsed.1.input.erc1155BatchWithdrawal.tokenIds.length)
    (some : 0 < parsed.1.input.erc1155BatchWithdrawal.tokenIds.length.toNat)
    (fits : 260 + 64 * parsed.1.input.erc1155BatchWithdrawal.tokenIds.length.toNat < 2 ^ 64)
    (allocates : (platform.allocate (Parser.erc1155BatchVoucherPayloadMinSize +
      2 * parsed.1.input.erc1155BatchWithdrawal.tokenIds.length * Parser.u256Length)).isSome) :
    Returns (processErc1155BatchWithdrawal platform input holder parsed) app fun _ _ => True := by
  unfold Advance.calls at feasible
  rw [type] at feasible
  unfold processErc1155BatchWithdrawal
  rw [receiver]
  apply ((returns_withdrawPairs _ _ sound owner _ (.inr rfl) feasible).carried
    (carries_withdrawPairs _ _ sound owner _ (.inr rfl))).bind
  rintro _ paid ⟨⟨settled, kept, left⟩, -, -⟩
  apply ((returns_checkAndRemoveAccount settled kept).carried
    (carries_checkAndRemoveAccount settled _)).bind
  rintro _ last ⟨-, removed, -⟩
  have short : 32 * parsed.1.input.erc1155BatchWithdrawal.tokenIds.length.toNat < 2 ^ 63 := by omega
  obtain ⟨tokenIds, listed, idItems, idLength⟩ := sizedElements_run input.memory _ short
  obtain ⟨amounts, valued, amountItems, amountLength⟩ :=
    sizedElements_run input.memory _ (matched.symm ▸ short)
  obtain ⟨buffer, room⟩ := Option.isSome_iff_exists.mp allocates
  apply (Returns.orUndefined listed).bind
  rintro tokenIds _ ⟨rfl, rfl⟩
  apply (Returns.orUndefined valued).bind
  rintro amounts _ ⟨rfl, rfl⟩
  apply (Returns.orRaise room _).bind
  rintro buffer _ ⟨rfl, rfl⟩
  rw [← idItems, ← amountItems] at left
  have count : tokenIds.items.length =
      parsed.1.input.erc1155BatchWithdrawal.tokenIds.length.toNat := by
    rw [← Parser.toNat_listLength tokenIds, idLength]
  have aligned : tokenIds.items.length = amounts.items.length := by
    rw [count, ← Parser.toNat_listLength amounts, amountLength, matched]
  have sized : buffer.payload.length = Parser.erc1155BatchVoucherPayloadMinSize +
      2 * tokenIds.length * Parser.u256Length := by
    rw [buffer.sized, idLength]
  rw [← count] at some fits
  exact (left.idle removed).sends (writes_batch standard input.appContract input.msgSender _
    aligned some fits ⟨buffer.payload, sized, buffer.given⟩) _ _ _

end Handlers

section Accepting

variable {input : Advance} {parsed : Parsed} {type : Parser.InputType} {request : Request}

/-- A request that asks for a withdrawal begins with one from the wallet of its sender. -/
theorem calls_draws
    (draws : ∃ token account amount, Order.withdraw token account amount ∈ input.calls parsed) :
    ∃ token amount rest,
      input.calls parsed = .withdraw token (walletId input.msgSender) amount :: rest := by
  obtain ⟨token, account, amount, member⟩ := draws
  cases type : parsed.1.input.type with
  | etherWithdrawal => exact ⟨_, _, _, by rw [Advance.calls, type]⟩
  | erc20Withdrawal => exact ⟨_, _, _, by rw [Advance.calls, type]⟩
  | erc721Withdrawal => exact ⟨_, _, _, by rw [Advance.calls, type]⟩
  | erc1155SingleWithdrawal => exact ⟨_, _, _, by rw [Advance.calls, type]⟩
  | erc1155BatchWithdrawal =>
    simp only [Advance.calls, type] at member ⊢
    generalize pairs input.memory parsed.1.input.erc1155BatchWithdrawal.tokenIds
      parsed.1.input.erc1155BatchWithdrawal.amounts = list at member ⊢
    cases list with
    | nil => simp at member
    | cons pair rest => exact ⟨_, _, _, rfl⟩
  | _ => simp [Advance.calls, type] at member

/-- The allocator has room for the voucher of the request. -/
def Platform.HasRoom (platform : Platform) : Parser.Arguments → Prop
  | .erc1155BatchWithdrawal _ tokenIds _ _ _ =>
    260 + 64 * tokenIds.length < 2 ^ 64 ∧
      (platform.allocate (BitVec.ofNat 64 (260 + 64 * tokenIds.length))).isSome
  | _ => True

/-- The room for the voucher of a batch, by what was decoded. -/
theorem Platform.HasRoom.decoded {arguments : Parser.Arguments} (room : platform.HasRoom arguments)
    (batch : parsed.1.input.type = .erc1155BatchWithdrawal)
    (decodes : input.Decodes platform arguments.type parsed)
    (asks : input.calls parsed = input.asked arguments) :
    260 + 64 * parsed.1.input.erc1155BatchWithdrawal.tokenIds.length.toNat < 2 ^ 64 ∧
      (platform.allocate (Parser.erc1155BatchVoucherPayloadMinSize +
        2 * parsed.1.input.erc1155BatchWithdrawal.tokenIds.length * Parser.u256Length)).isSome := by
  have type := decodes.typed.symm.trans batch
  cases arguments with
  | erc1155BatchWithdrawal token tokenIds amounts paired exec =>
    have count : parsed.1.input.erc1155BatchWithdrawal.tokenIds.length.toNat =
        tokenIds.length := by
      have lengths := congrArg List.length asks
      rw [Advance.calls, batch] at lengths
      simpa [Advance.asked, pairs, paired] using lengths
    have least : Parser.erc1155BatchVoucherPayloadMinSize.toNat = 260 := rfl
    have word : Parser.u256Length.toNat = 32 := rfl
    have two : (2 : BitVec 64).toNat = 2 := rfl
    have size : Parser.erc1155BatchVoucherPayloadMinSize +
        2 * parsed.1.input.erc1155BatchWithdrawal.tokenIds.length * Parser.u256Length =
          BitVec.ofNat 64 (260 + 64 * tokenIds.length) := by
      apply BitVec.eq_of_toNat_eq
      rw [BitVec.toNat_add, BitVec.toNat_mul, BitVec.toNat_mul, least, word, two, count,
        BitVec.toNat_ofNat]
      omega
    rw [size, count]
    exact room
  | _ => contradiction

/-- `process_advance` returns when it is asked for a withdrawal that is feasible. -/
theorem returns_processAdvance (standard : platform.libcmt.Standard)
    (sound : app.Sound platform.config) {arguments : Parser.Arguments}
    (decodes : input.Decodes platform arguments.type parsed)
    (asks : input.calls parsed = input.asked arguments)
    (draws : ∃ token account amount, Order.withdraw token account amount ∈ input.asked arguments)
    (feasible : Feasible platform app (input.asked arguments))
    (room : platform.HasRoom arguments) :
    Returns (processAdvance platform input) app fun _ _ => True := by
  have fits (batch : parsed.1.input.type = .erc1155BatchWithdrawal) :=
    room.decoded batch decodes asks
  rw [← asks] at draws feasible
  obtain ⟨token, amount, rest, first⟩ := calls_draws draws
  obtain ⟨-, accountId, owner⟩ := (first ▸ feasible).named
  have decoded : Returns (decodeCall platform input) app fun result now =>
      result = parsed ∧ now = app := by
    rw [decodeCall, decodes.run]
    exact .pure ⟨rfl, rfl⟩
  unfold processAdvance
  apply decoded.bind
  rintro parsed _ ⟨rfl, rfl⟩
  apply ((returns_retrieveWallet sound owner).carried (carries_retrieveWallet sound _)).bind
  rintro holder now ⟨-, found, named, -, receiver⟩
  have here := feasible.idle found
  cases type : parsed.1.input.type with
  | etherWithdrawal =>
    exact returns_processEtherWithdrawal found.sound type named receiver here
  | erc20Withdrawal =>
    exact returns_processErc20Withdrawal standard found.sound type named receiver here
  | erc721Withdrawal =>
    exact returns_processErc721Withdrawal standard found.sound type named receiver here
  | erc1155SingleWithdrawal =>
    exact returns_processErc1155SingleWithdrawal standard found.sound type named receiver here
  | erc1155BatchWithdrawal =>
    obtain ⟨small, allocated⟩ := fits type
    have some : 0 < parsed.1.input.erc1155BatchWithdrawal.tokenIds.length.toNat := by
      by_contra none
      have empty := Nat.eq_zero_of_not_pos none
      simp [Advance.calls, type, pairs, empty] at first
    exact returns_processErc1155BatchWithdrawal standard found.sound type named receiver here
      (decodes.lists (decodes.typed.symm.trans type)) some small allocated
  | _ => simp [Advance.calls, type] at draws

/-- A user's request is given to `process_advance`. -/
theorem chooseAdvance_user (platform : Platform) (person : portalType input.msgSender = none) :
    chooseAdvance platform input = processAdvance platform input := by
  unfold portalType at person
  split_ifs at person with ether erc20 erc721 single batch
  rw [chooseAdvance, if_neg ether, if_neg erc20, if_neg erc721, if_neg single, if_neg batch]

/-- A request whose handler returns is accepted. -/
theorem serve_returns
    (returns : Returns (chooseAdvance platform request.input) app fun _ _ => True) :
    ∃ after, serve platform app request = some (after, true) := by
  obtain ⟨_, after, run, -⟩ := returns
  exact ⟨after, by simp [serve, advanceState, catchFailure, run]⟩

/-- What is held is in the reserve. -/
theorem App.Sound.holding_le (sound : app.Sound platform.config) (token : Token)
    (account : Bytes32) : app.custody.holding token account ≤ app.custody.reserve token := by
  change app.naming.amount app.ledger.book token account ≤ app.naming.reserve app.ledger.book token
  unfold Naming.amount Naming.reserve
  cases app.naming.asset token with
  | none => exact Nat.le_refl 0
  | some assetId =>
    cases app.naming.member account with
    | none => exact Nat.zero_le _
    | some accountId => exact sound.covered.holding_le assetId accountId

/-- Orders that begin with withdrawals draw on the wallet of the sender. -/
theorem asked_draws {arguments : Parser.Arguments}
    (draws : ∃ token account amount, Order.withdraw token account amount ∈ input.asked arguments) :
    arguments.type.IsCall ∧ portalOf arguments.type = none ∧
      ∀ order ∈ input.asked arguments, order.Draws (walletId input.msgSender) := by
  cases arguments with
  | etherWithdrawal => exact ⟨trivial, rfl, by simp [Advance.asked, Order.Draws]⟩
  | erc20Withdrawal => exact ⟨trivial, rfl, by simp [Advance.asked, Order.Draws]⟩
  | erc721Withdrawal => exact ⟨trivial, rfl, by simp [Advance.asked, Order.Draws]⟩
  | erc1155SingleWithdrawal => exact ⟨trivial, rfl, by simp [Advance.asked, Order.Draws]⟩
  | erc1155BatchWithdrawal =>
    refine ⟨trivial, rfl, ?_⟩
    rw [Advance.asked, List.forall_mem_append, List.forall_mem_map, List.forall_mem_singleton]
    exact ⟨fun _ _ => rfl, trivial⟩
  | _ => simp [Advance.asked] at draws

/-- A canonical withdrawal is accepted exactly when it can be performed. -/
theorem serve_withdraws_iff (standard : platform.libcmt.Standard)
    (selects : platform.libcmt.toLibcmt.Selects) (sound : app.Sound platform.config)
    {arguments : Parser.Arguments} (canonical : request.input.Canonical arguments)
    (draws : ∃ token account amount,
      Order.withdraw token account amount ∈ request.input.asked arguments)
    (positive : ∀ token account amount,
      Order.withdraw token account amount ∈ request.input.asked arguments → 0 < amount)
    (takes : ∀ voucher ∈ (request.input.asked arguments).flatMap Order.sent,
      0 ≤ platform.emitVoucher app.vouchers voucher)
    (room : platform.HasRoom arguments) :
    (∃ after, serve platform app request = some (after, true)) ↔
      ∃ custody, Performs app.custody (request.input.asked arguments) custody := by
  obtain ⟨call, person, -⟩ := asked_draws draws
  constructor
  · rintro ⟨after, served⟩
    obtain ⟨-, done, settled, performs⟩ := serve_settled standard sound served
    rw [show done = _ from settled, orders_canonical standard selects canonical] at performs
    exact ⟨after.custody, performs⟩
  · intro affords
    obtain ⟨parsed, decodes, asks⟩ := decodes_canonical standard selects canonical call
    apply serve_returns
    rw [chooseAdvance_user platform (canonical.origin.trans person)]
    exact returns_processAdvance standard sound decodes asks draws ⟨affords, positive, takes⟩ room

end Accepting

end Libcma.Wallet

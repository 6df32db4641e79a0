import Libcma.Wallet.Vouchers

/-!
# What the requests ask for

A portal's request asks for deposits, another's for withdrawals with a voucher or for transfers:
`Advance.orders` reads them off the decoded input, without the ledger. Each handler carries out the
orders of its request, or throws when some of them are performed.
-/

namespace Libcma.Wallet

open Exec

/-- What a handler goes on with after decoding. -/
abbrev Parsed : Type := Parser.Session × Parser.Members

/-- The input that a handler goes on with, when it goes on. -/
def accepted (refused : Int → Prop) [DecidablePred refused] :
    Outcome CmaException Parsed Unit → Option Parsed
  | .ok _ parsed => some parsed
  | .throw error parsed => if refused error.code then none else some parsed
  | .undefined => none

/-- The portal types, by the sender of a request. -/
def portalType (sender : Address) : Option Parser.InputType :=
  if sender = etherPortalAddress then some .etherDeposit
  else if sender = erc20PortalAddress then some .erc20Deposit
  else if sender = erc721PortalAddress then some .erc721Deposit
  else if sender = erc1155SinglePortalAddress then some .erc1155SingleDeposit
  else if sender = erc1155BatchPortalAddress then some .erc1155BatchDeposit
  else none

/-- What a portal's request asks for. -/
def Advance.deposits (input : Advance) (parsed : Parsed) : Parser.InputType → List Order
  | .etherDeposit =>
    let fields := parsed.2.etherDeposit
    [.deposit .ether (walletId fields.sender) fields.amount.toNat]
  | .erc20Deposit =>
    let fields := parsed.2.erc20Deposit
    [.deposit (.ofAddress fields.token) (walletId fields.sender) fields.amount.toNat]
  | .erc721Deposit =>
    let fields := parsed.2.erc721Deposit
    [.deposit (.ofId fields.token fields.tokenId) (walletId fields.sender) 1]
  | .erc1155SingleDeposit =>
    let fields := parsed.2.erc1155SingleDeposit
    [.deposit (.ofId fields.token fields.tokenId) (walletId fields.sender) fields.amount.toNat]
  | .erc1155BatchDeposit =>
    let fields := parsed.1.input.erc1155BatchDeposit
    (pairs input.memory fields.tokenIds fields.amounts).map fun pair =>
      .deposit (.ofId fields.token pair.1) (walletId fields.sender) pair.2.toNat
  | _ => []

/-- What a user's request asks for. -/
def Advance.calls (input : Advance) (parsed : Parsed) : List Order :=
  let sender := walletId input.msgSender
  match parsed.1.input.type with
  | .etherWithdrawal =>
    let fields := parsed.2.etherWithdrawal
    [.withdraw .ether sender fields.amount.toNat,
      .send (etherVoucher input.msgSender fields.amount)]
  | .erc20Withdrawal =>
    let fields := parsed.2.erc20Withdrawal
    [.withdraw (.ofAddress fields.token) sender fields.amount.toNat,
      .send (erc20Voucher input.msgSender fields.token fields.amount)]
  | .erc721Withdrawal =>
    let fields := parsed.2.erc721Withdrawal
    [.withdraw (.ofId fields.token fields.tokenId) sender 1,
      .send (erc721Voucher input.appContract input.msgSender fields.token fields.tokenId)]
  | .erc1155SingleWithdrawal =>
    let fields := parsed.2.erc1155SingleWithdrawal
    [.withdraw (.ofId fields.token fields.tokenId) sender fields.amount.toNat,
      .send (erc1155SingleVoucher input.appContract input.msgSender fields.token fields.tokenId
        fields.amount)]
  | .erc1155BatchWithdrawal =>
    let fields := parsed.1.input.erc1155BatchWithdrawal
    (pairs input.memory fields.tokenIds fields.amounts).map (fun pair =>
      .withdraw (.ofId fields.token pair.1) sender pair.2.toNat) ++
    [.send (erc1155BatchVoucher input.appContract input.msgSender fields.token
      (elements input.memory fields.tokenIds) (elements input.memory fields.amounts))]
  | .etherTransfer =>
    let fields := parsed.2.etherTransfer
    [.transfer .ether sender fields.receiver fields.amount.toNat]
  | .erc20Transfer =>
    let fields := parsed.2.erc20Transfer
    [.transfer (.ofAddress fields.token) sender fields.receiver fields.amount.toNat]
  | .erc721Transfer =>
    let fields := parsed.2.erc721Transfer
    [.transfer (.ofId fields.token fields.tokenId) sender fields.receiver 1]
  | .erc1155SingleTransfer =>
    let fields := parsed.2.erc1155SingleTransfer
    [.transfer (.ofId fields.token fields.tokenId) sender fields.receiver fields.amount.toNat]
  | .erc1155BatchTransfer =>
    let fields := parsed.1.input.erc1155BatchTransfer
    (pairs input.memory fields.tokenIds fields.amounts).map fun pair =>
      .transfer (.ofId fields.token pair.1) sender fields.receiver pair.2.toNat
  | _ => []

section

variable (platform : Platform)

/-- The deposit that a handler goes on with. -/
def decodedDeposit (type : Parser.InputType) (input : Advance) : Option Parsed :=
  accepted (· < 0) ((Parser.decodeAdvance platform.libcmt.toLibcmt input.memory type
    input.payload).run platform.uninitialised.parserInput)

/-- The user's request that a handler goes on with. -/
def decodedCall (input : Advance) : Option Parsed :=
  accepted (· ≠ success) ((Parser.decodeAdvance platform.libcmt.toLibcmt input.memory .auto
    input.payload).run platform.uninitialised.parserInput)

/-- What a request asks for; a request that cannot be decoded asks for nothing. -/
def Advance.orders (input : Advance) : List Order :=
  match portalType input.msgSender with
  | some type => (decodedDeposit platform type input).elim [] (input.deposits · type)
  | none => (decodedCall platform input).elim [] input.calls

end

variable {platform : Platform} {app : App} {input : Advance} {context : String}

section Asking

variable {parsed : Parsed} {order : Order}

/-- An order takes from an account at most, and loses nothing. -/
def Owned (account : Bytes32) (order : Order) : Prop :=
  (∀ payer, order.payer = some payer → payer = account) ∧ order.loss = 0

/-- A withdrawal from an account. -/
theorem owned_withdraw (token : Token) (account : Bytes32) (amount : ℕ) :
    Owned account (.withdraw token account amount) :=
  ⟨fun _ paid => (Option.some.inj paid).symm, rfl⟩

/-- A transfer from an account. -/
theorem owned_transfer (token : Token) (account target : Bytes32) (amount : ℕ) :
    Owned account (.transfer token account target amount) :=
  ⟨fun _ paid => (Option.some.inj paid).symm, rfl⟩

/-- Sending takes from nobody. -/
theorem owned_send (account : Bytes32) (voucher : Emitted) : Owned account (.send voucher) :=
  ⟨fun _ paid => absurd paid.symm (Option.some_ne_none _), rfl⟩

/-- A portal's request asks for deposits only. -/
theorem deposits_deposit (type : Parser.InputType) (member : order ∈ input.deposits parsed type) :
    ∃ token account amount, order = .deposit token account amount := by
  cases type with
  | etherDeposit => exact ⟨_, _, _, List.mem_singleton.mp member⟩
  | erc20Deposit => exact ⟨_, _, _, List.mem_singleton.mp member⟩
  | erc721Deposit => exact ⟨_, _, _, List.mem_singleton.mp member⟩
  | erc1155SingleDeposit => exact ⟨_, _, _, List.mem_singleton.mp member⟩
  | erc1155BatchDeposit =>
    obtain ⟨pair, -, rfl⟩ := List.mem_map.mp member
    exact ⟨_, _, _, rfl⟩
  | _ => exact absurd member List.not_mem_nil

/-- A user's request takes from the wallet of the sender only. -/
theorem calls_owned : ∀ order ∈ input.calls parsed, Owned (walletId input.msgSender) order := by
  unfold Advance.calls
  cases parsed.1.input.type with
  | erc1155BatchWithdrawal =>
    rw [List.forall_mem_append, List.forall_mem_map, List.forall_mem_singleton]
    exact ⟨fun _ _ => owned_withdraw _ _ _, owned_send _ _⟩
  | erc1155BatchTransfer =>
    rw [List.forall_mem_map]
    exact fun _ _ => owned_transfer _ _ _ _
  | _ => simp only [List.forall_mem_cons, owned_withdraw, owned_send, owned_transfer, true_and,
      List.not_mem_nil, false_imp_iff, implies_true]

/-- A request asks for nothing, or for what a portal or a user asks for. -/
theorem orders_cases (platform : Platform) (input : Advance) :
    input.orders platform = [] ∨
    (∃ type parsed, portalType input.msgSender = some type ∧
      input.orders platform = input.deposits parsed type) ∨
    ∃ parsed, portalType input.msgSender = none ∧ input.orders platform = input.calls parsed := by
  unfold Advance.orders
  cases portalType input.msgSender with
  | some type =>
    cases decoded : decodedDeposit platform type input with
    | none => exact .inl (congrArg (Option.elim · [] (input.deposits · type)) decoded)
    | some parsed =>
      have its := congrArg (Option.elim · [] (input.deposits · type)) decoded
      exact .inr (.inl ⟨type, parsed, rfl, its⟩)
  | none =>
    cases decodedCall platform input with
    | none => exact .inl rfl
    | some parsed => exact .inr (.inr ⟨parsed, rfl, rfl⟩)

/-- A request takes from the wallet of its sender only, and from nobody if a portal sent it. -/
theorem orders_owned (member : order ∈ input.orders platform) :
    Owned (walletId input.msgSender) order ∧
      (portalType input.msgSender = none ∨ order.payer = none) := by
  rcases orders_cases platform input with none | ⟨type, parsed, -, its⟩ | ⟨parsed, person, its⟩
  · rw [none] at member
    contradiction
  · rw [its] at member
    obtain ⟨token, account, amount, rfl⟩ := deposits_deposit type member
    exact ⟨⟨fun payer paid => absurd paid.symm (Option.some_ne_none payer), rfl⟩, .inr rfl⟩
  · rw [its] at member
    exact ⟨calls_owned order member, .inl person⟩

/-- The ether that vouchers send. -/
def etherSent (vouchers : List Emitted) : ℕ :=
  (vouchers.map fun voucher => voucher.value.toNat).sum

/-- Vouchers and then more vouchers. -/
theorem etherSent_append (first second : List Emitted) :
    etherSent (first ++ second) = etherSent first + etherSent second := by
  unfold etherSent
  rw [List.map_append, List.sum_append]

/-- An order that neither sends ether nor takes any out. -/
def Etherless (order : Order) : Prop := etherSent order.sent = 0 ∧ order.outflow .ether = 0

/-- A withdrawal of another token. -/
theorem etherless_withdraw (key : AssetKey) (account : Bytes32) (amount : ℕ) :
    Etherless (.withdraw (.key key) account amount) := by
  have apart : Token.ether ≠ .key key := nofun
  have none : (Pi.single (.key key) amount : Token → ℕ) .ether = 0 :=
    Pi.single_eq_of_ne apart amount
  exact ⟨rfl, none⟩

/-- The call of a contract. -/
theorem etherless_call (token : Address) (funsel : UInt32) (args : List Abi.Arg) :
    Etherless (.send (callVoucher token funsel args)) := by
  have nothing : (zeros 32).toNat = 0 := toNat_zeros 32
  have sent : (zeros 32).toNat + 0 = 0 := by omega
  exact ⟨sent, rfl⟩

/-- Orders that have nothing to do with ether. -/
theorem etherSent_etherless {orders : List Order} (aside : ∀ order ∈ orders, Etherless order) :
    etherSent (orders.flatMap Custody.Order.sent) =
      (orders.map fun order => order.outflow .ether).sum := by
  induction orders with
  | nil => rfl
  | cons order rest ih =>
    obtain ⟨here, others⟩ := List.forall_mem_cons.mp aside
    rw [List.flatMap_cons, etherSent_append, List.map_cons, List.sum_cons, ih others, here.1,
      here.2]

/-- The vouchers of a user's request send the ether that is withdrawn. -/
theorem calls_ether : etherSent ((input.calls parsed).flatMap Custody.Order.sent) =
    ((input.calls parsed).map fun order => order.outflow .ether).sum := by
  unfold Advance.calls
  cases parsed.1.input.type with
  | etherWithdrawal =>
    simp [etherSent, etherVoucher, Custody.Order.sent, Custody.Order.outflow]
  | erc1155BatchWithdrawal =>
    apply etherSent_etherless
    rw [List.forall_mem_append, List.forall_mem_map, List.forall_mem_singleton]
    exact ⟨fun _ _ => etherless_withdraw _ _ _, etherless_call _ _ _⟩
  | erc1155BatchTransfer =>
    apply etherSent_etherless
    rw [List.forall_mem_map]
    exact fun _ _ => ⟨rfl, rfl⟩
  | erc20Withdrawal =>
    apply etherSent_etherless
    rw [List.forall_mem_cons, List.forall_mem_singleton]
    exact ⟨etherless_withdraw _ _ _, etherless_call _ _ _⟩
  | erc721Withdrawal =>
    apply etherSent_etherless
    rw [List.forall_mem_cons, List.forall_mem_singleton]
    exact ⟨etherless_withdraw _ _ _, etherless_call _ _ _⟩
  | erc1155SingleWithdrawal =>
    apply etherSent_etherless
    rw [List.forall_mem_cons, List.forall_mem_singleton]
    exact ⟨etherless_withdraw _ _ _, etherless_call _ _ _⟩
  | _ => rfl

/-- The vouchers of a request send the ether that is withdrawn. -/
theorem orders_ether (platform : Platform) (input : Advance) :
    etherSent ((input.orders platform).flatMap Custody.Order.sent) =
      ((input.orders platform).map fun order => order.outflow .ether).sum := by
  rcases orders_cases platform input with none | ⟨type, parsed, -, its⟩ | ⟨parsed, -, its⟩
  · rw [none]
    rfl
  · rw [its]
    apply etherSent_etherless
    intro order member
    obtain ⟨token, account, amount, rfl⟩ := deposits_deposit type member
    exact ⟨rfl, rfl⟩
  · rw [its]
    exact calls_ether

end Asking

section Decoding

variable {type : Parser.InputType}

/-- Decoding a deposit does nothing. -/
theorem carries_decodeDeposit (sound : app.Sound platform.config) :
    Carries (custodian platform.config) [] (decodeDeposit platform type input context) app
      fun parsed now => decodedDeposit platform type input = some parsed ∧ now = app := by
  unfold decodeDeposit decodedDeposit
  generalize (Parser.decodeAdvance platform.libcmt.toLibcmt input.memory type input.payload).run _ =
    outcome
  cases outcome with
  | ok value parsed => exact .pure sound ⟨rfl, rfl⟩
  | throw error parsed =>
    refine (Carries.refuseIf sound _ _).silent fun _ now still passed => ?_
    exact .pure still ⟨if_neg passed.1, passed.2⟩
  | undefined => trivial

/-- Decoding a user's request does nothing. -/
theorem carries_decodeCall (sound : app.Sound platform.config) :
    Carries (custodian platform.config) [] (decodeCall platform input) app
      fun parsed now => decodedCall platform input = some parsed ∧ now = app := by
  unfold decodeCall decodedCall
  generalize (Parser.decodeAdvance platform.libcmt.toLibcmt input.memory .auto
    input.payload).run _ = outcome
  cases outcome with
  | ok value parsed => exact .pure sound ⟨rfl, rfl⟩
  | throw error parsed =>
    refine (Carries.refuseIf sound _ _).silent fun _ now still passed => ?_
    exact .pure still ⟨if_neg passed.1, passed.2⟩
  | undefined => trivial

end Decoding

section Deposits

/-- `process_ether_deposit`. -/
theorem carries_processEtherDeposit (sound : app.Sound platform.config) :
    Carries (custodian platform.config)
      ((decodedDeposit platform .etherDeposit input).elim [] (input.deposits · .etherDeposit))
      (processEtherDeposit platform input) app fun _ _ => True := by
  unfold processEtherDeposit
  refine (carries_decodeDeposit sound).silent fun parsed now still decoded => ?_
  rw [decoded.1]
  refine (carries_retrieveWallet still _).silent fun account held owned named => ?_
  refine (Carries.read owned).silent fun reached last kept same => ?_
  rw [same.1, same.2]
  exact (carries_deposit owned rfl named.1 _).mono fun _ _ _ _ => trivial

/-- `process_erc20_deposit`. -/
theorem carries_processErc20Deposit (sound : app.Sound platform.config) :
    Carries (custodian platform.config)
      ((decodedDeposit platform .erc20Deposit input).elim [] (input.deposits · .erc20Deposit))
      (processErc20Deposit platform input) app fun _ _ => True := by
  unfold processErc20Deposit
  refine (carries_decodeDeposit sound).silent fun parsed now still decoded => ?_
  rw [decoded.1]
  refine (carries_retrieveErc20 still _ _).silent fun asset held found token => ?_
  refine (carries_retrieveWallet found _).silent fun account last owned named => ?_
  have kept := (congrFun named.2.1 (Token.ofAddress _)).trans token.1
  exact (carries_deposit owned kept named.1 _).mono fun _ _ _ _ => trivial

/-- `process_erc721_deposit`. -/
theorem carries_processErc721Deposit (sound : app.Sound platform.config) :
    Carries (custodian platform.config)
      ((decodedDeposit platform .erc721Deposit input).elim [] (input.deposits · .erc721Deposit))
      (processErc721Deposit platform input) app fun _ _ => True := by
  unfold processErc721Deposit
  refine (carries_decodeDeposit sound).silent fun parsed now still decoded => ?_
  rw [decoded.1]
  refine (carries_retrieveId still _ (.inl rfl) _ _).silent fun asset held found token => ?_
  refine (carries_retrieveWallet found _).silent fun account last owned named => ?_
  have kept := (congrFun named.2.1 (Token.ofId _ _)).trans token.1
  exact (carries_deposit owned kept named.1 oneAmount).mono fun _ _ _ _ => trivial

/-- `process_erc1155_single_deposit`. -/
theorem carries_processErc1155SingleDeposit (sound : app.Sound platform.config) :
    Carries (custodian platform.config)
      ((decodedDeposit platform .erc1155SingleDeposit input).elim []
        (input.deposits · .erc1155SingleDeposit))
      (processErc1155SingleDeposit platform input) app fun _ _ => True := by
  unfold processErc1155SingleDeposit
  refine (carries_decodeDeposit sound).silent fun parsed now still decoded => ?_
  rw [decoded.1]
  refine (carries_retrieveId still _ (.inr rfl) _ _).silent fun asset held found token => ?_
  refine (carries_retrieveWallet found _).silent fun account last owned named => ?_
  have kept := (congrFun named.2.1 (Token.ofId _ _)).trans token.1
  exact (carries_deposit owned kept named.1 _).mono fun _ _ _ _ => trivial

/-- The loop of `process_erc1155_batch_deposit`. -/
theorem carries_depositPairs (token : Address) {account : Bytes32} {accountId : AccountId}
    (list : List (TokenId × Amount)) (sound : app.Sound platform.config)
    (owner : app.naming.member account = some accountId) (before : AssetId)
    {assetType : Option AssetType} (identified : Identified assetType) :
    Carries (custodian platform.config)
      (list.map fun pair => .deposit (.ofId token pair.1) account pair.2.toNat)
      (depositPairs platform token accountId before assetType list) app fun _ _ => True := by
  induction list generalizing app before assetType with
  | nil => exact .pure sound trivial
  | cons pair rest ih =>
    refine (carries_retrieveId sound _ identified token pair.1).silent
      fun asset now found named => ?_
    have owned := (congrFun named.2.1 account).trans owner
    refine (carries_deposit found named.1 owned pair.2).bind rfl fun _ later still same => ?_
    exact ih still (same ▸ owned) (lassId asset) named.2.2

/-- `process_erc1155_batch_deposit`. -/
theorem carries_processErc1155BatchDeposit (sound : app.Sound platform.config) :
    Carries (custodian platform.config)
      ((decodedDeposit platform .erc1155BatchDeposit input).elim []
        (input.deposits · .erc1155BatchDeposit))
      (processErc1155BatchDeposit platform input) app fun _ _ => True := by
  unfold processErc1155BatchDeposit
  refine (carries_decodeDeposit sound).silent fun parsed now still decoded => ?_
  rw [decoded.1]
  refine (carries_retrieveWallet still _).silent fun account held owned named => ?_
  exact carries_depositPairs _ _ owned named.1 _ (.inr rfl)

end Deposits

section Withdrawals

variable {account : AccountArgs} {parsed : Parsed}

/-- `process_ether_withdrawal_and_send_voucher`. -/
theorem carries_processEtherWithdrawal (sound : app.Sound platform.config)
    (type : parsed.1.input.type = .etherWithdrawal)
    (owner : app.naming.member (walletId input.msgSender) = some (laccId account))
    (receiver : accountAddressOf account = input.msgSender) :
    Carries (custodian platform.config) (input.calls parsed)
      (processEtherWithdrawal platform input account parsed) app fun _ _ => True := by
  unfold processEtherWithdrawal Advance.calls
  rw [type, receiver]
  refine (Carries.read sound).silent fun reached now still same => ?_
  rw [same.1, same.2]
  refine (carries_withdraw sound rfl owner _).bind rfl fun _ paid settled _ => ?_
  refine (carries_checkAndRemoveAccount settled _).silent fun _ last final _ => ?_
  exact carries_sendVoucher final (writes_etherVoucher _ _ _).encodes _ _ _

/-- `process_erc20_withdrawal_and_send_voucher`. -/
theorem carries_processErc20Withdrawal (standard : platform.libcmt.Standard)
    (sound : app.Sound platform.config) (type : parsed.1.input.type = .erc20Withdrawal)
    (owner : app.naming.member (walletId input.msgSender) = some (laccId account))
    (receiver : accountAddressOf account = input.msgSender) :
    Carries (custodian platform.config) (input.calls parsed)
      (processErc20Withdrawal platform input account parsed) app fun _ _ => True := by
  unfold processErc20Withdrawal Advance.calls
  rw [type, receiver]
  refine (carries_retrieveErc20 sound _ _).silent fun asset now found named => ?_
  have owned := (congrFun named.2 _).trans owner
  refine (carries_withdraw found named.1 owned _).bind rfl fun _ paid settled _ => ?_
  refine (carries_checkAndRemoveAccount settled _).silent fun _ left removed _ => ?_
  refine (carries_checkAndRemoveAsset removed _).silent fun _ last final _ => ?_
  exact carries_sendVoucher final
    (writes_erc20Voucher standard _ platform.erc20Payload).encodes _ _ _

/-- `process_erc721_withdrawal_and_send_voucher`. -/
theorem carries_processErc721Withdrawal (standard : platform.libcmt.Standard)
    (sound : app.Sound platform.config) (type : parsed.1.input.type = .erc721Withdrawal)
    (owner : app.naming.member (walletId input.msgSender) = some (laccId account))
    (receiver : accountAddressOf account = input.msgSender) :
    Carries (custodian platform.config) (input.calls parsed)
      (processErc721Withdrawal platform input account parsed) app fun _ _ => True := by
  unfold processErc721Withdrawal Advance.calls
  rw [type, receiver]
  refine (carries_retrieveId sound _ (.inl rfl) _ _).silent fun asset now found named => ?_
  have owned := (congrFun named.2.1 _).trans owner
  refine (carries_withdraw found named.1 owned oneAmount).bind rfl fun _ paid settled _ => ?_
  refine (carries_checkAndRemoveAccount settled _).silent fun _ left removed _ => ?_
  refine (carries_checkAndRemoveAsset removed _).silent fun _ last final _ => ?_
  exact carries_sendVoucher final
    (writes_erc721Voucher standard input.appContract _ platform.erc721Payload).encodes _ _ _

/-- `process_erc1155_single_withdrawal_and_send_voucher`. -/
theorem carries_processErc1155SingleWithdrawal (standard : platform.libcmt.Standard)
    (sound : app.Sound platform.config) (type : parsed.1.input.type = .erc1155SingleWithdrawal)
    (owner : app.naming.member (walletId input.msgSender) = some (laccId account))
    (receiver : accountAddressOf account = input.msgSender) :
    Carries (custodian platform.config) (input.calls parsed)
      (processErc1155SingleWithdrawal platform input account parsed) app fun _ _ => True := by
  unfold processErc1155SingleWithdrawal Advance.calls
  rw [type, receiver]
  refine (carries_retrieveId sound _ (.inr rfl) _ _).silent fun asset now found named => ?_
  have owned := (congrFun named.2.1 _).trans owner
  refine (carries_withdraw found named.1 owned _).bind rfl fun _ paid settled _ => ?_
  refine (carries_checkAndRemoveAccount settled _).silent fun _ left removed _ => ?_
  refine (carries_checkAndRemoveAsset removed _).silent fun _ last final _ => ?_
  exact carries_sendVoucher final (writes_erc1155SingleVoucher standard input.appContract _ rfl
    platform.erc1155SinglePayload).encodes _ _ _

/-- The loop of `process_erc1155_batch_withdrawal_and_send_voucher`. -/
theorem carries_withdrawPairs (token : Address) {payer : Bytes32} {accountId : AccountId}
    (list : List (TokenId × Amount)) (sound : app.Sound platform.config)
    (owner : app.naming.member payer = some accountId) (before : AssetId)
    {assetType : Option AssetType} (identified : Identified assetType) :
    Carries (custodian platform.config)
      (list.map fun pair => .withdraw (.ofId token pair.1) payer pair.2.toNat)
      (withdrawPairs platform token accountId before assetType list) app fun _ _ => True := by
  induction list generalizing app before assetType with
  | nil => exact .pure sound trivial
  | cons pair rest ih =>
    refine (carries_retrieveId sound _ identified token pair.1).silent
      fun asset now found named => ?_
    have owned := (congrFun named.2.1 payer).trans owner
    refine (carries_withdraw found named.1 owned pair.2).bind rfl fun _ later still same => ?_
    have kept : later.naming.member payer = some accountId := same ▸ owned
    refine (carries_checkAndRemoveAsset still _).silent fun _ last removed members => ?_
    exact ih removed ((congrFun members payer).trans kept) (lassId asset) named.2.2

/-- The elements of a list of a voucher request are those in memory. -/
theorem sizedElements_eq {memory : Parser.Memory} {list : Parser.U256List}
    {sized : Parser.SizedList Bytes32 32} (given : sizedElements memory list = some sized) :
    sized.items = elements memory list ∧ sized.length = list.length := by
  unfold sizedElements at given
  split at given
  · cases given
    refine ⟨rfl, ?_⟩
    rw [Parser.SizedList.length]
    simp [elements]
  · contradiction

/-- `process_erc1155_batch_withdrawal_and_send_voucher`. -/
theorem carries_processErc1155BatchWithdrawal (standard : platform.libcmt.Standard)
    (sound : app.Sound platform.config) (type : parsed.1.input.type = .erc1155BatchWithdrawal)
    (owner : app.naming.member (walletId input.msgSender) = some (laccId account))
    (receiver : accountAddressOf account = input.msgSender) :
    Carries (custodian platform.config) (input.calls parsed)
      (processErc1155BatchWithdrawal platform input account parsed) app fun _ _ => True := by
  unfold processErc1155BatchWithdrawal Advance.calls
  rw [type, receiver]
  refine (carries_withdrawPairs _ _ sound owner _ (.inr rfl)).bind
    (Custody.silent_map _ _ fun _ => rfl) fun _ paid settled _ => ?_
  refine (carries_checkAndRemoveAccount settled _).silent fun _ left removed _ => ?_
  refine (Carries.orUndefined removed _).silent fun tokenIds first listed ids => ?_
  refine (Carries.orUndefined listed _).silent fun amounts second valued values => ?_
  refine (Carries.orRaise valued _ _).silent fun buffer last final _ => ?_
  obtain ⟨idItems, idLength⟩ := sizedElements_eq ids.1
  obtain ⟨amountItems, -⟩ := sizedElements_eq values.1
  rw [← idItems, ← amountItems]
  exact carries_sendVoucher final (encodes_erc1155BatchVoucher standard input.appContract _ rfl
    ⟨buffer.payload, by rw [buffer.sized, idLength], buffer.given⟩) _ _ _

end Withdrawals

section Transfers

variable {account : AccountArgs} {parsed : Parsed}

/-- `process_ether_transfer`. -/
theorem carries_processEtherTransfer (sound : app.Sound platform.config)
    (type : parsed.1.input.type = .etherTransfer)
    (owner : app.naming.member (walletId input.msgSender) = some (laccId account)) :
    Carries (custodian platform.config) (input.calls parsed)
      (processEtherTransfer platform account parsed) app fun _ _ => True := by
  unfold processEtherTransfer Advance.calls
  rw [type]
  refine (carries_retrieveReceiver sound _ _).silent fun receiver now found named => ?_
  refine (Carries.read found).silent fun reached later still same => ?_
  rw [same.1, same.2]
  refine (carries_transfer found rfl (named.2 _ _ owner) named.1 _).settled rfl
    fun _ _ settled _ => ?_
  exact carries_checkAndRemoveAccount settled _

/-- `process_erc20_transfer`. -/
theorem carries_processErc20Transfer (sound : app.Sound platform.config)
    (type : parsed.1.input.type = .erc20Transfer)
    (owner : app.naming.member (walletId input.msgSender) = some (laccId account)) :
    Carries (custodian platform.config) (input.calls parsed)
      (processErc20Transfer platform account parsed) app fun _ _ => True := by
  unfold processErc20Transfer Advance.calls
  rw [type]
  refine (carries_retrieveReceiver sound _ _).silent fun receiver now found named => ?_
  refine (carries_retrieveErc20 found _ _).silent fun asset later held token => ?_
  have sender := (congrFun token.2 _).trans (named.2 _ _ owner)
  have target := (congrFun token.2 _).trans named.1
  refine (carries_transfer held token.1 sender target _).settled rfl fun _ _ settled _ => ?_
  exact carries_checkAndRemoveAccount settled _

/-- `process_erc721_transfer`. -/
theorem carries_processErc721Transfer (sound : app.Sound platform.config)
    (type : parsed.1.input.type = .erc721Transfer)
    (owner : app.naming.member (walletId input.msgSender) = some (laccId account)) :
    Carries (custodian platform.config) (input.calls parsed)
      (processErc721Transfer platform account parsed) app fun _ _ => True := by
  unfold processErc721Transfer Advance.calls
  rw [type]
  refine (carries_retrieveReceiver sound _ _).silent fun receiver now found named => ?_
  refine (carries_retrieveId found _ (.inl rfl) _ _).silent fun asset later held token => ?_
  have sender := (congrFun token.2.1 _).trans (named.2 _ _ owner)
  have target := (congrFun token.2.1 _).trans named.1
  refine (carries_transfer held token.1 sender target oneAmount).settled rfl fun _ _ settled _ => ?_
  exact carries_checkAndRemoveAccount settled _

/-- `process_erc1155_single_transfer`. -/
theorem carries_processErc1155SingleTransfer (sound : app.Sound platform.config)
    (type : parsed.1.input.type = .erc1155SingleTransfer)
    (owner : app.naming.member (walletId input.msgSender) = some (laccId account)) :
    Carries (custodian platform.config) (input.calls parsed)
      (processErc1155SingleTransfer platform account parsed) app fun _ _ => True := by
  unfold processErc1155SingleTransfer Advance.calls
  rw [type]
  refine (carries_retrieveReceiver sound _ _).silent fun receiver now found named => ?_
  refine (carries_retrieveId found _ (.inr rfl) _ _).silent fun asset later held token => ?_
  have sender := (congrFun token.2.1 _).trans (named.2 _ _ owner)
  have target := (congrFun token.2.1 _).trans named.1
  refine (carries_transfer held token.1 sender target _).settled rfl fun _ _ settled _ => ?_
  exact carries_checkAndRemoveAccount settled _

/-- The loop of `process_erc1155_batch_transfer`. -/
theorem carries_transferPairs (token : Address) {source target : Bytes32}
    {payer payee : AccountId} (list : List (TokenId × Amount))
    (sound : app.Sound platform.config) (sender : app.naming.member source = some payer)
    (receiver : app.naming.member target = some payee) (before : AssetId)
    {assetType : Option AssetType} (identified : Identified assetType) :
    Carries (custodian platform.config)
      (list.map fun pair => .transfer (.ofId token pair.1) source target pair.2.toNat)
      (transferPairs platform token payer payee before assetType list) app fun _ _ => True := by
  induction list generalizing app before assetType with
  | nil => exact .pure sound trivial
  | cons pair rest ih =>
    refine (carries_retrieveId sound _ identified token pair.1).silent
      fun asset now found named => ?_
    have first := (congrFun named.2.1 source).trans sender
    have second := (congrFun named.2.1 target).trans receiver
    refine (carries_transfer found named.1 first second pair.2).bind rfl
      fun _ later still same => ?_
    exact ih still (same ▸ first) (same ▸ second) (lassId asset) named.2.2

/-- `process_erc1155_batch_transfer`. -/
theorem carries_processErc1155BatchTransfer (sound : app.Sound platform.config)
    (type : parsed.1.input.type = .erc1155BatchTransfer)
    (owner : app.naming.member (walletId input.msgSender) = some (laccId account)) :
    Carries (custodian platform.config) (input.calls parsed)
      (processErc1155BatchTransfer platform input account parsed) app fun _ _ => True := by
  unfold processErc1155BatchTransfer Advance.calls
  rw [type]
  refine (carries_retrieveReceiver sound _ _).silent fun receiver now found named => ?_
  refine (carries_transferPairs _ _ found (named.2 _ _ owner) named.1 _ (.inr rfl)).settled
    (Custody.silent_map _ _ fun _ => rfl) fun _ _ settled _ => ?_
  exact carries_checkAndRemoveAccount settled _

end Transfers

/-- `process_advance`. -/
theorem carries_processAdvance (standard : platform.libcmt.Standard)
    (sound : app.Sound platform.config) :
    Carries (custodian platform.config) ((decodedCall platform input).elim [] input.calls)
      (processAdvance platform input) app fun _ _ => True := by
  unfold processAdvance
  refine (carries_decodeCall sound).silent fun parsed now still decoded => ?_
  rw [decoded.1]
  refine (carries_retrieveWallet still _).silent fun account held owned named => ?_
  cases type : parsed.1.input.type with
  | etherWithdrawal => exact carries_processEtherWithdrawal owned type named.1 named.2.2
  | erc20Withdrawal => exact carries_processErc20Withdrawal standard owned type named.1 named.2.2
  | erc721Withdrawal => exact carries_processErc721Withdrawal standard owned type named.1 named.2.2
  | erc1155SingleWithdrawal =>
    exact carries_processErc1155SingleWithdrawal standard owned type named.1 named.2.2
  | erc1155BatchWithdrawal =>
    exact carries_processErc1155BatchWithdrawal standard owned type named.1 named.2.2
  | etherTransfer => exact carries_processEtherTransfer owned type named.1
  | erc20Transfer => exact carries_processErc20Transfer owned type named.1
  | erc721Transfer => exact carries_processErc721Transfer owned type named.1
  | erc1155SingleTransfer => exact carries_processErc1155SingleTransfer owned type named.1
  | erc1155BatchTransfer => exact carries_processErc1155BatchTransfer owned type named.1
  | _ => exact .raise owned _

/-- The handler that is chosen carries out the orders of the request. -/
theorem carries_chooseAdvance (standard : platform.libcmt.Standard)
    (sound : app.Sound platform.config) :
    Carries (custodian platform.config) (input.orders platform) (chooseAdvance platform input) app
      fun _ _ => True := by
  unfold chooseAdvance Advance.orders portalType
  by_cases ether : input.msgSender = etherPortalAddress
  · rw [if_pos ether, if_pos ether]
    exact carries_processEtherDeposit sound
  rw [if_neg ether, if_neg ether]
  by_cases erc20 : input.msgSender = erc20PortalAddress
  · rw [if_pos erc20, if_pos erc20]
    exact carries_processErc20Deposit sound
  rw [if_neg erc20, if_neg erc20]
  by_cases erc721 : input.msgSender = erc721PortalAddress
  · rw [if_pos erc721, if_pos erc721]
    exact carries_processErc721Deposit sound
  rw [if_neg erc721, if_neg erc721]
  by_cases single : input.msgSender = erc1155SinglePortalAddress
  · rw [if_pos single, if_pos single]
    exact carries_processErc1155SingleDeposit sound
  rw [if_neg single, if_neg single]
  by_cases batch : input.msgSender = erc1155BatchPortalAddress
  · rw [if_pos batch, if_pos batch]
    exact carries_processErc1155BatchDeposit sound
  rw [if_neg batch, if_neg batch]
  exact carries_processAdvance standard sound

end Libcma.Wallet

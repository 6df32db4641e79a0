import Libcma.Memory.Balances
import Libcma.Parser.Decode
import Libcma.Parser.VoucherExact

/-!
# The wallet application

`wallet_app/app.cpp`: a rollup application that keeps the tokens which the portals deposit in a
memory ledger, lets their owners transfer them, and sends vouchers for what is withdrawn. Each
handler calls the ledger and the parser through the C interface and throws when a call fails; what
was done before stays done. `advance_state` catches what is thrown and reports it.

The rollup device, the allocator and what uninitialised variables hold are a `Platform`. The lists
of a batch are read from the memory as the loops read them, one amount for each token id.
-/

namespace Libcma

/-- The asset variables of a caller after a call. -/
def Output.assetArgs (output : Output) (args : AssetArgs) : AssetArgs :=
  match output with
  | .asset answer => answer
  | _ => args

/-- The account variables of a caller after a call. -/
def Output.accountArgs (output : Output) (args : AccountArgs) : AccountArgs :=
  match output with
  | .account answer => answer
  | _ => args

end Libcma

namespace Libcma.Wallet

open Exec

/-- A buffer of a size, for the payload of a voucher. -/
structure Buffer (size : BitVec 64) where
  /-- Where it is. -/
  payload : Parser.Payload
  /-- It has the size. -/
  sized : payload.length = size
  /-- It is not at the null pointer. -/
  given : payload.data ≠ 0

/-- A voucher as the rollup device takes it. -/
structure Emitted where
  /-- The address to call. -/
  address : Address
  /-- The ether to send. -/
  value : Bytes32
  /-- The data of the call. -/
  payload : List UInt8
  deriving DecidableEq

/-- A report as the rollup device takes it. -/
inductive Report where
  /-- The bytes of an amount. -/
  | amount (data : Amount)
  /-- `error_report`. -/
  | error (status : Int)
  deriving DecidableEq

/-- What variables hold before they are written. -/
structure Uninitialised where
  /-- `parser_input`. -/
  parserInput : Parser.Session × Parser.Members
  /-- `asset_id`, `lass_id`. -/
  lassId : AssetId
  /-- `lacc_id`, `receiver_lacc_id`. -/
  laccId : AccountId
  /-- `account_id`. -/
  account : Account
  /-- `supply`. -/
  supply : Amount
  /-- `n_balances`. -/
  nBalances : ℕ

/-- What the application runs on. -/
structure Platform where
  /-- libcmt. -/
  libcmt : Parser.LibcmtPut
  /-- The capacity that a vector of a given capacity grows to. -/
  growCapacity : ℕ → ℕ
  /-- What variables hold before they are written. -/
  uninitialised : Uninitialised
  /-- `erc20_payload`. -/
  erc20Payload : Buffer Parser.erc20VoucherPayloadSize
  /-- `erc721_payload`. -/
  erc721Payload : Buffer Parser.erc721VoucherPayloadSize
  /-- `erc1155_single_payload`. -/
  erc1155SinglePayload : Buffer Parser.erc1155SingleVoucherPayloadMinSize
  /-- `new uint8_t[payload_size]`; `none` when it throws. -/
  allocate : (size : BitVec 64) → Option (Buffer size)
  /-- `cmt_rollup_emit_voucher`, after the vouchers emitted before. -/
  emitVoucher : List Emitted → Emitted → Int
  /-- `cmt_rollup_emit_report`, after the reports emitted before. -/
  emitReport : List Report → Report → Int

/-- `MAX_ACCOUNTS`. -/
def maxAccounts : ℕ := 16 * 1024

/-- `MAX_ASSETS`. -/
def maxAssets : ℕ := 8

/-- `ASSETS_PER_ACCOUNT`. -/
def assetsPerAccount : ℕ := 8

/-- `MAX_BALANCES`. -/
def maxBalances : ℕ := assetsPerAccount * maxAccounts

/-- `LEDGER_OFFSET`. -/
def ledgerOffset : ℕ := 0

/-- What `main` creates the ledger with. -/
def Platform.config (platform : Platform) : Config :=
  ⟨maxAccounts, maxAssets, maxBalances, ledgerOffset, platform.growCapacity⟩

/-- The state of the application. -/
structure App where
  /-- `ledger`. -/
  ledger : Memory
  /-- `get_ether_id_storage()`. -/
  etherId : AssetId
  /-- The vouchers emitted. -/
  vouchers : List Emitted
  /-- The reports emitted. -/
  reports : List Report

/-- `EPERM` of the C library. -/
def eperm : Int := 1

/-- What a handler throws. -/
inductive Failure where
  /-- `AppException`. -/
  | app (message : String) (code : Int)
  /-- `std::bad_alloc`. -/
  | allocation
  deriving DecidableEq

/-- The status that is reported of a failure. -/
def Failure.status : Failure → Int
  | .app _ code => -code
  | .allocation => -eperm

/-- A handler: it may change the application, and may throw. -/
abbrev Handler (α : Type) : Type := Exec Failure App α

/-- `cmt_rollup_advance_t`, with the memory that its payload is in. -/
structure Advance where
  /-- `app_contract`. -/
  appContract : Address
  /-- `msg_sender`. -/
  msgSender : Address
  /-- `payload`. -/
  payload : Parser.Payload
  /-- The memory when the request is handled. -/
  memory : Parser.Memory

/-- `ETHER_PORTAL_ADDRESS`. -/
def etherPortalAddress : Address :=
  ⟨[0xa6, 0x32, 0xc5, 0xc0, 0x58, 0x12, 0xc6, 0xa6, 0x14, 0x9b, 0x7a, 0xf5, 0xc5, 0x61, 0x17, 0xd1,
    0xd2, 0x60, 0x38, 0x28], rfl⟩

/-- `ERC20_PORTAL_ADDRESS`. -/
def erc20PortalAddress : Address :=
  ⟨[0xac, 0xa6, 0x58, 0x6a, 0xc, 0xf0, 0x5b, 0xd8, 0x31, 0xf2, 0x50, 0x1e, 0x7b, 0x4a, 0xea, 0x55,
    0xd, 0xa6, 0x56, 0x2d], rfl⟩

/-- `ERC721_PORTAL_ADDRESS`. -/
def erc721PortalAddress : Address :=
  ⟨[0x9e, 0x88, 0x51, 0xda, 0xdb, 0x2b, 0x77, 0x10, 0x39, 0x28, 0x51, 0x88, 0x46, 0xc4, 0x67, 0x8d,
    0x48, 0xb5, 0xe3, 0x71], rfl⟩

/-- `ERC1155_SINGLE_PORTAL_ADDRESS`. -/
def erc1155SinglePortalAddress : Address :=
  ⟨[0x18, 0x55, 0x83, 0x98, 0xdd, 0x1a, 0x8c, 0xe2, 0x9, 0x56, 0x28, 0x7a, 0x4d, 0xa7, 0xb7, 0x6a,
    0xe7, 0xa9, 0x66, 0x62], rfl⟩

/-- `ERC1155_BATCH_PORTAL_ADDRESS`. -/
def erc1155BatchPortalAddress : Address :=
  ⟨[0xe2, 0x46, 0xab, 0xb9, 0x74, 0xb3, 0x7, 0x49, 0xd, 0x9c, 0x69, 0x32, 0xf4, 0x8e, 0xbe, 0x79,
    0xde, 0x72, 0x33, 0x8a], rfl⟩

/-- The 20 bytes of an address, and zeros behind them. -/
def addressBytes (address : Address) : Bytes32 := ⟨address.toList ++ (zeros 12).toList, by simp⟩

/-- The element of a list in memory at an index. -/
def element (memory : Parser.Memory) (list : Parser.U256List) (index : ℕ) : Bytes32 :=
  memory.bytes (list.data + BitVec.ofNat 64 (32 * index)) 32

/-- The elements of a list in memory. -/
def elements (memory : Parser.Memory) (list : Parser.U256List) : List Bytes32 :=
  (List.range list.length.toNat).map (element memory list)

/-- The token ids of a batch, each with the amount at its index. -/
def pairs (memory : Parser.Memory) (tokenIds amounts : Parser.U256List) :
    List (TokenId × Amount) :=
  (List.range tokenIds.length.toNat).map fun index =>
    (element memory tokenIds index, element memory amounts index)

/-- The elements of a list in memory as a list of a voucher request. No object has 2^63 bytes. -/
def sizedElements (memory : Parser.Memory) (list : Parser.U256List) :
    Option (Parser.SizedList Bytes32 32) :=
  if fits : 32 * (elements memory list).length < 2 ^ 63 then some ⟨elements memory list, fits⟩
  else none

/-- A list without elements, of a voucher request. -/
def noElements {α : Type} {elementSize : ℕ} : Parser.SizedList α elementSize :=
  ⟨[], Nat.two_pow_pos 63⟩

/-- `nullptr` as a payload. -/
def noPayload : Parser.Payload := ⟨0, 0, Nat.two_pow_pos 64⟩

/-- `voucher_req = {}`. -/
def voucherRequest : Parser.VoucherData where
  receiver := zeros 20
  ether := ⟨zeros 32⟩
  erc20 := ⟨zeros 20, zeros 32⟩
  erc721 := ⟨zeros 20, zeros 32⟩
  erc1155Single := ⟨zeros 20, zeros 32, zeros 32, noElements⟩
  erc1155Batch := ⟨zeros 20, noElements, noElements, noElements⟩

/-- The address, the value and the payload of a voucher. -/
def emittedOf (draft : Parser.Draft) : Emitted :=
  ⟨draft.voucher.address, draft.voucher.value, draft.memory.contents draft.voucher.payload⟩

/-- The variable `lass_id` after a call. -/
def lassId (args : AssetArgs) : AssetId := args.assetId.getD 0

/-- The variable `lacc_id` after a call. -/
def laccId (args : AccountArgs) : AccountId := args.accountId.getD 0

/-- `account_id->address` after a call. -/
def accountAddressOf (args : AccountArgs) : Address :=
  accountAddress (args.account.elim (zeros 32) Account.accountId)

section

variable (platform : Platform)

/-- Call the ledger, and throw unless it succeeded. -/
def ledgerCall (request : Call) (context : String) : Handler Output := do
  let app ← read
  let (ledger, response) ← orUndefined (app.ledger.call platform.config request)
  update fun app => { app with ledger := ledger }
  refuseIf (response.code ≠ success)
    (.app (context ++ response.error.elim "" CmaException.message) response.code)
  pure response.output

/-- `cma_ledger_retrieve_asset`; the variables after it. -/
def retrieveAsset (args : AssetArgs) (operation : Operation) (context : String) :
    Handler AssetArgs := do
  let output ← ledgerCall platform (.retrieveAsset args operation) context
  pure (output.assetArgs args)

/-- `cma_ledger_retrieve_account`; the variables after it. -/
def retrieveAccount (args : AccountArgs) (operation : Operation) (context : String) :
    Handler AccountArgs := do
  let output ← ledgerCall platform (.retrieveAccount args operation) context
  pure (output.accountArgs args)

/-- `cma_ledger_deposit`. -/
def deposit (lassId : AssetId) (laccId : AccountId) (amount : Amount) (context : String) :
    Handler Unit := do
  let _ ← ledgerCall platform (.deposit lassId laccId amount) context

/-- `cma_ledger_withdraw`. -/
def withdraw (lassId : AssetId) (laccId : AccountId) (amount : Amount) (context : String) :
    Handler Unit := do
  let _ ← ledgerCall platform (.withdraw lassId laccId amount) context

/-- `cma_ledger_transfer`. -/
def transfer (lassId : AssetId) (laccId receiverLaccId : AccountId) (amount : Amount)
    (context : String) : Handler Unit := do
  let _ ← ledgerCall platform (.transfer lassId laccId receiverLaccId amount) context

/-- `cma_parser_decode_advance`, when only a negative code is an error. -/
def decodeDeposit (type : Parser.InputType) (input : Advance) (context : String) :
    Handler (Parser.Session × Parser.Members) :=
  match (Parser.decodeAdvance platform.libcmt.toLibcmt input.memory type input.payload).run
      platform.uninitialised.parserInput with
  | .ok _ parserInput => pure parserInput
  | .throw error parserInput => do
    refuseIf (error.code < 0) (.app (context ++ error.message) error.code)
    pure parserInput
  | .undefined => orUndefined none

/-- `cma_parser_decode_advance`, when every code but success is an error. -/
def decodeCall (input : Advance) : Handler (Parser.Session × Parser.Members) :=
  match (Parser.decodeAdvance platform.libcmt.toLibcmt input.memory .auto input.payload).run
      platform.uninitialised.parserInput with
  | .ok _ parserInput => pure parserInput
  | .throw error parserInput => do
    refuseIf (error.code ≠ success) (.app ("unable to decode input: " ++ error.message) error.code)
    pure parserInput
  | .undefined => orUndefined none

/-- The account of a wallet address. -/
def retrieveWallet (address : Address) : Handler AccountArgs :=
  retrieveAccount platform
    ⟨some platform.uninitialised.laccId, some platform.uninitialised.account,
      some (addressBytes address), none, some .walletAddress⟩
    .findOrCreate "unable to retrieve account: "

/-- The account of a receiver, whose variable `account` may be a null pointer. -/
def retrieveReceiver (receiver : Bytes32) (account : Option Account) : Handler AccountArgs :=
  retrieveAccount platform
    ⟨some platform.uninitialised.laccId, account, some receiver, none, some .accountId⟩
    .findOrCreate "unable to retrieve receiver account: "

/-- The asset of a token; the variables `lass_id` and `asset_type` are those of the caller. -/
def retrieveToken (lassId : AssetId) (assetType : Option AssetType) (token : Address)
    (tokenId : Option TokenId) : Handler AssetArgs :=
  retrieveAsset platform ⟨some lassId, some token, tokenId, none, assetType⟩ .findOrCreate
    "unable to retrieve asset: "

/-- `process_ether_deposit`. -/
def processEtherDeposit (input : Advance) : Handler Unit := do
  let (_, members) ← decodeDeposit platform .etherDeposit input "unable to decode ether deposit: "
  let account ← retrieveWallet platform members.etherDeposit.sender
  deposit platform (← read).etherId (laccId account) members.etherDeposit.amount
    "unable to deposit ether: "

/-- `process_erc20_deposit`. -/
def processErc20Deposit (input : Advance) : Handler Unit := do
  let (_, members) ← decodeDeposit platform .erc20Deposit input "unable to decode erc20 deposit: "
  let asset ← retrieveToken platform platform.uninitialised.lassId (some .tokenAddress)
    members.erc20Deposit.token none
  let account ← retrieveWallet platform members.erc20Deposit.sender
  deposit platform (lassId asset) (laccId account) members.erc20Deposit.amount
    "unable to deposit erc20: "

/-- `process_erc721_deposit`. -/
def processErc721Deposit (input : Advance) : Handler Unit := do
  let (_, members) ←
    decodeDeposit platform .erc721Deposit input "unable to decode erc721 deposit: "
  let asset ← retrieveToken platform platform.uninitialised.lassId (some .tokenAddressId)
    members.erc721Deposit.token (some members.erc721Deposit.tokenId)
  let account ← retrieveWallet platform members.erc721Deposit.sender
  deposit platform (lassId asset) (laccId account) oneAmount "unable to deposit erc721: "

/-- `process_erc1155_single_deposit`. -/
def processErc1155SingleDeposit (input : Advance) : Handler Unit := do
  let (_, members) ←
    decodeDeposit platform .erc1155SingleDeposit input "unable to decode erc1155_single deposit: "
  let asset ← retrieveToken platform platform.uninitialised.lassId (some .tokenAddressIdAmount)
    members.erc1155SingleDeposit.token (some members.erc1155SingleDeposit.tokenId)
  let account ← retrieveWallet platform members.erc1155SingleDeposit.sender
  deposit platform (lassId asset) (laccId account) members.erc1155SingleDeposit.amount
    "unable to deposit erc1155_single: "

/-- The loop of `process_erc1155_batch_deposit`. -/
def depositPairs (token : Address) (laccId : AccountId) (lassIdBefore : AssetId)
    (assetType : Option AssetType) : List (TokenId × Amount) → Handler Unit
  | [] => pure ()
  | (tokenId, amount) :: rest => do
    let asset ← retrieveToken platform lassIdBefore assetType token (some tokenId)
    deposit platform (lassId asset) laccId amount "unable to deposit erc1155_batch: "
    depositPairs token laccId (lassId asset) asset.assetType rest

/-- `process_erc1155_batch_deposit`. -/
def processErc1155BatchDeposit (input : Advance) : Handler Unit := do
  let (session, _) ←
    decodeDeposit platform .erc1155BatchDeposit input "unable to decode erc1155_batch deposit: "
  let fields := session.input.erc1155BatchDeposit
  let account ← retrieveWallet platform fields.sender
  depositPairs platform fields.token (laccId account) platform.uninitialised.lassId
    (some .tokenAddressIdAmount) (pairs input.memory fields.tokenIds fields.amounts)

/-- `check_and_remove_asset`. -/
def checkAndRemoveAsset (lassIdGiven : AssetId) : Handler Unit := do
  if lassIdGiven = (← read).etherId then pure ()
  else
    let asset ← retrieveAsset platform
      ⟨some lassIdGiven, none, none, some platform.uninitialised.supply, some .id⟩ .find
      "unable to retrieve asset: "
    if ¬isZero (asset.outTotalSupply.getD platform.uninitialised.supply) then pure ()
    else
      let _ ← retrieveAsset platform ⟨some (lassId asset), none, none, none, some .id⟩
        .findAndRemove "unable to remove asset: "

/-- `check_and_remove_account`. -/
def checkAndRemoveAccount (laccIdGiven : AccountId) : Handler Unit := do
  let account ← retrieveAccount platform
    ⟨some laccIdGiven, none, none, some platform.uninitialised.nBalances, some .id⟩ .find
    "unable to retrieve account: "
  if account.nBalances.getD platform.uninitialised.nBalances ≠ 0 then pure ()
  else
    let _ ← retrieveAccount platform ⟨some (laccId account), none, none, none, some .id⟩
      .findAndRemove "unable to remove account: "

/-- `cma_parser_encode_voucher`, when only a negative code is an error; what it wrote, its code and
the text of the last error. -/
def encodeVoucher (type : Parser.VoucherType) (appContract : Option Address)
    (request : Parser.VoucherData) (voucher : Parser.Voucher) (memory : Parser.Memory)
    (context : String) : Handler (Parser.Draft × Int × String) :=
  match (Parser.encodeVoucher platform.libcmt type appContract (some request)).run
      ⟨voucher, memory⟩ with
  | .ok _ draft => pure (draft, success, "")
  | .throw error draft => do
    refuseIf (error.code < 0) (.app (context ++ error.message) error.code)
    pure (draft, error.code, error.message)
  | .undefined => orUndefined none

/-- `rollup_emit_voucher`. -/
def rollupEmitVoucher (emitted : Emitted) : Handler Bool := do
  let app ← read
  if platform.emitVoucher app.vouchers emitted < 0 then pure false
  else
    update fun app => { app with vouchers := app.vouchers ++ [emitted] }
    pure true

/-- Encode a voucher with a payload buffer, and emit it. -/
def sendVoucher (type : Parser.VoucherType) (appContract : Option Address)
    (request : Parser.VoucherData) (payload : Parser.Payload) (memory : Parser.Memory)
    (encodeContext emitContext : String) : Handler Unit := do
  let (draft, err, lastError) ← encodeVoucher platform type appContract request
    ⟨zeros 20, zeros 32, payload⟩ memory encodeContext
  let emitted ← rollupEmitVoucher platform (emittedOf draft)
  refuseIf (¬emitted) (.app (emitContext ++ lastError) err)

/-- `process_ether_withdrawal_and_send_voucher`. -/
def processEtherWithdrawal (input : Advance) (account : AccountArgs)
    (parserInput : Parser.Session × Parser.Members) : Handler Unit := do
  let fields := parserInput.2.etherWithdrawal
  withdraw platform (← read).etherId (laccId account) fields.amount "unable to withdraw ether: "
  checkAndRemoveAccount platform (laccId account)
  sendVoucher platform .ether none { voucherRequest with
    receiver := accountAddressOf account, ether := ⟨fields.amount⟩ } noPayload
    input.memory "unable to encode ether voucher: " "unable to emit ether voucher: "

/-- `process_erc20_withdrawal_and_send_voucher`. -/
def processErc20Withdrawal (input : Advance) (account : AccountArgs)
    (parserInput : Parser.Session × Parser.Members) : Handler Unit := do
  let fields := parserInput.2.erc20Withdrawal
  let asset ← retrieveToken platform platform.uninitialised.lassId (some .tokenAddress)
    fields.token none
  withdraw platform (lassId asset) (laccId account) fields.amount "unable to withdraw erc20: "
  checkAndRemoveAccount platform (laccId account)
  checkAndRemoveAsset platform (lassId asset)
  sendVoucher platform .erc20 none { voucherRequest with
    receiver := accountAddressOf account, erc20 := ⟨fields.token, fields.amount⟩ }
    platform.erc20Payload.payload input.memory "unable to encode erc20 voucher: "
    "unable to emit erc20 voucher: "

/-- `process_erc721_withdrawal_and_send_voucher`. -/
def processErc721Withdrawal (input : Advance) (account : AccountArgs)
    (parserInput : Parser.Session × Parser.Members) : Handler Unit := do
  let fields := parserInput.2.erc721Withdrawal
  let asset ← retrieveToken platform platform.uninitialised.lassId (some .tokenAddressId)
    fields.token (some fields.tokenId)
  withdraw platform (lassId asset) (laccId account) oneAmount "unable to withdraw erc721: "
  checkAndRemoveAccount platform (laccId account)
  checkAndRemoveAsset platform (lassId asset)
  sendVoucher platform .erc721 (some input.appContract) { voucherRequest with
    receiver := accountAddressOf account, erc721 := ⟨fields.token, fields.tokenId⟩ }
    platform.erc721Payload.payload input.memory "unable to encode erc721 voucher: "
    "unable to emit erc721 voucher: "

/-- `process_erc1155_single_withdrawal_and_send_voucher`. -/
def processErc1155SingleWithdrawal (input : Advance) (account : AccountArgs)
    (parserInput : Parser.Session × Parser.Members) : Handler Unit := do
  let fields := parserInput.2.erc1155SingleWithdrawal
  let asset ← retrieveToken platform platform.uninitialised.lassId (some .tokenAddressIdAmount)
    fields.token (some fields.tokenId)
  withdraw platform (lassId asset) (laccId account) fields.amount
    "unable to withdraw erc1155_single: "
  checkAndRemoveAccount platform (laccId account)
  checkAndRemoveAsset platform (lassId asset)
  sendVoucher platform .erc1155Single (some input.appContract) { voucherRequest with
    receiver := accountAddressOf account,
    erc1155Single := ⟨fields.token, fields.tokenId, fields.amount, noElements⟩ }
    platform.erc1155SinglePayload.payload input.memory
    "unable to encode erc1155_single voucher: " "unable to emit erc1155_single voucher: "

/-- The loop of `process_erc1155_batch_withdrawal_and_send_voucher`. -/
def withdrawPairs (token : Address) (laccId : AccountId) (lassIdBefore : AssetId)
    (assetType : Option AssetType) : List (TokenId × Amount) → Handler Unit
  | [] => pure ()
  | (tokenId, amount) :: rest => do
    let asset ← retrieveToken platform lassIdBefore assetType token (some tokenId)
    withdraw platform (lassId asset) laccId amount "unable to withdraw erc1155_batch: "
    checkAndRemoveAsset platform (lassId asset)
    withdrawPairs token laccId (lassId asset) asset.assetType rest

/-- `process_erc1155_batch_withdrawal_and_send_voucher`. -/
def processErc1155BatchWithdrawal (input : Advance) (account : AccountArgs)
    (parserInput : Parser.Session × Parser.Members) : Handler Unit := do
  let fields := parserInput.1.input.erc1155BatchWithdrawal
  withdrawPairs platform fields.token (laccId account) platform.uninitialised.lassId
    (some .tokenAddressIdAmount) (pairs input.memory fields.tokenIds fields.amounts)
  checkAndRemoveAccount platform (laccId account)
  let tokenIds ← orUndefined (sizedElements input.memory fields.tokenIds)
  let amounts ← orUndefined (sizedElements input.memory fields.amounts)
  let payload ← orRaise (platform.allocate (Parser.erc1155BatchVoucherPayloadMinSize +
    2 * fields.tokenIds.length * Parser.u256Length)) .allocation
  sendVoucher platform .erc1155Batch (some input.appContract) { voucherRequest with
    receiver := accountAddressOf account,
    erc1155Batch := ⟨fields.token, tokenIds, amounts, noElements⟩ }
    payload.payload input.memory "unable to encode erc1155_batch voucher: "
    "unable to emit erc1155_batch voucher: "

/-- `process_ether_transfer`. -/
def processEtherTransfer (account : AccountArgs)
    (parserInput : Parser.Session × Parser.Members) : Handler Unit := do
  let fields := parserInput.2.etherTransfer
  let receiver ← retrieveReceiver platform fields.receiver (some platform.uninitialised.account)
  transfer platform (← read).etherId (laccId account) (laccId receiver) fields.amount
    "unable to transfer ether: "
  checkAndRemoveAccount platform (laccId account)

/-- `process_erc20_transfer`. -/
def processErc20Transfer (account : AccountArgs)
    (parserInput : Parser.Session × Parser.Members) : Handler Unit := do
  let fields := parserInput.2.erc20Transfer
  let receiver ← retrieveReceiver platform fields.receiver none
  let asset ← retrieveToken platform platform.uninitialised.lassId (some .tokenAddress)
    fields.token none
  transfer platform (lassId asset) (laccId account) (laccId receiver) fields.amount
    "unable to transfer erc20: "
  checkAndRemoveAccount platform (laccId account)

/-- `process_erc721_transfer`. -/
def processErc721Transfer (account : AccountArgs)
    (parserInput : Parser.Session × Parser.Members) : Handler Unit := do
  let fields := parserInput.2.erc721Transfer
  let receiver ← retrieveReceiver platform fields.receiver none
  let asset ← retrieveToken platform platform.uninitialised.lassId (some .tokenAddressId)
    fields.token (some fields.tokenId)
  transfer platform (lassId asset) (laccId account) (laccId receiver) oneAmount
    "unable to transfer erc721: "
  checkAndRemoveAccount platform (laccId account)

/-- `process_erc1155_single_transfer`. -/
def processErc1155SingleTransfer (account : AccountArgs)
    (parserInput : Parser.Session × Parser.Members) : Handler Unit := do
  let fields := parserInput.2.erc1155SingleTransfer
  let receiver ← retrieveReceiver platform fields.receiver none
  let asset ← retrieveToken platform platform.uninitialised.lassId (some .tokenAddressIdAmount)
    fields.token (some fields.tokenId)
  transfer platform (lassId asset) (laccId account) (laccId receiver) fields.amount
    "unable to transfer erc1155_single: "
  checkAndRemoveAccount platform (laccId account)

/-- The loop of `process_erc1155_batch_transfer`. -/
def transferPairs (token : Address) (laccId receiverLaccId : AccountId) (lassIdBefore : AssetId)
    (assetType : Option AssetType) : List (TokenId × Amount) → Handler Unit
  | [] => pure ()
  | (tokenId, amount) :: rest => do
    let asset ← retrieveToken platform lassIdBefore assetType token (some tokenId)
    transfer platform (lassId asset) laccId receiverLaccId amount
      "unable to transfer erc1155_batch: "
    transferPairs token laccId receiverLaccId (lassId asset) asset.assetType rest

/-- `process_erc1155_batch_transfer`. -/
def processErc1155BatchTransfer (input : Advance) (account : AccountArgs)
    (parserInput : Parser.Session × Parser.Members) : Handler Unit := do
  let fields := parserInput.1.input.erc1155BatchTransfer
  let receiver ← retrieveReceiver platform fields.receiver none
  transferPairs platform fields.token (laccId account) (laccId receiver)
    platform.uninitialised.lassId (some .tokenAddressIdAmount)
    (pairs input.memory fields.tokenIds fields.amounts)
  checkAndRemoveAccount platform (laccId account)

/-- `process_advance`. -/
def processAdvance (input : Advance) : Handler Unit := do
  let parserInput ← decodeCall platform input
  let account ← retrieveWallet platform input.msgSender
  match parserInput.1.input.type with
  | .etherWithdrawal => processEtherWithdrawal platform input account parserInput
  | .erc20Withdrawal => processErc20Withdrawal platform input account parserInput
  | .erc721Withdrawal => processErc721Withdrawal platform input account parserInput
  | .erc1155SingleWithdrawal => processErc1155SingleWithdrawal platform input account parserInput
  | .erc1155BatchWithdrawal => processErc1155BatchWithdrawal platform input account parserInput
  | .etherTransfer => processEtherTransfer platform account parserInput
  | .erc20Transfer => processErc20Transfer platform account parserInput
  | .erc721Transfer => processErc721Transfer platform account parserInput
  | .erc1155SingleTransfer => processErc1155SingleTransfer platform account parserInput
  | .erc1155BatchTransfer => processErc1155BatchTransfer platform input account parserInput
  | _ => raise (.app "Invalid advance decode type" (-einval))

/-- The handler that `advance_state` chooses by the sender. -/
def chooseAdvance (input : Advance) : Handler Unit :=
  if input.msgSender = etherPortalAddress then processEtherDeposit platform input
  else if input.msgSender = erc20PortalAddress then processErc20Deposit platform input
  else if input.msgSender = erc721PortalAddress then processErc721Deposit platform input
  else if input.msgSender = erc1155SinglePortalAddress then
    processErc1155SingleDeposit platform input
  else if input.msgSender = erc1155BatchPortalAddress then
    processErc1155BatchDeposit platform input
  else processAdvance platform input

/-- `rollup_emit_report`, its result ignored. -/
def rollupEmitReport (report : Report) : Handler Unit := do
  let app ← read
  if platform.emitReport app.reports report < 0 then pure ()
  else update fun app => { app with reports := app.reports ++ [report] }

/-- Catch what a handler throws and report it; whether nothing was thrown. -/
def catchFailure (handler : Handler Unit) : Handler Bool := ⟨fun app =>
  match handler.run app with
  | .ok _ after => .ok true after
  | .throw failure after =>
    (do rollupEmitReport platform (.error failure.status); pure false : Handler Bool).run after
  | .undefined => .undefined⟩

/-- `advance_state`. -/
def advanceState (input : Advance) : Handler Bool :=
  catchFailure platform (chooseAdvance platform input)

/-- The start of `main` on a ledger that was opened: the ether asset is created. -/
def start (ledger : Memory) : Option App :=
  match ledger.call platform.config (.retrieveAsset
      ⟨some platform.uninitialised.lassId, none, none, none, some .base⟩ .findOrCreate) with
  | some (after, response) =>
    if response.code = success then
      some ⟨after, lassId (response.output.assetArgs
        ⟨some platform.uninitialised.lassId, none, none, none, some .base⟩), [], []⟩
    else none
  | none => none

end

end Libcma.Wallet

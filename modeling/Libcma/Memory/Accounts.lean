import Libcma.Memory.Assets

/-!
# Accounts of the memory ledger

`find_account`, `remove_account` and `retrieve_account` of `cma_ledger_memory`.
-/

namespace Libcma

open Exec

namespace Memory

/-- `find_account`, returning only whether it found the account. -/
def findAccount (accountId : AccountId) : Exec CmaException Memory Bool := do
  return ((← read).laccidToAccount.lookup accountId).isSome

/-- `find_account` with the caller's pointers. -/
def findAccountInto (accountId : AccountId) : Exec CmaException (Memory × AccountArgs) Bool := do
  match (← read).1.laccidToAccount.lookup accountId with
  | none => pure false
  | some found =>
    update fun state => (state.1, state.2.fill found.account (some found.nBalances))
    pure true

/-- Erase the key of an account. -/
def eraseAccountKey (accountKey : Bytes32) : Exec CmaException Memory Unit := do
  refuseIf ((← read).accountToLaccid.lookup accountKey).isNone
    ⟨"Coundn't erase account key map", errorRemove⟩
  update fun ledger => { ledger with accountToLaccid := ledger.accountToLaccid.erase accountKey }

/-- `remove_account`. -/
def removeAccount (accountId : AccountId) : Exec CmaException Memory Unit := do
  let found ← orRaise ((← read).laccidToAccount.lookup accountId)
    ⟨"Account not found", errorAccountNotFound⟩
  refuseIf (0 < found.nBalances) ⟨"Account still have balances", errorAccountBalance⟩
  match found.account.type with
  | .id => pure ()
  | .walletAddress => eraseAccountKey found.account.accountId
  | .accountId => eraseAccountKey found.account.accountId
  refuseIf ((← read).laccidToAccount.lookup accountId).isNone
    ⟨"Coundn't erase account id map", errorRemove⟩
  update fun ledger => { ledger with laccidToAccount := ledger.laccidToAccount.erase accountId }

/-- Remove the account that was found when the operation says so. -/
def removeFoundAccount (operation : Operation) (accountId : AccountId) :
    Exec CmaException (Memory × AccountArgs) Unit :=
  if operation = .findAndRemove then onFirst (removeAccount accountId) else pure ()

/-- Look an account up by id; whether the call is over. -/
def lookForAccountId (operation : Operation) (accountId : AccountId) :
    Exec CmaException (Memory × AccountArgs) Bool :=
  if looks operation then do
    let found ← findAccountInto accountId
    if found then
      update fun state => (state.1, state.2.copyType)
      removeFoundAccount operation accountId
      pure true
    else
      refuseIf (requires operation) ⟨"Account not found", errorAccountNotFound⟩
      pure false
  else pure false

/-- Look an account up by key; whether the call is over. -/
def lookForAccountKey (operation : Operation) (accountKey : Bytes32) :
    Exec CmaException (Memory × AccountArgs) Bool :=
  if looks operation then do
    match (← read).1.accountToLaccid.lookup accountKey with
    | some accountId =>
      let found ← findAccountInto accountId
      refuseIf (¬found) ⟨"Account by id not found", errorAccountNotFound⟩
      update fun state => (state.1, (state.2.withId accountId).copyType)
      removeFoundAccount operation accountId
      pure true
    | none =>
      refuseIf (requires operation) ⟨"Account not found", errorAccountNotFound⟩
      pure false
  else pure false

/-- Refuse to create an account past the limit. -/
def refuseMaxAccounts (config : Config) : Exec CmaException (Memory × AccountArgs) Unit := do
  let (ledger, _) ← read
  refuseIf (config.maxAccounts ≤ ledger.nextAccountId)
    ⟨"Max accounts reached", errorMaxAccountsReached⟩

/-- Insert a new account under the next id. -/
def insertAccount (newAccount : Account) : Exec CmaException (Memory × AccountArgs) Unit := do
  let (ledger, _) ← read
  refuseIf (ledger.laccidToAccount.lookup ledger.nextAccountId).isSome
    ⟨"Account ID already exists", errorInsertion⟩
  update fun (ledger, args) => ({ ledger with
    laccidToAccount := ledger.laccidToAccount.insert ledger.nextAccountId ⟨newAccount, 0⟩ }, args)

/-- Report the next account id and step the counter. -/
def takeAccountId : Exec CmaException (Memory × AccountArgs) Unit :=
  update fun (ledger, args) =>
    ({ ledger with nextAccountId := ledger.nextAccountId + 1 }, args.withId ledger.nextAccountId)

/-- Create an account without a key. -/
def createAccountId (config : Config) : Exec CmaException (Memory × AccountArgs) Unit := do
  refuseMaxAccounts config
  insertAccount ⟨.id, zeros 32⟩
  takeAccountId

/-- Create an account with a key. -/
def createAccountKey (config : Config) (account : Account) :
    Exec CmaException (Memory × AccountArgs) Unit := do
  refuseMaxAccounts config
  let (ledger, _) ← read
  refuseIf (ledger.accountToLaccid.lookup account.accountId).isSome
    ⟨"Account Key already exists", errorInsertion⟩
  update fun (ledger, args) => ({ ledger with
    accountToLaccid := ledger.accountToLaccid.insert account.accountId ledger.nextAccountId }, args)
  insertAccount account
  update fun state =>
    (state.1, { state.2.fill account none with accountType := some account.type })
  takeAccountId

/-- The case of `retrieve_account` for an account without a key. -/
def retrieveUnkeyedAccount (config : Config) (operation : Operation) :
    Exec CmaException (Memory × AccountArgs) Unit := do
  let (_, args) ← read
  let accountId ← orRaise args.accountId ⟨"Invalid account id ptr", -einval⟩
  let settled ← lookForAccountId operation accountId
  if ¬settled ∧ operation.creates then createAccountId config

/-- The case of `retrieve_account` for an account with a key. -/
def retrieveKeyedAccount (config : Config) (operation : Operation) (accountType : AccountType) :
    Exec CmaException (Memory × AccountArgs) Unit := do
  let account ← localAccount (← read).2 accountType
  let settled ← lookForAccountKey operation account.accountId
  if ¬settled ∧ operation.creates then createAccountKey config account

/-- `retrieve_account`. -/
def retrieveAccount (config : Config) (operation : Operation) :
    Exec CmaException (Memory × AccountArgs) Unit := do
  let (_, args) ← read
  match args.accountType with
  | some .id => retrieveUnkeyedAccount config operation
  | some accountType => retrieveKeyedAccount config operation accountType
  | none => raise ⟨"Invalid asset type", -einval⟩

end Memory

end Libcma

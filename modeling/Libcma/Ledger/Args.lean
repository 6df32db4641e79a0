import Libcma.Lib.Exec
import Libcma.Types

/-!
# In and out parameters of the ledger calls

Both ledger classes copy what they find through the caller's pointers in the same way, and build
the same keys from what the caller supplies. A call runs over the ledger together with the
variables its pointers name, so that what was copied before a throw is part of the outcome.
-/

namespace Libcma

open Exec

/-- What `find_asset` copies out once it has found an asset. -/
def AssetArgs.fill (args : AssetArgs) (asset : Asset) : AssetArgs :=
  { args with
    assetType := some asset.type
    tokenAddress := match asset.type with
      | .id | .base => args.tokenAddress
      | _ => args.tokenAddress.map fun _ => asset.tokenAddress
    tokenId := match asset.type with
      | .tokenAddressId | .tokenAddressIdAmount => args.tokenId.map fun _ => asset.tokenId
      | _ => args.tokenId
    outTotalSupply := args.outTotalSupply.map fun _ => asset.supply }

/-- Write the asset id where the pointer is not null. -/
def AssetArgs.withId (args : AssetArgs) (assetId : AssetId) : AssetArgs :=
  { args with assetId := args.assetId.map fun _ => assetId }

/-- What is copied out leaves the id. -/
@[simp] theorem AssetArgs.assetId_fill (args : AssetArgs) (asset : Asset) :
    (args.fill asset).assetId = args.assetId := rfl

/-- The id written is read where the pointer is not null. -/
@[simp] theorem AssetArgs.assetId_withId (args : AssetArgs) (assetId : AssetId) :
    (args.withId assetId).assetId = args.assetId.map fun _ => assetId := rfl

/-- What `find_account` copies out once it has found an account: its bytes and its number of
balances. -/
def AccountArgs.fill (args : AccountArgs) (account : Account) (nBalances : Option ℕ) :
    AccountArgs :=
  { args with
    account := args.account.map fun _ => account
    nBalances := match nBalances with
      | some count => args.nBalances.map fun _ => count
      | none => args.nBalances }

/-- Write the account id where the pointer is not null. -/
def AccountArgs.withId (args : AccountArgs) (accountId : AccountId) : AccountArgs :=
  { args with accountId := args.accountId.map fun _ => accountId }

/-- `if (account != nullptr) account_type = account->type`. -/
def AccountArgs.copyType (args : AccountArgs) : AccountArgs :=
  match args.account with
  | some account => { args with accountType := some account.type }
  | none => args

/-- Copying the type of the account leaves the id. -/
theorem AccountArgs.accountId_copyType (args : AccountArgs) :
    args.copyType.accountId = args.accountId := by
  unfold AccountArgs.copyType
  split <;> rfl

/-- `start_with_zeros` on the first 12 bytes. -/
def startWithZeros (bytes : Bytes32) : Bool := accountFix bytes = zeros 12

/-- The address at the start of the bytes `addr_accid` points to. -/
def leadingAddress (bytes : Bytes32) : Address := ⟨bytes.toList.take 20, by simp⟩

/-- `account_local` before the lookup, with `account_type_local`: built from `addr_accid`, or from
`account` when that is null; none when both are. A wallet address has its fixed bytes zeroed. -/
def AccountArgs.local? (args : AccountArgs) (accountType : AccountType) : Option Account :=
  match args.addrAccid with
  | some bytes =>
    if accountType = .accountId ∧ startWithZeros bytes then
      some ⟨.walletAddress, walletId (accountAddress bytes)⟩
    else if accountType = .walletAddress then
      some ⟨.walletAddress, walletId (leadingAddress bytes)⟩
    else
      some ⟨accountType, bytes⟩
  | none => args.account.map fun account =>
    if accountType = .walletAddress then
      ⟨.walletAddress, walletId (accountAddress account.accountId)⟩
    else
      ⟨accountType, account.accountId⟩

/-- The local account, or the refusal of two null pointers. -/
def localAccount {σ : Type} (args : AccountArgs) (accountType : AccountType) :
    Exec CmaException σ Account :=
  orRaise (args.local? accountType) ⟨"Invalid account ptr", -einval⟩

/-- An operation that looks an item up before anything else. -/
def Operation.finds (operation : Operation) : Prop := operation = .find ∨ operation = .findOrCreate

/-- An operation that creates an item. -/
def Operation.creates (operation : Operation) : Prop :=
  operation = .create ∨ operation = .findOrCreate

instance (operation : Operation) : Decidable operation.finds :=
  inferInstanceAs (Decidable (_ ∨ _))

instance (operation : Operation) : Decidable operation.creates :=
  inferInstanceAs (Decidable (_ ∨ _))

/-- What the caller of the C interface sees: the state kept, the error, and the variables. -/
def settle {σ π : Type} (answer : π → Output) :
    Outcome CmaException (σ × π) Unit → Option (σ × Response)
  | .ok _ (state, args) => some (state, ⟨none, answer args⟩)
  | .throw error (state, args) => some (state, ⟨some error, answer args⟩)
  | .undefined => none

/-- What a computation ensures is what its settled end shows. -/
theorem settle_ensures {σ π : Type} {answer : π → Output} {after : σ}
    {response : Response} {outcome : Outcome CmaException (σ × π) Unit}
    {ensures : Unit → σ × π → Prop} {raises : CmaException → σ × π → Prop}
    (satisfies : outcome.Satisfies ensures raises)
    (settled : settle answer outcome = some (after, response)) :
    (∃ args, ensures () (after, args) ∧ response = ⟨none, answer args⟩) ∨
      ∃ error args, raises error (after, args) ∧ response = ⟨some error, answer args⟩ := by
  cases outcome with
  | ok value state =>
    obtain ⟨rfl, rfl⟩ := Prod.mk.inj (Option.some.inj settled)
    exact .inl ⟨state.2, satisfies, rfl⟩
  | throw error state =>
    obtain ⟨rfl, rfl⟩ := Prod.mk.inj (Option.some.inj settled)
    exact .inr ⟨error, state.2, satisfies, rfl⟩
  | undefined => simp [settle] at settled

/-- A defined end is settled. -/
theorem settle_defined {σ π : Type} {outcome : Outcome CmaException (σ × π) Unit}
    (answer : π → Output) (defined : outcome.Defined) :
    ∃ after response, settle answer outcome = some (after, response) := by
  cases outcome with
  | ok value state => exact ⟨_, _, rfl⟩
  | throw error state => exact ⟨_, _, rfl⟩
  | undefined => exact defined.elim

/-- A local account has a key, and a wallet among them has zero fixed bytes. -/
theorem AccountArgs.local?_plain {args : AccountArgs} {accountType : AccountType}
    (keyed : accountType ≠ .id) {account : Account}
    (built : args.local? accountType = some account) :
    account.type ≠ .id ∧
      (account.type = .walletAddress → accountFix account.accountId = zeros 12) := by
  unfold AccountArgs.local? at built
  cases given : args.addrAccid with
  | some bytes =>
    rw [given] at built
    dsimp only at built
    split at built
    · rw [← Option.some.inj built]
      exact ⟨by simp, fun _ => accountFix_walletId _⟩
    · split at built
      · rw [← Option.some.inj built]
        exact ⟨by simp, fun _ => accountFix_walletId _⟩
      · rw [← Option.some.inj built]
        exact ⟨keyed, fun wallet => absurd wallet ‹_›⟩
  | none =>
    rw [given] at built
    obtain ⟨source, -, rfl⟩ := Option.map_eq_some_iff.mp built
    split
    · exact ⟨by simp, fun _ => accountFix_walletId _⟩
    · exact ⟨keyed, fun wallet => absurd wallet ‹_›⟩

/-- The key an asset is registered under; the types without a token have none. -/
def Asset.key (asset : Asset) : Option AssetKey :=
  match asset.type with
  | .id | .base => none
  | .tokenAddress => some (addressKey asset.tokenAddress)
  | .tokenAddressId | .tokenAddressIdAmount =>
    some (addressIdKey asset.tokenAddress asset.tokenId)

/-- The key an account is registered under; an account by id has none. -/
def Account.key (account : Account) : Option Bytes32 :=
  match account.type with
  | .id => none
  | .walletAddress | .accountId => some account.accountId

/-- An account that is not by id is registered under its bytes. -/
theorem Account.key_some {account : Account} (keyed : account.type ≠ .id) :
    account.key = some account.accountId := by
  unfold Account.key
  split
  · contradiction
  · rfl
  · rfl

/-- The key that the in-parameters of `retrieve_asset` ask for. -/
def AssetArgs.requestedKey (args : AssetArgs) : Option AssetKey :=
  match args.assetType with
  | some .tokenAddress => args.tokenAddress.map addressKey
  | some .tokenAddressId | some .tokenAddressIdAmount =>
    args.tokenAddress.bind fun address => args.tokenId.map fun tokenId =>
      addressIdKey address tokenId
  | _ => none

/-- The account that the in-parameters of `retrieve_account` ask for by its key. -/
def AccountArgs.requested (args : AccountArgs) : Option Account :=
  match args.accountType with
  | some .walletAddress => args.local? .walletAddress
  | some .accountId => args.local? .accountId
  | _ => none

/-- A call that creates an asset of type `id`. -/
def createIdAsset : Call := .retrieveAsset ⟨some 0, none, none, none, some .id⟩ .create

/-- A call that creates an account of type `id`. -/
def createIdAccount : Call := .retrieveAccount ⟨some 0, none, none, none, some .id⟩ .create

/-- A call for the account of type `id` with the id zero. -/
def retrieveIdAccount (operation : Operation) : Call :=
  .retrieveAccount ⟨some 0, none, none, none, some .id⟩ operation

/-- A call for the token at the zero address. -/
def retrieveToken (operation : Operation) : Call :=
  .retrieveAsset ⟨some 0, some (zeros 20), none, none, some .tokenAddress⟩ operation

/-- A call that creates the base asset. -/
def createBase : Call := .retrieveAsset ⟨some 0, none, none, none, some .base⟩ .create

/-- A call that creates the account of the wallet at the zero address. -/
def createWallet : Call :=
  .retrieveAccount ⟨some 0, none, some (zeros 32), none, some .walletAddress⟩ .create

end Libcma

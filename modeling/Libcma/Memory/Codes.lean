import Libcma.Ledger.Codes
import Libcma.Memory.Balances

/-!
# Error codes of the memory ledger

The removals of `cma_ledger_memory` raise the codes of `removalCodes`, and all its methods negative
codes, in whatever state the ledger is.
-/

namespace Libcma

open Exec

namespace Memory

/-- The codes of a removal. -/
def removalCodes : List Int :=
  [errorAssetNotFound, errorAssetSupply, errorAccountNotFound, errorAccountBalance, errorRemove]

section Removals

variable {allowed : CmaException → Prop}

/-- `find_asset` with the caller's pointers raises nothing. -/
theorem findAssetInto_raises (assetId : AssetId) : Raises allowed (findAssetInto assetId) := by
  apply Raises.bind .read
  intro state
  cases state.1.lassidToAsset.lookup assetId with
  | none => exact .pure _
  | some asset => exact .bind (.update _) fun _ => .pure _

/-- `find_account` with the caller's pointers raises nothing. -/
theorem findAccountInto_raises (accountId : AccountId) :
    Raises allowed (findAccountInto accountId) := by
  apply Raises.bind .read
  intro state
  cases state.1.laccidToAccount.lookup accountId with
  | none => exact .pure _
  | some found => exact .bind (.update _) fun _ => .pure _

variable (permits : ∀ exception, WithCode removalCodes exception → allowed exception)

include permits

/-- `remove_asset` raises codes of removals. -/
theorem removeAsset_raises (assetId : AssetId) : Raises allowed (removeAsset assetId) := by
  have key (assetKey : AssetKey) : Raises allowed (eraseAssetKey assetKey) :=
    .bind .read fun _ => .bind (.refuseIf _ (permits _ (by decide))) fun _ => .update _
  have id : Raises allowed ((Exec.read : Exec CmaException Memory Memory) >>= fun ledger =>
      refuseIf (ledger.lassidToAsset.lookup assetId).isNone
        ⟨"Coundn't erase asset id map", errorRemove⟩ >>= fun _ => update fun ledger =>
          { ledger with lassidToAsset := ledger.lassidToAsset.erase assetId }) :=
    .bind .read fun _ => .bind (.refuseIf _ (permits _ (by decide))) fun _ => .update _
  apply Raises.bind .read
  intro ledger
  apply Raises.bind (.orRaise _ (permits _ (by decide)))
  intro asset
  apply Raises.bind (.refuseIf _ (permits _ (by decide)))
  intro _
  cases asset.type with
  | id => exact id
  | base => exact .bind (.update _) fun _ => id
  | tokenAddress => exact .bind (key _) fun _ => id
  | tokenAddressId => exact .bind (key _) fun _ => id
  | tokenAddressIdAmount => exact .bind (key _) fun _ => id

/-- Removing the asset that was found raises codes of removals. -/
theorem removeFoundAsset_raises (operation : Operation) (assetId : AssetId) :
    Raises allowed (removeFoundAsset operation assetId) :=
  .ite _ (.onFirst (removeAsset_raises permits assetId)) (.pure _)

/-- `remove_account` raises codes of removals. -/
theorem removeAccount_raises (accountId : AccountId) :
    Raises allowed (removeAccount accountId) := by
  have key (accountKey : Bytes32) : Raises allowed (eraseAccountKey accountKey) :=
    .bind .read fun _ => .bind (.refuseIf _ (permits _ (by decide))) fun _ => .update _
  have id : Raises allowed ((Exec.read : Exec CmaException Memory Memory) >>= fun ledger =>
      refuseIf (ledger.laccidToAccount.lookup accountId).isNone
        ⟨"Coundn't erase account id map", errorRemove⟩ >>= fun _ => update fun ledger =>
          { ledger with laccidToAccount := ledger.laccidToAccount.erase accountId }) :=
    .bind .read fun _ => .bind (.refuseIf _ (permits _ (by decide))) fun _ => .update _
  apply Raises.bind .read
  intro ledger
  apply Raises.bind (.orRaise _ (permits _ (by decide)))
  intro found
  apply Raises.bind (.refuseIf _ (permits _ (by decide)))
  intro _
  cases found.account.type with
  | id => exact id
  | walletAddress => exact .bind (key _) fun _ => id
  | accountId => exact .bind (key _) fun _ => id

/-- Removing the account that was found raises codes of removals. -/
theorem removeFoundAccount_raises (operation : Operation) (accountId : AccountId) :
    Raises allowed (removeFoundAccount operation accountId) :=
  .ite _ (.onFirst (removeAccount_raises permits accountId)) (.pure _)

end Removals

/-- Removals raise negative codes. -/
theorem removalCodes_negative (exception : CmaException)
    (coded : WithCode removalCodes exception) : Negative exception :=
  coded.negative (by decide)

/-- The steps that create an asset raise negative codes. -/
theorem refuseMaxAssets_negative (config : Config) : Raises Negative (refuseMaxAssets config) :=
  .bind .read fun _ => .refuseIf _ (by decide)

/-- Inserting an asset raises a negative code. -/
theorem insertAsset_negative (newAsset : Asset) : Raises Negative (insertAsset newAsset) :=
  .bind .read fun _ => .bind (.refuseIf _ (by decide)) fun _ => .update _

/-- The case of an asset without a key raises negative codes. -/
theorem retrieveUnkeyedAsset_negative (config : Config) (operation : Operation)
    (assetType : AssetType) :
    Raises Negative (retrieveUnkeyedAsset config operation assetType) := by
  have looked (assetId : AssetId) :
      Raises Negative (lookForAssetId operation assetType assetId) :=
    .ite _ (.bind .read fun _ => .bind (.update _) fun _ =>
      .bind (findAssetInto_raises _) fun _ =>
        .ite _ (.bind (removeFoundAsset_raises removalCodes_negative _ _) fun _ => .pure _)
          (.bind (.refuseIf _ (by decide)) fun _ => .pure _)) (.pure _)
  have created : Raises Negative (createAssetId config assetType) :=
    .bind (refuseMaxAssets_negative _) fun _ => .bind .read fun _ =>
      .bind (.refuseIf _ (by decide)) fun _ => .bind (insertAsset_negative _) fun _ =>
      .bind (.update _) fun _ => .update _
  exact .bind .read fun _ => .bind (.orRaise _ (by decide)) fun _ => .bind (looked _) fun _ =>
    .ite _ created (.pure _)

/-- The case of an asset with a key raises negative codes. -/
theorem retrieveKeyedAsset_negative (config : Config) (operation : Operation)
    (assetKey : AssetKey) (newAsset : Asset) :
    Raises Negative (retrieveKeyedAsset config operation assetKey newAsset) := by
  have looked : Raises Negative (lookForAssetKey operation assetKey) := by
    apply Raises.ite _ (.bind .read ?_) (.pure _)
    intro state
    cases state.1.assetToLassid.lookup assetKey with
    | none => exact .bind (.refuseIf _ (by decide)) fun _ => .pure _
    | some assetId =>
      exact .bind (findAssetInto_raises _) fun _ => .bind (.refuseIf _ (by decide)) fun _ =>
        .bind (.update _) fun _ =>
        .bind (removeFoundAsset_raises removalCodes_negative _ _) fun _ => .pure _
  have created : Raises Negative (createAssetKey config assetKey newAsset) :=
    .bind (refuseMaxAssets_negative _) fun _ => .bind .read fun _ =>
      .bind (.refuseIf _ (by decide)) fun _ => .bind (.update _) fun _ =>
      .bind (insertAsset_negative _) fun _ => .update _
  exact .bind looked fun _ => .ite _ created (.pure _)

/-- `retrieve_asset` raises negative codes. -/
theorem retrieveAsset_negative (config : Config) (operation : Operation) :
    Raises Negative (retrieveAsset config operation) := by
  apply Raises.bind .read
  rintro ⟨ledger, args⟩
  cases type : args.assetType with
  | none =>
    simp only [type]
    exact .raise (by decide)
  | some assetType =>
    cases assetType with
    | id =>
      simp only [type]
      exact retrieveUnkeyedAsset_negative _ _ _
    | base =>
      simp only [type]
      exact retrieveUnkeyedAsset_negative _ _ _
    | tokenAddress =>
      simp only [type]
      exact .bind (.orRaise _ (by decide)) fun _ => retrieveKeyedAsset_negative _ _ _ _
    | tokenAddressId =>
      simp only [type]
      exact .bind (.orRaise _ (by decide)) fun _ => .bind (.orRaise _ (by decide)) fun _ =>
        retrieveKeyedAsset_negative _ _ _ _
    | tokenAddressIdAmount =>
      simp only [type]
      exact .bind (.orRaise _ (by decide)) fun _ => .bind (.orRaise _ (by decide)) fun _ =>
        retrieveKeyedAsset_negative _ _ _ _

/-- Creating an account past the limit raises a negative code. -/
theorem refuseMaxAccounts_negative (config : Config) :
    Raises Negative (refuseMaxAccounts config) :=
  .bind .read fun _ => .refuseIf _ (by decide)

/-- Inserting an account raises a negative code. -/
theorem insertAccount_negative (newAccount : Account) :
    Raises Negative (insertAccount newAccount) :=
  .bind .read fun _ => .bind (.refuseIf _ (by decide)) fun _ => .update _

/-- The case of an account without a key raises negative codes. -/
theorem retrieveUnkeyedAccount_negative (config : Config) (operation : Operation) :
    Raises Negative (retrieveUnkeyedAccount config operation) := by
  have looked (accountId : AccountId) : Raises Negative (lookForAccountId operation accountId) :=
    .ite _ (.bind (findAccountInto_raises _) fun _ =>
      .ite _ (.bind (.update _) fun _ =>
          .bind (removeFoundAccount_raises removalCodes_negative _ _) fun _ => .pure _)
        (.bind (.refuseIf _ (by decide)) fun _ => .pure _)) (.pure _)
  have created : Raises Negative (createAccountId config) :=
    .bind (refuseMaxAccounts_negative _) fun _ => .bind (insertAccount_negative _) fun _ =>
      .update _
  exact .bind .read fun _ => .bind (.orRaise _ (by decide)) fun _ => .bind (looked _) fun _ =>
    .ite _ created (.pure _)

/-- The case of an account with a key raises negative codes. -/
theorem retrieveKeyedAccount_negative (config : Config) (operation : Operation)
    (accountType : AccountType) :
    Raises Negative (retrieveKeyedAccount config operation accountType) := by
  have looked (accountKey : Bytes32) :
      Raises Negative (lookForAccountKey operation accountKey) := by
    apply Raises.ite _ (.bind .read ?_) (.pure _)
    intro state
    cases state.1.accountToLaccid.lookup accountKey with
    | none => exact .bind (.refuseIf _ (by decide)) fun _ => .pure _
    | some accountId =>
      exact .bind (findAccountInto_raises _) fun _ => .bind (.refuseIf _ (by decide)) fun _ =>
        .bind (.update _) fun _ =>
        .bind (removeFoundAccount_raises removalCodes_negative _ _) fun _ => .pure _
  have created (account : Account) : Raises Negative (createAccountKey config account) :=
    .bind (refuseMaxAccounts_negative _) fun _ => .bind .read fun _ =>
      .bind (.refuseIf _ (by decide)) fun _ => .bind (.update _) fun _ =>
      .bind (insertAccount_negative _) fun _ => .bind (.update _) fun _ => .update _
  exact .bind .read fun _ => .bind (localAccount_negative _ _) fun _ => .bind (looked _) fun _ =>
    .ite _ (created _) (.pure _)

/-- `retrieve_account` raises negative codes. -/
theorem retrieveAccount_negative (config : Config) (operation : Operation) :
    Raises Negative (retrieveAccount config operation) := by
  apply Raises.bind .read
  rintro ⟨ledger, args⟩
  cases type : args.accountType with
  | none =>
    simp only [type]
    exact .raise (by decide)
  | some accountType =>
    cases accountType with
    | id =>
      simp only [type]
      exact retrieveUnkeyedAccount_negative _ _
    | walletAddress =>
      simp only [type]
      exact retrieveKeyedAccount_negative _ _ _
    | accountId =>
      simp only [type]
      exact retrieveKeyedAccount_negative _ _ _

/-- Opening a balance entry raises negative codes. -/
theorem createBalance_negative (config : Config) (key : MapKey) (balance : Amount) :
    Raises Negative (createBalance config key balance) := by
  have virtual : Raises Negative (createVirtual config key balance) :=
    .bind (.update _) fun _ => .bind .read fun _ => .pure _
  have withdrawable (asset : Asset) (account : Account) :
      Raises Negative (createWithdrawable key asset account balance) :=
    .bind .read fun _ => .bind (.update _) fun _ => .bind (.update _) fun _ => .pure _
  exact .bind .read fun _ => .bind (.refuseIf _ (by decide)) fun _ =>
    .bind (.orRaise _ (by decide)) fun _ => .bind (.orRaise _ (by decide)) fun _ =>
    .branch _ (withdrawable _ _) virtual fun _ => .bind .read fun _ =>
    .bind (.refuseIf _ (by decide)) fun _ => .update _

/-- Writing through a pointer raises nothing. -/
theorem storeVirtual_negative (pointer : VirtualPtr) (amount : Amount) :
    Raises Negative (storeVirtual pointer amount) :=
  .bind .read fun _ => .bind (.orUndefined _) fun _ => .update _

/-- Erasing an entry raises a negative code. -/
theorem eraseBalance_negative (key : MapKey) (message : String) :
    Raises Negative (eraseBalance key message) :=
  .bind .read fun _ => .bind (.refuseIf _ (show errorRemove < 0 by decide)) fun _ => .update _

/-- Removing a virtual balance raises negative codes. -/
theorem removeVirtual_negative (key : MapKey) (pointer : VirtualPtr) :
    Raises Negative (removeVirtual key pointer) := by
  have moved : Raises Negative (moveLastVirtual key pointer) :=
    .bind .read fun _ => .bind (.orRaise _ (by decide)) fun _ =>
      .bind (.orRaise _ (by decide)) fun _ => .bind (.orRaise _ (by decide)) fun _ =>
      .bind (.orUndefined _) fun _ => .bind (storeVirtual_negative _ _) fun _ => .update _
  exact .bind .read fun _ => .bind (.orRaise _ (by decide)) fun _ =>
    .optional _ moved fun _ => .bind (.update _) fun _ => .bind .read fun _ =>
    .bind (.orUndefined _) fun _ => .bind .read fun _ => .bind (.orUndefined _) fun _ =>
    .bind (.update _) fun _ => eraseBalance_negative _ _

/-- Removing a withdrawable balance raises negative codes. -/
theorem removeWithdrawable_negative (key : MapKey) (slot : ℕ) :
    Raises Negative (removeWithdrawable key slot) := by
  have moved : Raises Negative (moveLastWithdrawable key slot) :=
    .bind .read fun _ => .bind (.orRaise _ (by decide)) fun _ =>
      .bind (.orRaise _ (by decide)) fun _ => .bind (.orRaise _ (by decide)) fun _ =>
      .bind (.orUndefined _) fun _ => .optional _ (.update _) fun _ =>
      .bind (.update _) fun _ => .update _
  exact .bind .read fun _ => .bind (.orRaise _ (by decide)) fun _ =>
    .branch _ moved (.update _) fun _ => .bind (.update _) fun _ => .bind .read fun _ =>
    .bind (.orUndefined _) fun _ => .bind (.update _) fun _ => eraseBalance_negative _ _

/-- `set_account_asset_balance` raises negative codes. -/
theorem setAccountAssetBalance_negative (config : Config) (assetId : AssetId)
    (accountId : AccountId) (balance : Amount) :
    Raises Negative (setAccountAssetBalance config assetId accountId balance) := by
  apply Raises.bind .read
  intro ledger
  cases ledger.accountAssetBalance.lookup (assetId, accountId) with
  | none => exact createBalance_negative _ _ _
  | some entry =>
    cases entry with
    | virtual pointer =>
      exact .bind (storeVirtual_negative _ _) fun _ =>
        .ite _ (removeVirtual_negative _ _) (.pure _)
    | withdrawable slot =>
      exact .bind (.update _) fun _ => .ite _ (removeWithdrawable_negative _ _) (.pure _)

/-- The methods of a memory ledger raise negative codes. -/
theorem ops_coded (config : Config) : (ops config).Coded Negative where
  findAsset _ := .bind .read fun _ => .pure _
  findAccount _ := .bind .read fun _ => .pure _
  getAccountAssetBalance _ _ := .bind .read fun _ => .orUndefined _
  setAccountAssetBalance := setAccountAssetBalance_negative config
  setAssetSupply _ _ := .bind .read fun _ => .bind (.orRaise _ (by decide)) fun _ => .update _

/-- Reading a balance raises nothing. -/
theorem getAccountAssetBalance_negative (config : Config) (assetId : AssetId)
    (accountId : AccountId) :
    Raises Negative (getAccountAssetBalance config assetId accountId) := by
  apply Raises.bind .read
  rintro ⟨ledger, balance, info⟩
  exact .ite _ (.bind (.orUndefined _) fun _ => .bind (.update _) fun _ => .update _) (.update _)

/-- Every exception of a call has a negative code. -/
theorem call_negative {config : Config} {ledger after : Memory} {request : Call}
    {response : Response} {exception : CmaException}
    (called : ledger.call config request = some (after, response))
    (reported : response.error = some exception) : Negative exception := by
  cases request with
  | retrieveAsset args operation =>
    exact settle_raises (retrieveAsset_negative config operation) called reported
  | retrieveAccount args operation =>
    exact settle_raises (retrieveAccount_negative config operation) called reported
  | getBalance assetId accountId balance info =>
    exact settle_raises (getAccountAssetBalance_negative config assetId accountId) called reported
  | deposit assetId accountId amount =>
    have raises := (ops_coded config).deposit checkCodes_negative assetId accountId amount
    exact settle_raises (.onFirst raises) called reported
  | withdraw assetId accountId amount =>
    have raises := (ops_coded config).withdraw checkCodes_negative assetId accountId amount
    exact settle_raises (.onFirst raises) called reported
  | transfer assetId source target amount =>
    have raises := (ops_coded config).transfer checkCodes_negative assetId source target amount
    exact settle_raises (.onFirst raises) called reported
  | clear =>
    cases called
    cases reported

end Memory

end Libcma

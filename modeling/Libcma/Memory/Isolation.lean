import Libcma.Memory.Records

/-!
# Writing one balance

What `get_account_asset_balance` shows of a pair is its amount and, when it is withdrawable, the
contents of the record it points the caller to. `set_account_asset_balance` changes what is shown of
its own pair only, also when it removes an entry and another pair's storage moves into its place.
-/

namespace Libcma

open Exec

/-- What a record says: `type`, `owner`, `token_address`, `token_id` and `amount`. -/
def AccountBalance.contents (record : AccountBalance) :
    (UInt32 × Address × Address × TokenId) × Amount :=
  (record.subject, record.amount)

namespace Memory

/-- Whatever the caller's variables held, `get_account_asset_balance` shows this amount, and a
record with these contents or none. -/
def Shows (config : Config) (ledger : Memory) (assetId : AssetId) (accountId : AccountId)
    (balance : Amount) (contents : Option ((UInt32 × Address × Address × TokenId) × Amount)) :
    Prop :=
  ∀ asked info, ∃ told, ledger.call config (.getBalance assetId accountId (some asked) (some info)) =
      some (ledger, ⟨none, .balance (some balance) (some told)⟩) ∧
    told.balance.map (fun slot => (ledger.balances slot).contents) = contents

variable {config : Config} {ledger after : Memory} {assetId : AssetId} {accountId : AccountId}
  {asset : Asset} {owner : AccountStruct} {balance : Amount}

/-- The record described of a pair is the one at its slot. -/
theorem describe_balance (config : Config) (ledger : Memory) (key : MapKey) (info : BalanceInfo) :
    (ledger.describe config key info).balance = ledger.driveSlot key := by
  unfold describe driveSlot
  cases ledger.accountAssetBalance.lookup key with
  | none => rfl
  | some entry => cases entry <;> rfl

/-- The record of a pair holds its amount. -/
theorem contents_eq (ledger : Memory) (key : MapKey) :
    (ledger.driveSlot key).map (fun slot => (ledger.balances slot).contents) =
      (ledger.subject key).map fun subject => (subject, ledger.stored key) := by
  unfold subject
  cases placed : ledger.driveSlot key with
  | none => rfl
  | some slot =>
    have held : ledger.stored key = (ledger.balances slot).amount :=
      stored_some (driveSlot_eq.mp placed)
    rw [Option.map_some, Option.map_some, Option.map_some, held]
    rfl

/-- Where nothing dangles, what is shown of a pair is its amount and what its record says. -/
theorem Stable.shows (stable : ledger.Stable) (slotted : ledger.Slotted) (config : Config)
    (assetId : AssetId) (accountId : AccountId) :
    ledger.Shows config assetId accountId (ledger.stored (assetId, accountId))
      ((ledger.subject (assetId, accountId)).map fun subject =>
        (subject, ledger.stored (assetId, accountId))) := by
  intro asked info
  have readable := stable.balanceOf slotted assetId accountId
  refine ⟨ledger.describe config (assetId, accountId) info, ?_, ?_⟩
  · simp [call, getAccountAssetBalance, readable, settle, amount]
  · rw [describe_balance, contents_eq]

/-- A write that returned is the one described, of a pair that was not refused. -/
theorem setAccountAssetBalance_returns (store : ledger.Store config)
    (registered : ledger.lassidToAsset.lookup assetId = some asset)
    (member : ledger.laccidToAccount.lookup accountId = some owner)
    (returns : (setAccountAssetBalance config assetId accountId balance).run ledger =
      .ok () after) :
    ¬ledger.Full config (assetId, accountId) ∧
      after = ledger.written config (assetId, accountId) asset owner balance := by
  rcases setAccountAssetBalance_run store registered member balance with
    ⟨-, thrown⟩ | ⟨room, written⟩ | ⟨-, undefined⟩
  · cases thrown.symm.trans returns
  · exact ⟨room, (Outcome.ok.inj (written.symm.trans returns)).2.symm⟩
  · cases undefined.symm.trans returns

/-- Setting the balance of a pair shows it there, and changes nothing that is shown of any other
pair. -/
theorem setAccountAssetBalance_isolated (config : Config) (region : ℕ → AccountBalance)
    (ledger after : Memory) (assetId : AssetId) (accountId : AccountId) (balance : Amount)
    (reachable : Reachable config region (WithinReserve config) ledger)
    (registered : (ledger.lassidToAsset.lookup assetId).isSome)
    (member : (ledger.laccidToAccount.lookup accountId).isSome)
    (returns : (setAccountAssetBalance config assetId accountId balance).run ledger = .ok () after)
    (fits : after.virtualCount ≤ initBalance) :
    (∃ contents, after.Shows config assetId accountId balance contents) ∧
    ∀ otherAsset otherAccount, (otherAsset, otherAccount) ≠ (assetId, accountId) →
      ∃ shown contents, ledger.Shows config otherAsset otherAccount shown contents ∧
        after.Shows config otherAsset otherAccount shown contents := by
  obtain ⟨asset, registered⟩ := Option.isSome_iff_exists.mp registered
  obtain ⟨owner, member⟩ := Option.isSome_iff_exists.mp member
  have store := reachable.sound.store
  have anchored := reachable.anchored fun _ _ => id
  obtain ⟨room, rfl⟩ := setAccountAssetBalance_returns store registered member returns
  have kept := store.written room registered member balance
  have stable := (anchored.written fits).stable
  constructor
  · have shows := stable.shows kept.toSlotted config assetId accountId
    rw [stored_written store, if_pos rfl] at shows
    exact ⟨_, shows⟩
  · intro otherAsset otherAccount different
    have shows := stable.shows kept.toSlotted config otherAsset otherAccount
    rw [stored_written store, if_neg different,
      subject_written_other store asset owner balance different] at shows
    exact ⟨_, _, anchored.stable.shows store.toSlotted config otherAsset otherAccount, shows⟩

/-- The balance was set, within the reserve. -/
def SetsWithin (config : Config) (ledger : Memory) (assetId : AssetId) (accountId : AccountId)
    (balance : Amount) : Bool :=
  match (setAccountAssetBalance config assetId accountId balance).run ledger with
  | .ok () after => after.virtualCount ≤ initBalance
  | _ => false

/-- Setting the first of two records to zero moves the second, which is shown as before. -/
theorem removal_isolated : ∃ ledger after,
    Reachable fewBalances (fun _ => .zero) (WithinReserve fewBalances) ledger ∧
      (setAccountAssetBalance fewBalances 0 0 (zeros 32)).run ledger = .ok () after ∧
      ∃ shown contents, ledger.Shows fewBalances 1 0 shown contents ∧
        after.Shows fewBalances 1 0 shown contents := by
  obtain ⟨ledger, reachable, facts⟩ := Run.exists_reaches
    (fun state request => call fewBalances state request) (WithinReserve fewBalances)
    (empty fun _ => .zero) [retrieveToken .create, createBase, createWallet,
      .deposit 0 0 oneAmount, .deposit 1 0 oneAmount] (by decide +kernel)
    (fun ledger => ((ledger.lassidToAsset.lookup 0).isSome,
      (ledger.laccidToAccount.lookup 0).isSome, ledger.SetsWithin fewBalances 0 0 (zeros 32)))
    (true, true, true) (by decide +kernel)
  simp only [Prod.mk.injEq, SetsWithin] at facts
  obtain ⟨registered, member, sets⟩ := facts
  cases returns : (setAccountAssetBalance fewBalances 0 0 (zeros 32)).run ledger with
  | ok value after =>
    simp only [returns, decide_eq_true_eq] at sets
    have isolated := setAccountAssetBalance_isolated fewBalances (fun _ => .zero) ledger after 0 0
      (zeros 32) reachable registered member returns sets
    exact ⟨ledger, after, reachable, returns, isolated.2 1 0 (by decide)⟩
  | throw error after => simp [returns] at sets
  | undefined => simp [returns] at sets

end Memory

end Libcma

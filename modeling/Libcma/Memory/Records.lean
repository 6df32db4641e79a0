import Libcma.Memory.Layout
import Libcma.Memory.Holdings

/-!
# What the records are of

A record says of what it is the balance: the type, the token and the owner. No two records in use
say the same, as long as no call opens a record where the drive has kept one of the same token and
owner for an asset that was removed.
-/

namespace Libcma

open Exec

/-- What a record says it is the balance of: `type`, `owner`, `token_address` and `token_id`. -/
def AccountBalance.subject (record : AccountBalance) : UInt32 × Address × Address × TokenId :=
  (record.type, record.owner, record.tokenAddress, record.tokenId)

namespace Memory

/-- What the record of a pair says it is the balance of, when the pair has a record. -/
def subject (ledger : Memory) (key : MapKey) : Option (UInt32 × Address × Address × TokenId) :=
  (ledger.driveSlot key).map fun slot => (ledger.balances slot).subject

/-- What a record of an asset and an account says it is the balance of. -/
def subjectOf (asset : Asset) (account : Account) : UInt32 × Address × Address × TokenId :=
  (AccountBalance.describing asset account (zeros 32)).subject

/-- The call opens an entry for the pair, if its checks pass: there is none, and there is room, also
for the receiver of a transfer after its debit. -/
def Opens (config : Config) (ledger : Memory) (key : MapKey) : Call → Prop
  | .deposit assetId accountId _ | .withdraw assetId accountId _ =>
    key = (assetId, accountId) ∧ ledger.accountAssetBalance.lookup key = none ∧
      ledger.accountAssetBalance.size < config.maxBalances
  | .transfer assetId source target amount =>
    key = (assetId, source) ∧ ledger.accountAssetBalance.lookup key = none ∧
        ledger.accountAssetBalance.size < config.maxBalances ∨
      key = (assetId, target) ∧ ledger.accountAssetBalance.lookup key = none ∧
        if ledger.accountAssetBalance.lookup (assetId, source) = none then
          ledger.accountAssetBalance.size + 1 < config.maxBalances
        else ledger.accountAssetBalance.size < config.maxBalances ∨
          (ledger.amount assetId source).toNat = amount.toNat
  | _ => False

/-- There is a record of an asset that was removed, and it says what a record of the pair would. -/
def Outlived (ledger : Memory) (key : MapKey) : Prop :=
  ∃ asset owner, ledger.lassidToAsset.lookup key.1 = some asset ∧
    ledger.laccidToAccount.lookup key.2 = some owner ∧ withdrawable asset owner.account ∧
    ∃ other, ledger.lassidToAsset.lookup other.1 = none ∧
      ledger.subject other = some (subjectOf asset owner.account)

/-- The call does not open an entry whose record would say what a record of a removed asset says. -/
def ReopensNone (config : Config) (ledger : Memory) (request : Call) : Prop :=
  ∀ key, ledger.Accepts request → ledger.Opens config key request → ¬ledger.Outlived key

/-- No two pairs have records that say the same. -/
def Distinct (ledger : Memory) : Prop :=
  ∀ one two subject, ledger.subject one = some subject → ledger.subject two = some subject →
    one = two

variable {config : Config} {region : ℕ → AccountBalance} {ledger after : Memory}
  {key other : MapKey} {assetId : AssetId} {accountId source target : AccountId} {asset : Asset}
  {owner : AccountStruct} {amount balance : Amount} {entry : Balance}

section Subjects

/-- A pair without a withdrawable entry has no record. -/
theorem subject_eq_none : ledger.subject key = none ↔ ledger.kind key ≠ some true := by
  unfold subject kind driveSlot
  cases ledger.accountAssetBalance.lookup key with
  | none => simp
  | some entry => cases entry <;> simp [Balance.slot]

/-- The record of a pair says what the record at its slot does. -/
theorem subject_slot {slot : ℕ}
    (found : ledger.accountAssetBalance.lookup key = some (.withdrawable slot)) :
    ledger.subject key = some (ledger.balances slot).subject := by
  rw [subject, driveSlot_eq.mpr found, Option.map_some]

/-- The record of a registered asset and account says what they are. -/
theorem Drive.subject (drive : ledger.Drive) (store : ledger.Store config)
    (registered : ledger.lassidToAsset.lookup key.1 = some asset)
    (member : ledger.laccidToAccount.lookup key.2 = some owner)
    {subject : UInt32 × Address × Address × TokenId} (said : ledger.subject key = some subject) :
    subject = subjectOf asset owner.account ∧ withdrawable asset owner.account := by
  obtain ⟨slot, placed, rfl⟩ := Option.map_eq_some_iff.mp said
  have found := driveSlot_eq.mp placed
  have known : ledger.account key.2 = some owner.account := by
    rw [account, member, Option.map_some]
  refine ⟨?_, (store.kinds key _ asset owner found registered member).mp rfl⟩
  rw [drive.records key slot asset owner.account found registered known, recordOf_eq]
  rfl

/-- Opening an entry keeps what the other records say. -/
theorem subject_opened_other (slotted : ledger.Slotted) (asset : Asset) (owner : AccountStruct)
    (balance : Amount) (different : other ≠ key) :
    (ledger.opened config key asset owner balance).subject other = ledger.subject other := by
  unfold opened
  by_cases called : withdrawable asset owner.account
  · rw [if_pos called, subject, subject, driveSlot, driveSlot]
    simp only [openWithdrawable, Finmap.lookup_insert_if, if_neg different]
    cases placed : (ledger.accountAssetBalance.lookup other).bind Balance.slot with
    | none => rfl
    | some slot =>
      have inside := slotted.withdrawables.slot_lt placed
      simp only [Option.map_some, if_neg (Nat.ne_of_lt inside)]
  · rw [if_neg called, subject, driveSlot, openVirtual, Finmap.lookup_insert_if, if_neg different]
    rfl

/-- An opened record says what it is of. -/
theorem subject_opened (slotted : ledger.Slotted) (drive : ledger.Drive) (key : MapKey)
    (asset : Asset) (owner : AccountStruct) (balance : Amount) (other : MapKey) :
    (ledger.opened config key asset owner balance).subject other =
      if other = key then
        if withdrawable asset owner.account then some (subjectOf asset owner.account) else none
      else ledger.subject other := by
  by_cases here : other = key
  · rw [if_pos here]
    unfold opened
    by_cases called : withdrawable asset owner.account
    · have found : (ledger.openWithdrawable key asset owner
          balance).accountAssetBalance.lookup other =
            some (.withdrawable ledger.lastBalances.length) := by
        rw [openWithdrawable, Finmap.lookup_insert_if, if_pos here]
      have blank := drive.blank ledger.lastBalances.length (Nat.le_refl _)
      have filled : (ledger.openWithdrawable key asset owner balance).balances
          ledger.lastBalances.length = .describing asset owner.account balance := by
        simp only [openWithdrawable, if_true, blank]
        exact recordOf_eq asset owner.account balance
      rw [if_pos called, if_pos called, subject_slot found, filled]
      rfl
    · rw [if_neg called, if_neg called, subject, driveSlot, openVirtual, Finmap.lookup_insert_if,
        if_pos here]
      rfl
  · rw [if_neg here]
    exact subject_opened_other slotted asset owner balance here

/-- A new amount does not change what a record is of. -/
theorem subject_overwrite (entry : Balance) (balance : Amount) (other : MapKey) :
    (ledger.overwrite entry balance).subject other = ledger.subject other := by
  cases entry with
  | virtual pointer => rfl
  | withdrawable place =>
    have same (slot : ℕ) :
        ((ledger.overwrite (.withdrawable place) balance).balances slot).subject =
        (ledger.balances slot).subject := by
      simp only [overwrite]
      split
      · rw [‹slot = place›]
        rfl
      · rfl
    simp only [subject, same]
    rfl

/-- A closed record says nothing any more, and the others say what they did. -/
theorem subject_close (slotted : ledger.Slotted)
    (found : ledger.accountAssetBalance.lookup key = some entry) (owner : AccountStruct)
    (other : MapKey) :
    (ledger.close key entry owner).subject other =
      if other = key then none else ledger.subject other := by
  have kinds := kind_close slotted found owner other
  by_cases here : other = key
  · rw [if_pos here] at kinds ⊢
    exact subject_eq_none.mpr (by simp [kinds])
  · rw [if_neg here] at kinds ⊢
    cases said : ledger.subject other with
    | none =>
      rw [subject_eq_none] at said ⊢
      rwa [kinds]
    | some subject =>
      obtain ⟨index, placed, rfl⟩ := Option.map_eq_some_iff.mp said
      have there := driveSlot_eq.mp placed
      cases entry with
      | virtual pointer =>
        obtain ⟨lastKey, last, lastPlaced⟩ :=
          slotted.virtuals.last (virtualIndex_eq.mpr ⟨pointer, found, rfl⟩)
        obtain ⟨lastPointer, lastFound, -⟩ := virtualIndex_eq.mp lastPlaced
        have apart : other ≠ lastKey := by
          rintro rfl
          rw [there] at lastFound
          simp at lastFound
        refine subject_slot ?_
        simp only [close, closeVirtual, getLastD_eq last, Finmap.lookup_erase_if, if_neg here,
          Finmap.lookup_insert_if, if_neg apart, there]
      | withdrawable slot =>
        obtain ⟨place, moved, record⟩ := record_closeWithdrawable slotted found owner here there
        rw [close, subject_slot moved, record]
        rfl

/-- A write keeps what the records of the other pairs say. -/
theorem subject_written_other (store : ledger.Store config) (asset : Asset)
    (owner : AccountStruct) (balance : Amount) (different : other ≠ key) :
    (ledger.written config key asset owner balance).subject other = ledger.subject other := by
  unfold written
  cases found : ledger.accountAssetBalance.lookup key with
  | none => exact subject_opened_other store.toSlotted asset owner balance different
  | some entry =>
    have kept := store.overwrite entry balance
    have same := ledger.entries_overwrite entry balance
    dsimp only
    split
    · rw [subject_close kept.toSlotted (same ▸ found), if_neg different, subject_overwrite]
    · exact subject_overwrite entry balance other

/-- A write opens a record for its pair, closes it or keeps what it says; it keeps what the others
say. -/
theorem subject_written (store : ledger.Store config) (drive : ledger.Drive) (key : MapKey)
    (asset : Asset) (owner : AccountStruct) (balance : Amount) (other : MapKey) :
    (ledger.written config key asset owner balance).subject other =
      if other = key then
        if ledger.accountAssetBalance.lookup key = none then
          if withdrawable asset owner.account then some (subjectOf asset owner.account) else none
        else if isZero balance then none else ledger.subject key
      else ledger.subject other := by
  unfold written
  cases found : ledger.accountAssetBalance.lookup key with
  | none => simp only [↓reduceIte, subject_opened store.toSlotted drive]
  | some entry =>
    have kept := store.overwrite entry balance
    have same := ledger.entries_overwrite entry balance
    simp only [reduceCtorEq, ↓reduceIte]
    by_cases zero : isZero balance = true
    · rw [if_pos zero, if_pos zero, subject_close kept.toSlotted (same ▸ found), subject_overwrite]
    · rw [if_neg zero, if_neg zero, subject_overwrite]
      split
      · rw [‹other = key›]
      · rfl

end Subjects

/-- Assets of one type whose records have the same token have the same key. -/
theorem key_of_token {asset other : Asset} (type : asset.type = other.type)
    (address : (if asset.type.HasAddress then asset.tokenAddress else zeros 20) =
      if other.type.HasAddress then other.tokenAddress else zeros 20)
    (tokenId : (if asset.type.HasTokenId then asset.tokenId else zeros 32) =
      if other.type.HasTokenId then other.tokenId else zeros 32) : asset.key = other.key := by
  unfold Asset.key
  rw [← type] at address tokenId ⊢
  cases given : asset.type with
  | id | base => rfl
  | tokenAddress =>
    rw [given] at address
    exact congrArg (fun token => some (addressKey token)) address
  | tokenAddressId | tokenAddressIdAmount =>
    rw [given] at address tokenId
    exact congrArg₂ (fun token id => some (addressIdKey token id)) address tokenId

/-- Two registered assets that say the same are one asset. -/
theorem Registry.asset_injective (registry : ledger.Registry) {one two : AssetId}
    {asset other : Asset} (registered : ledger.lassidToAsset.lookup one = some asset)
    (otherRegistered : ledger.lassidToAsset.lookup two = some other) (keyed : asset.type ≠ .id)
    {account otherAccount : Account}
    (same : subjectOf asset account = subjectOf other otherAccount) : one = two := by
  simp only [subjectOf, AccountBalance.subject, AccountBalance.describing, Prod.mk.injEq] at same
  obtain ⟨code, -, address, tokenId⟩ := same
  have type := AssetType.code_injective code
  by_cases base : asset.type = .base
  · have named := (registry.base one asset registered base).2
    have otherNamed := (registry.base two other otherRegistered (type ▸ base)).2
    exact named.symm.trans otherNamed
  · obtain ⟨assetKey, has⟩ : ∃ assetKey, asset.key = some assetKey := by
      unfold Asset.key
      split
      · contradiction
      · contradiction
      all_goals exact ⟨_, rfl⟩
    have agree := key_of_token type address tokenId
    have first := (registry.assetKeys assetKey one).mpr ⟨asset, registered, has⟩
    have second := (registry.assetKeys assetKey two).mpr
      ⟨other, otherRegistered, agree.symm.trans has⟩
    exact Option.some.inj (first.symm.trans second)

/-- Two registered wallets that say the same are one account. -/
theorem Registry.wallet_injective (registry : ledger.Registry) {one two : AccountId}
    {account other : Account} (member : ledger.account one = some account)
    (otherMember : ledger.account two = some other) (wallet : account.type = .walletAddress)
    (otherWallet : other.type = .walletAddress) {asset otherAsset : Asset}
    (same : subjectOf asset account = subjectOf otherAsset other) : one = two := by
  simp only [subjectOf, AccountBalance.subject, AccountBalance.describing, Prod.mk.injEq] at same
  have address := same.2.1
  have bytes : account.accountId = other.accountId := by
    rw [← walletId_accountAddress (registry.wallets one account member wallet), address,
      walletId_accountAddress (registry.wallets two other otherMember otherWallet)]
  have has : account.key = some account.accountId := Account.key_some (by simp [wallet])
  have otherHas : other.key = some account.accountId :=
    (Account.key_some (by simp [otherWallet])).trans (congrArg some bytes.symm)
  have first := (registry.accountKeys account.accountId one).mpr ⟨account, member, has⟩
  have second := (registry.accountKeys account.accountId two).mpr ⟨other, otherMember, otherHas⟩
  exact Option.some.inj (first.symm.trans second)

/-- A write that opens no record where one was outlived keeps the records apart. -/
theorem Distinct.written (distinct : ledger.Distinct) (sound : ledger.Sound config)
    (drive : ledger.Drive) (key : MapKey)
    (registered : ledger.lassidToAsset.lookup key.1 = some asset)
    (member : ledger.laccidToAccount.lookup key.2 = some owner) (balance : Amount)
    (current : ledger.accountAssetBalance.lookup key = none → ¬ledger.Outlived key) :
    (ledger.written config key asset owner balance).Distinct := by
  have said := subject_written sound.store drive key asset owner balance
  have known : ledger.account key.2 = some owner.account := by
    rw [account, member, Option.map_some]
  -- A record that is opened is the only one that says what it says.
  have alone {other : MapKey} {subject : UInt32 × Address × Address × TokenId}
      (different : other ≠ key)
      (opened : (ledger.written config key asset owner balance).subject key = some subject)
      (there : ledger.subject other = some subject) : False := by
    rw [said, if_pos rfl] at opened
    split at opened
    · split at opened
      · obtain rfl := Option.some.inj opened
        obtain ⟨slot, placed, -⟩ := Option.map_eq_some_iff.mp there
        obtain ⟨holder, present⟩ := sound.store.owned other _ (driveSlot_eq.mp placed)
        have holds : ledger.account other.2 = some holder.account := by
          rw [account, present, Option.map_some]
        cases found : ledger.lassidToAsset.lookup other.1 with
        | none =>
          exact current ‹_› ⟨asset, owner, registered, member, ‹_›, other, found, there⟩
        | some otherAsset =>
          obtain ⟨same, called⟩ := drive.subject sound.store found present there
          have assets := sound.registry.asset_injective registered found
            (And.left ‹withdrawable asset owner.account›) same
          have accounts := sound.registry.wallet_injective known holds
            (And.right ‹withdrawable asset owner.account›) called.2 same
          exact different (Prod.ext assets.symm accounts.symm)
      · contradiction
    · split at opened
      · contradiction
      · exact different (distinct other key subject there opened)
  intro one two subject first second
  by_cases oneHere : one = key
  · by_cases twoHere : two = key
    · exact oneHere.trans twoHere.symm
    · rw [said two, if_neg twoHere] at second
      exact (alone twoHere (oneHere ▸ first) second).elim
  · rw [said one, if_neg oneHere] at first
    by_cases twoHere : two = key
    · exact (alone oneHere (twoHere ▸ second) first).elim
    · rw [said two, if_neg twoHere] at second
      exact distinct one two subject first second

section Transferring

variable {balanceFrom balanceTo : Amount}

/-- What was outlived after a debit was so before it. -/
theorem Outlived.of_debit (store : ledger.Store config) (drive : ledger.Drive)
    (registered : ledger.lassidToAsset.lookup assetId = some asset)
    (sent : ledger.laccidToAccount.lookup source = some owner) (balance : Amount)
    (outlived : (ledger.written config (assetId, source) asset owner balance).Outlived key) :
    ledger.Outlived key := by
  have same := sameRegistry_written config (assetId, source) sent asset balance
  obtain ⟨found, holder, there, present, called, other, gone, said⟩ := outlived
  rw [same.assets] at there gone
  obtain ⟨owner', member, accounts⟩ : ∃ owner', ledger.laccidToAccount.lookup key.2 = some owner' ∧
      owner'.account = holder.account := by
    have known := same.accounts key.2
    rw [account, account, present, Option.map_some] at known
    exact Option.map_eq_some_iff.mp known.symm
  have apart : other ≠ (assetId, source) := by
    rintro rfl
    rw [registered] at gone
    contradiction
  rw [subject_written store drive, if_neg apart] at said
  rw [← accounts] at called said
  exact ⟨found, owner', there, member, called, other, gone, said⟩

/-- A credit that finds no entry and room after the debit opens one. -/
theorem opens_credit (store : ledger.Store config)
    (accepts : ledger.view.AcceptsTransfer assetId source target amount asset balanceFrom
      balanceTo)
    (still : ¬(ledger.written config (assetId, source) asset owner
      (amountCheckedSub balanceFrom amount).1).Full config (assetId, target))
    (fresh : (ledger.written config (assetId, source) asset owner
      (amountCheckedSub balanceFrom amount).1).accountAssetBalance.lookup
        (assetId, target) = none) :
    ledger.Opens config (assetId, target) (.transfer assetId source target amount) := by
  have kinds := kind_written store (assetId, source) asset owner
    (amountCheckedSub balanceFrom amount).1 (assetId, target)
  rw [if_neg fun pair => accepts.different (Prod.mk.inj pair).2.symm,
    kind_eq_none.mpr fresh] at kinds
  have room := Nat.not_le.mp fun full => still ⟨fresh, full⟩
  have limited := store.limited
  rw [size_written store] at room
  refine .inr ⟨rfl, kind_eq_none.mp kinds.symm, ?_⟩
  by_cases absent : ledger.accountAssetBalance.lookup (assetId, source) = none
  · rw [if_pos absent] at room ⊢
    exact room
  · rw [if_neg absent] at room ⊢
    split at room
    · right
      have spent := (isZero_iff _).mp ‹_›
      rw [amountCheckedSub_toNat accepts.enough] at spent
      have enough := accepts.enough
      rw [balanceOf_eq accepts.heldFrom]
      omega
    · exact .inl room

end Transferring

/-- Every step that reopens none keeps the records apart. -/
theorem Step.distinct {request : Call} {response : Response}
    (step : Step config ledger request response after) (sound : ledger.Sound config)
    (drive : ledger.Drive) (distinct : ledger.Distinct)
    (permitted : ledger.ReopensNone config request) : after.Distinct := by
  have roomy {key : MapKey} (room : ¬ledger.Full config key)
      (fresh : ledger.accountAssetBalance.lookup key = none) :
      ledger.accountAssetBalance.size < config.maxBalances :=
    Nat.not_le.mp fun full => room ⟨fresh, full⟩
  cases step with
  | refused => exact distinct
  | asset result => cases result <;> exact distinct
  | account result => cases result <;> exact distinct
  | balance => exact distinct
  | deposit accepts member room =>
    refine distinct.written sound drive (_, _) accepts.registered member _ fun fresh => ?_
    apply permitted _ (accepts_deposit accepts)
    exact ⟨rfl, fresh, roomy room fresh⟩
  | withdraw accepts member room =>
    refine distinct.written sound drive (_, _) accepts.registered member _ fun fresh => ?_
    apply permitted _ (accepts_withdraw accepts)
    exact ⟨rfl, fresh, roomy room fresh⟩
  | transfer accepts sent room debit received still =>
    subst debit
    have accepted := accepts_transfer accepts
    refine Distinct.written
      (distinct.written sound drive (_, _) accepts.registered sent _ fun fresh => ?debited)
      (sound.written room accepts.registered sent _)
      (drive.written sound.store (_, _) accepts.registered sent _) (_, _)
      (registered_written (_, _) sent _ _ accepts.registered) received _
      fun fresh outlived => ?credited
    case debited =>
      exact permitted _ accepted (.inl ⟨rfl, fresh, roomy room fresh⟩)
    case credited =>
      exact permitted _ accepted (opens_credit sound.store accepts still fresh)
        (outlived.of_debit sound.store drive accepts.registered sent _)
  | stranded accepts sent room debit =>
    subst debit
    refine distinct.written sound drive (_, _) accepts.registered sent _ fun fresh => ?_
    apply permitted _ (accepts_transfer accepts)
    exact .inl ⟨rfl, fresh, roomy room fresh⟩
  | clear =>
    intro one two subject first
    simp [Memory.subject, driveSlot, Memory.clear, Finmap.lookup_empty] at first

/-- Where the asset of every entry is registered, no call reopens one. -/
theorem reopensNone_of_live {request : Call} (live : ∀ key ∈ ledger.accountAssetBalance.keys,
    ledger.lassidToAsset.lookup key.1 ≠ none) : ledger.ReopensNone config request := by
  rintro key - - ⟨asset, owner, -, -, -, other, gone, said⟩
  obtain ⟨slot, placed, -⟩ := Option.map_eq_some_iff.mp said
  exact live other ((Finmap.mem_keys_iff _ _).mpr ⟨_, driveSlot_eq.mp placed⟩) gone

/-- No two records in use say the same. -/
def OneRecordEach (ledger : Memory) : Prop :=
  ∀ one two, one < ledger.getBalancesSize → two < ledger.getBalancesSize →
    (ledger.balances one).subject = (ledger.balances two).subject → one = two

/-- There is one record for each balance after any run over zeros that reopens none. -/
theorem oneRecordEach_of_reopensNone (config : Config) (ledger : Memory)
    (reachable : Reachable config (fun _ => .zero) (ReopensNone config) ledger) :
    ledger.OneRecordEach := by
  have distinct : ledger.Distinct := by
    refine reachable.kept Distinct ?_ ?_
    · intro one two subject first
      simp [Memory.subject, driveSlot, empty, Finmap.lookup_empty] at first
    · intro state request response after step reached distinct permitted
      exact step.distinct reached.sound reached.drive distinct permitted
  have slotted := reachable.sound.store.toSlotted
  intro one two oneUsed twoUsed same
  have firstFound := (slotted.placed one _).mp (List.getElem?_eq_getElem oneUsed)
  have secondFound := (slotted.placed two _).mp (List.getElem?_eq_getElem twoUsed)
  have keys := distinct _ _ _ (subject_slot firstFound) (same ▸ subject_slot secondFound)
  rw [keys, secondFound] at firstFound
  exact (Balance.withdrawable.inj (Option.some.inj firstFound)).symm

/-- A wallet holds the base asset and a token. -/
theorem oneRecordEach_pair : ∃ ledger,
    Reachable fewBalances (fun _ => .zero) (ReopensNone fewBalances) ledger ∧
      ledger.getBalancesSize = 2 ∧ ledger.OneRecordEach := by
  obtain ⟨ledger, live, pair⟩ := exists_permitted fewBalances (fun _ => .zero)
    (fun state _ => ∀ key ∈ state.accountAssetBalance.keys,
      state.lassidToAsset.lookup key.1 ≠ none)
    [retrieveToken .create, createBase, createWallet, .deposit 0 0 oneAmount,
      .deposit 1 0 oneAmount] (by decide +kernel) getBalancesSize 2 (by decide +kernel)
  have reachable : Reachable fewBalances (fun _ => .zero) (ReopensNone fewBalances) ledger :=
    live.weaken fun _ _ live => reopensNone_of_live live
  exact ⟨ledger, reachable, pair, oneRecordEach_of_reopensNone _ ledger reachable⟩

/-- A withdrawal of nothing leaves a record of zero, which outlives its asset; the token is
registered again, and a deposit makes a second record of it. -/
theorem removal_not_oneRecordEach :
    ¬∀ config ledger, Reachable config (fun _ => .zero) AnyCall ledger →
      ledger.OneRecordEach := by
  intro always
  obtain ⟨ledger, reachable, facts⟩ := exists_reachable fewBalances (fun _ => .zero)
    [retrieveToken .create, createWallet, .withdraw 0 0 (zeros 32),
      retrieveToken .findAndRemove, retrieveToken .create, .deposit 1 0 oneAmount]
    (fun ledger => (ledger.getBalancesSize,
      decide ((ledger.balances 0).subject = (ledger.balances 1).subject))) (2, true)
    (by decide +kernel)
  simp only [Prod.mk.injEq, decide_eq_true_eq] at facts
  obtain ⟨two, same⟩ := facts
  have equal := always _ ledger reachable 0 1 (by omega) (by omega) same
  exact absurd equal (by decide)

end Memory

end Libcma

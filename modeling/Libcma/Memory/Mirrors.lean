import Libcma.Memory.BaseAsset

/-!
# A new ledger and a cleared one

Two memory ledgers side by side, one that started empty and one that was cleared. The cleared one
issues ids where it left off, so what the new one calls 0 it calls by its counter at the reset. The
relation `Mirrors` says that, up to this renaming, the two hold the same assets, accounts, entries
and balances; each of the changes a call can make keeps it.
-/

namespace Libcma

/-- A renaming of the asset ids and of the account ids. -/
structure Renaming where
  /-- What asset ids become. -/
  assets : Equiv.Perm AssetId
  /-- What account ids become. -/
  accounts : Equiv.Perm AccountId

namespace Renaming

variable (names : Renaming)

/-- The variables of `retrieve_asset` with the id renamed. -/
def assetArgs (args : AssetArgs) : AssetArgs :=
  { args with assetId := args.assetId.map names.assets }

/-- The variables of `retrieve_account` with the id renamed. -/
def accountArgs (args : AccountArgs) : AccountArgs :=
  { args with accountId := args.accountId.map names.accounts }

/-- A call with its ids renamed. -/
def call : Call → Call
  | .retrieveAsset args operation => .retrieveAsset (names.assetArgs args) operation
  | .retrieveAccount args operation => .retrieveAccount (names.accountArgs args) operation
  | .getBalance assetId accountId balance info =>
    .getBalance (names.assets assetId) (names.accounts accountId) balance info
  | .deposit assetId toAccountId deposit =>
    .deposit (names.assets assetId) (names.accounts toAccountId) deposit
  | .withdraw assetId fromAccountId withdrawal =>
    .withdraw (names.assets assetId) (names.accounts fromAccountId) withdrawal
  | .transfer assetId fromAccountId toAccountId amount =>
    .transfer (names.assets assetId) (names.accounts fromAccountId)
      (names.accounts toAccountId) amount
  | .clear => .clear

/-- The id written is renamed. -/
theorem assetArgs_withId (args : AssetArgs) (assetId : AssetId) :
    names.assetArgs (args.withId assetId) =
      (names.assetArgs args).withId (names.assets assetId) := by
  unfold assetArgs AssetArgs.withId
  cases args.assetId <;> rfl

/-- What is copied out of an account is not renamed. -/
theorem accountArgs_fill (args : AccountArgs) (account : Account) (nBalances : Option ℕ) :
    names.accountArgs (args.fill account nBalances) =
      (names.accountArgs args).fill account nBalances := rfl

/-- The id written is renamed. -/
theorem accountArgs_withId (args : AccountArgs) (accountId : AccountId) :
    names.accountArgs (args.withId accountId) =
      (names.accountArgs args).withId (names.accounts accountId) := by
  unfold accountArgs AccountArgs.withId
  cases args.accountId <;> rfl

/-- The type copied is not renamed. -/
theorem accountArgs_copyType (args : AccountArgs) :
    names.accountArgs args.copyType = (names.accountArgs args).copyType := by
  obtain ⟨_, account, _, _, _⟩ := args
  cases account <;> rfl

/-- The id of a created account is renamed, and nothing else is. -/
theorem accountArgs_created (args : AccountArgs) (account : Account) (accountId : AccountId) :
    names.accountArgs (Memory.answerCreated args account accountId) =
      Memory.answerCreated (names.accountArgs args) account (names.accounts accountId) := by
  obtain ⟨given, _, _, _, _⟩ := args
  cases given <;> rfl

end Renaming

/-- The id of the asset in an output. -/
def Output.assetId : Output → Option AssetId
  | .asset args => args.assetId
  | _ => none

/-- The id of the account in an output. -/
def Output.accountId : Output → Option AccountId
  | .account args => args.accountId
  | _ => none

/-- The types, keys, supplies and balances of an output, without its ids and without the place of
a record. -/
def Output.values : Output → Output
  | .asset args => .asset { args with assetId := none }
  | .account args => .account { args with accountId := none }
  | .balance amount _ => .balance amount none
  | .nothing => .nothing

/-- Two responses are the same up to a renaming of ids. -/
structure Response.Like (names : Renaming) (one two : Response) : Prop where
  /-- The same error, or none on both sides. -/
  error : two.error = one.error
  /-- The same values. -/
  values : two.output.values = one.output.values
  /-- The asset id, renamed. -/
  assetId : one.error = none →
    two.output.assetId = one.output.assetId.map names.assets
  /-- The account id, renamed. -/
  accountId : one.error = none →
    two.output.accountId = one.output.accountId.map names.accounts

/-- The permutation that takes the ids below a limit up by a distance, and the ids this displaces
down below that distance. -/
def shiftIds (limit distance : ℕ) : Equiv.Perm ℕ where
  toFun id := if id < limit then id + distance else if id < limit + distance then id - limit else id
  invFun id :=
    if id < distance then id + limit else if id < limit + distance then id - distance else id
  left_inv id := by
    dsimp only
    repeat' split
    all_goals omega
  right_inv id := by
    dsimp only
    repeat' split
    all_goals omega

/-- Ids below the limit are shifted. -/
theorem shiftIds_of_lt {limit id : ℕ} (below : id < limit) (distance : ℕ) :
    shiftIds limit distance id = id + distance := if_pos below

namespace Memory

/-- The ids a new ledger issues, renamed to the ids a ledger issues from its counters on. -/
def shift (config : Config) (ledger : Memory) : Renaming :=
  ⟨shiftIds config.maxAssets ledger.nextAssetId, shiftIds config.maxAccounts ledger.nextAccountId⟩

/-- The base asset noted is one from before the reset. -/
def Stale (start ledger : Memory) : Prop :=
  ledger.baseAssetIdDefined = true ∧ ledger.baseAssetId < start.nextAssetId

instance (start ledger : Memory) : Decidable (start.Stale ledger) :=
  inferInstanceAs (Decidable (_ ∧ _))

/-- A ledger that started empty, and one that started as `start` left it when it was cleared. -/
structure Mirrors (config : Config) (start fresh again : Memory) : Prop where
  /-- The same assets. -/
  assets : ∀ assetId, again.lassidToAsset.lookup ((start.shift config).assets assetId) =
    fresh.lassidToAsset.lookup assetId
  /-- The same asset keys, for the renamed ids. -/
  assetKeys : ∀ key, again.assetToLassid.lookup key =
    (fresh.assetToLassid.lookup key).map (start.shift config).assets
  /-- The same accounts, with the same counts. -/
  accounts : ∀ accountId,
    again.laccidToAccount.lookup ((start.shift config).accounts accountId) =
      fresh.laccidToAccount.lookup accountId
  /-- The same account keys, for the renamed ids. -/
  accountKeys : ∀ key, again.accountToLaccid.lookup key =
    (fresh.accountToLaccid.lookup key).map (start.shift config).accounts
  /-- The same entries, of the same kinds. -/
  kinds : ∀ assetId accountId, again.kind
    ((start.shift config).assets assetId, (start.shift config).accounts accountId) =
      fresh.kind (assetId, accountId)
  /-- The same balances. -/
  amounts : ∀ assetId accountId, again.amount ((start.shift config).assets assetId)
    ((start.shift config).accounts accountId) = fresh.amount assetId accountId
  /-- As many entries. -/
  size : again.accountAssetBalance.size = fresh.accountAssetBalance.size
  /-- The asset counter is ahead by what was issued before the reset. -/
  nextAsset : again.nextAssetId = fresh.nextAssetId + start.nextAssetId
  /-- The account counter is ahead by what was issued before the reset. -/
  nextAccount : again.nextAccountId = fresh.nextAccountId + start.nextAccountId
  /-- No asset is from before the reset. -/
  recent : ∀ assetId asset, again.lassidToAsset.lookup assetId = some asset →
    start.nextAssetId ≤ assetId
  /-- Where the base asset of before the reset is still noted, the new ledger has none. -/
  stale : start.Stale again → fresh.baseAssetIdDefined = false
  /-- Otherwise both note the same base asset. -/
  base : ¬start.Stale again → again.baseAssetIdDefined = fresh.baseAssetIdDefined ∧
    (fresh.baseAssetIdDefined = true →
      again.baseAssetId = (start.shift config).assets fresh.baseAssetId)

variable {config : Config} {start fresh again : Memory} {assetId : AssetId}
  {accountId : AccountId} {asset : Asset} {owner : AccountStruct}

/-- How many balances an account counts after a write. -/
def countAfter (ledger : Memory) (key : MapKey) (count : ℕ) (balance : Amount) : ℕ :=
  if ledger.kind key = none then count + 1 else if isZero balance then count - 1 else count

/-- After a write, the account of the pair counts anew, and the others are what they were. -/
theorem accounts_written (ledger : Memory) {key : MapKey}
    (member : ledger.laccidToAccount.lookup key.2 = some owner) (asset : Asset) (balance : Amount)
    (other : AccountId) :
    (ledger.written config key asset owner balance).laccidToAccount.lookup other =
      if other = key.2 then
        some { owner with nBalances := ledger.countAfter key owner.nBalances balance }
      else ledger.laccidToAccount.lookup other := by
  have kept (same : other = key.2) : ledger.laccidToAccount.lookup other = some owner :=
    same ▸ member
  unfold Memory.written countAfter
  cases found : ledger.accountAssetBalance.lookup key with
  | none =>
    rw [if_pos (kind_eq_none.mpr found)]
    dsimp only
    unfold opened
    split <;> exact Finmap.lookup_insert_if _ _ _ _
  | some entry =>
    have held : ¬ledger.kind key = none := by simp [kind_eq_none, found]
    rw [if_neg held]
    dsimp only
    split
    · cases entry <;> exact Finmap.lookup_insert_if _ _ _ _
    · rw [accounts_overwrite]
      split
      · exact kept ‹_›
      · rfl

namespace Mirrors

/-- The next asset ids correspond, while there is room. -/
theorem next_asset (mirrors : Mirrors config start fresh again)
    (room : fresh.nextAssetId < config.maxAssets) :
    again.nextAssetId = (start.shift config).assets fresh.nextAssetId :=
  mirrors.nextAsset.trans (shiftIds_of_lt room _).symm

/-- The next account ids correspond, while there is room. -/
theorem next_account (mirrors : Mirrors config start fresh again)
    (room : fresh.nextAccountId < config.maxAccounts) :
    again.nextAccountId = (start.shift config).accounts fresh.nextAccountId :=
  mirrors.nextAccount.trans (shiftIds_of_lt room _).symm

/-- A new ledger and one just cleared. -/
theorem of_clear (based : start.Based) (region : ℕ → AccountBalance) :
    Mirrors config start (empty region) start.clear := by
  constructor
  case stale => exact fun _ => rfl
  case base =>
    intro current
    cases defined : start.baseAssetIdDefined with
    | false => exact ⟨defined, by simp [Memory.empty]⟩
    | true => exact absurd ⟨defined, based.issued defined⟩ current
  all_goals simp [Memory.empty, Memory.clear, kind, amount, stored, Finmap.lookup_empty]

/-- Both ledgers are cleared. -/
theorem clear (mirrors : Mirrors config start fresh again) :
    Mirrors config start fresh.clear again.clear := by
  constructor
  case nextAsset => exact mirrors.nextAsset
  case nextAccount => exact mirrors.nextAccount
  case stale => exact mirrors.stale
  case base => exact mirrors.base
  all_goals simp [Memory.clear, kind, amount, stored, Finmap.lookup_empty]

/-- Both ledgers register the same asset. -/
theorem addAsset (mirrors : Mirrors config start fresh again)
    (room : fresh.nextAssetId < config.maxAssets) (asset : Asset) :
    Mirrors config start (fresh.addAsset asset) (again.addAsset asset) := by
  have next := mirrors.next_asset room
  have issued : start.nextAssetId ≤ again.nextAssetId := by
    rw [mirrors.nextAsset]
    exact Nat.le_add_left _ _
  refine { mirrors with
    assets := ?assets, assetKeys := ?assetKeys, nextAsset := ?nextAsset, recent := ?recent,
    stale := ?stale, base := ?base }
  case assets =>
    intro other
    simp only [Memory.addAsset, Finmap.lookup_insert_if, next, Equiv.apply_eq_iff_eq,
      mirrors.assets]
  case assetKeys =>
    intro key
    simp only [Memory.addAsset, Finmap.lookup_insertKey, mirrors.assetKeys, next]
    split <;> rfl
  case nextAsset =>
    simp only [Memory.addAsset, mirrors.nextAsset]
    exact Nat.add_right_comm _ _ _
  case recent =>
    intro other found there
    simp only [Memory.addAsset, Finmap.lookup_insert_if] at there
    split at there
    · rw [‹other = again.nextAssetId›]
      exact issued
    · exact mirrors.recent other found there
  case stale =>
    rintro ⟨defined, old⟩
    simp only [Memory.addAsset] at defined old ⊢
    split at defined
    · rw [if_pos ‹_›] at old
      exact absurd old (Nat.not_lt.mpr issued)
    · rw [if_neg ‹_›] at old ⊢
      exact mirrors.stale ⟨defined, old⟩
  case base =>
    intro current
    by_cases base : asset.type = .base
    · simp only [Memory.addAsset, if_pos base]
      exact ⟨trivial, fun _ => next⟩
    · simp only [Stale, Memory.addAsset, if_neg base] at current ⊢
      exact mirrors.base current

/-- Both ledgers remove the same asset. -/
theorem dropAsset (mirrors : Mirrors config start fresh again) (assetId : AssetId)
    (asset : Asset) :
    Mirrors config start (fresh.dropAsset assetId asset)
      (again.dropAsset ((start.shift config).assets assetId) asset) := by
  refine { mirrors with
    assets := ?assets, assetKeys := ?assetKeys, recent := ?recent, stale := ?stale,
    base := ?base }
  case assets =>
    intro other
    simp only [Memory.dropAsset, Finmap.lookup_erase_if, Equiv.apply_eq_iff_eq, mirrors.assets]
  case assetKeys =>
    intro key
    simp only [Memory.dropAsset, Finmap.lookup_eraseKey, mirrors.assetKeys]
    split <;> rfl
  case recent =>
    intro other found there
    simp only [Memory.dropAsset, Finmap.lookup_erase_if] at there
    split at there
    · contradiction
    · exact mirrors.recent other found there
  case stale =>
    rintro ⟨defined, old⟩
    simp only [Memory.dropAsset] at defined ⊢
    split at defined
    · contradiction
    · rw [if_neg ‹_›]
      exact mirrors.stale ⟨defined, old⟩
  case base =>
    intro current
    by_cases base : asset.type = .base
    · simp only [Memory.dropAsset, if_pos base]
      exact ⟨trivial, fun defined => absurd defined Bool.false_ne_true⟩
    · simp only [Stale, Memory.dropAsset, if_neg base] at current ⊢
      exact mirrors.base current

/-- Both ledgers register the same account. -/
theorem addAccount (mirrors : Mirrors config start fresh again)
    (room : fresh.nextAccountId < config.maxAccounts) (account : Account) :
    Mirrors config start (fresh.addAccount account) (again.addAccount account) := by
  have next := mirrors.next_account room
  refine { mirrors with
    accounts := ?accounts, accountKeys := ?accountKeys, nextAccount := ?nextAccount }
  case accounts =>
    intro other
    simp only [Memory.addAccount, Finmap.lookup_insert_if, next, Equiv.apply_eq_iff_eq,
      mirrors.accounts]
  case accountKeys =>
    intro key
    simp only [Memory.addAccount, Finmap.lookup_insertKey, mirrors.accountKeys, next]
    split <;> rfl
  case nextAccount =>
    simp only [Memory.addAccount, mirrors.nextAccount]
    exact Nat.add_right_comm _ _ _

/-- Both ledgers remove the same account. -/
theorem dropAccount (mirrors : Mirrors config start fresh again) (accountId : AccountId)
    (account : Account) :
    Mirrors config start (fresh.dropAccount accountId account)
      (again.dropAccount ((start.shift config).accounts accountId) account) := by
  refine { mirrors with accounts := ?accounts, accountKeys := ?accountKeys }
  case accounts =>
    intro other
    simp only [Memory.dropAccount, Finmap.lookup_erase_if, Equiv.apply_eq_iff_eq,
      mirrors.accounts]
  case accountKeys =>
    intro key
    simp only [Memory.dropAccount, Finmap.lookup_eraseKey, mirrors.accountKeys]
    split <;> rfl

/-- Both ledgers set the same supply. -/
theorem supplied (mirrors : Mirrors config start fresh again)
    (registered : fresh.lassidToAsset.lookup assetId = some asset) (supply : Amount) :
    Mirrors config start (fresh.supplied assetId asset supply)
      (again.supplied ((start.shift config).assets assetId) asset supply) := by
  refine { mirrors with assets := ?assets, recent := ?recent }
  case assets =>
    intro other
    simp only [Memory.supplied, Finmap.lookup_insert_if, Equiv.apply_eq_iff_eq, mirrors.assets]
  case recent =>
    intro other found there
    simp only [Memory.supplied, Finmap.lookup_insert_if] at there
    split at there
    · rw [‹other = _›]
      exact mirrors.recent _ asset ((mirrors.assets assetId).trans registered)
    · exact mirrors.recent other found there

/-- The base asset of before the reset is gone. -/
theorem stale_absent (mirrors : Mirrors config start fresh again) (stale : start.Stale again) :
    again.lassidToAsset.lookup again.baseAssetId = none := by
  cases registered : again.lassidToAsset.lookup again.baseAssetId with
  | none => rfl
  | some asset => exact absurd stale.2 (Nat.not_lt.mpr (mirrors.recent _ asset registered))

/-- A pair has an entry in both ledgers or in neither. -/
theorem entry_none (mirrors : Mirrors config start fresh again) :
    again.accountAssetBalance.lookup ((start.shift config).assets assetId,
      (start.shift config).accounts accountId) = none ↔
        fresh.accountAssetBalance.lookup (assetId, accountId) = none := by
  rw [← kind_eq_none, ← kind_eq_none, mirrors.kinds]

/-- A write is refused by both ledgers or by neither. -/
theorem full (mirrors : Mirrors config start fresh again) (assetId : AssetId)
    (accountId : AccountId) :
    again.Full config ((start.shift config).assets assetId,
      (start.shift config).accounts accountId) ↔ fresh.Full config (assetId, accountId) := by
  unfold Full
  rw [mirrors.entry_none, mirrors.size]

/-- Both ledgers write the same balance. -/
theorem written (mirrors : Mirrors config start fresh again) (freshStore : fresh.Store config)
    (againStore : again.Store config) (assetId : AssetId)
    (member : fresh.laccidToAccount.lookup accountId = some owner) (asset : Asset)
    (balance : Amount) :
    Mirrors config start (fresh.written config (assetId, accountId) asset owner balance)
      (again.written config ((start.shift config).assets assetId,
        (start.shift config).accounts accountId) asset owner balance) := by
  have likewise := (mirrors.accounts accountId).trans member
  have one := sameRegistry_written config (assetId, accountId) member asset balance
  have two := sameRegistry_written config ((start.shift config).assets assetId,
    (start.shift config).accounts accountId) likewise asset balance
  constructor
  case assets =>
    rw [one.assets, two.assets]
    exact mirrors.assets
  case assetKeys =>
    rw [one.assetKeys, two.assetKeys]
    exact mirrors.assetKeys
  case accounts =>
    intro other
    rw [accounts_written fresh member, accounts_written again likewise]
    simp only [countAfter, mirrors.kinds, Equiv.apply_eq_iff_eq, mirrors.accounts]
  case accountKeys =>
    rw [one.accountKeys, two.accountKeys]
    exact mirrors.accountKeys
  case kinds =>
    intro other who
    rw [kind_written freshStore, kind_written againStore]
    simp only [Prod.mk.injEq, Equiv.apply_eq_iff_eq, mirrors.entry_none, mirrors.kinds]
  case amounts =>
    intro other who
    unfold amount
    rw [stored_written freshStore, stored_written againStore]
    simp only [Prod.mk.injEq, Equiv.apply_eq_iff_eq]
    split
    · rfl
    · exact mirrors.amounts other who
  case size =>
    rw [size_written freshStore, size_written againStore]
    simp only [mirrors.entry_none, mirrors.size]
  case nextAsset =>
    rw [one.nextAsset, two.nextAsset]
    exact mirrors.nextAsset
  case nextAccount =>
    rw [one.nextAccount, two.nextAccount]
    exact mirrors.nextAccount
  case recent =>
    rw [two.assets]
    exact mirrors.recent
  case stale =>
    unfold Stale
    rw [one.baseDefined, two.baseDefined, two.baseId]
    exact mirrors.stale
  case base =>
    unfold Stale
    rw [one.baseDefined, one.baseId, two.baseDefined, two.baseId]
    exact mirrors.base

end Mirrors

end Memory

end Libcma

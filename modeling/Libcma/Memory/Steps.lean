import Libcma.Memory.Calls
import Libcma.Memory.Drive

/-!
# What every call keeps

Each of the changes a call can make keeps the invariants, and so does every step.
-/

namespace Libcma

open Exec

namespace Memory

variable {config : Config} {ledger after : Memory} {key : MapKey} {assetId : AssetId}
  {accountId : AccountId} {asset : Asset} {owner : AccountStruct} {balance supply : Amount}

/-- A pair with an entry after a write had one before, or is the pair written for. -/
theorem lookup_written (store : ledger.Store config) (asset : Asset) (owner : AccountStruct)
    (balance : Amount) {other : MapKey} {entry : Balance}
    (found : (ledger.written config key asset owner balance).accountAssetBalance.lookup other =
      some entry) :
    other = key ∨ ∃ before, ledger.accountAssetBalance.lookup other = some before := by
  by_cases same : other = key
  · exact .inl same
  · have kept := kind_written store key asset owner balance other
    rw [if_neg same, kind, kind, found, Option.map_some] at kept
    obtain ⟨before, there, -⟩ := Option.map_eq_some_iff.mp kept.symm
    exact .inr ⟨before, there⟩

/-- A write keeps the invariant. -/
theorem Sound.written (sound : ledger.Sound config) (room : ¬ledger.Full config key)
    (registered : ledger.lassidToAsset.lookup key.1 = some asset)
    (member : ledger.laccidToAccount.lookup key.2 = some owner) (balance : Amount) :
    (ledger.written config key asset owner balance).Sound config := by
  have same := sameRegistry_written config key member asset balance
  refine ⟨sound.registry.same same, sound.store.written room registered member balance, ?_⟩
  intro other entry found
  rw [same.nextAsset]
  rcases lookup_written sound.store asset owner balance found with rfl | ⟨before, there⟩
  · exact sound.registry.assetIds _ asset registered
  · exact sound.issued other before there

/-- A new supply keeps the registry. -/
theorem Registry.supplied (registry : ledger.Registry)
    (registered : ledger.lassidToAsset.lookup assetId = some asset) (supply : Amount) :
    (ledger.supplied assetId asset supply).Registry := by
  -- Only the supply differs, so what holds of the new record holds of the old one.
  have recorded {other : AssetId} {found : Asset}
      (there : (ledger.supplied assetId asset supply).lassidToAsset.lookup other = some found) :
      ∃ before, ledger.lassidToAsset.lookup other = some before ∧ found.key = before.key ∧
        found.type = before.type ∧ (Plain before → Plain found) := by
    simp only [Memory.supplied, Finmap.lookup_insert_if] at there
    split at there
    · rw [← Option.some.inj there, ‹other = assetId›]
      exact ⟨asset, registered, rfl, rfl, id⟩
    · exact ⟨found, there, rfl, rfl, id⟩
  refine ⟨?assetKeys, registry.accountKeys, ?assetIds, registry.accountIds, ?base, ?plain,
    registry.wallets⟩
  case assetKeys =>
    exact registry.assetKeys.replace { asset with supply := supply } registered rfl fun _ =>
      Finmap.lookup_insert_if ..
  case assetIds =>
    intro other found there
    obtain ⟨before, was, -⟩ := recorded there
    exact registry.assetIds other before was
  case base =>
    intro other found there type
    obtain ⟨before, was, -, same, -⟩ := recorded there
    exact registry.base other before was (same ▸ type)
  case plain =>
    intro other found there
    obtain ⟨before, was, -, -, plain⟩ := recorded there
    exact plain (registry.plain other before was)

/-- A new supply keeps the invariant. -/
theorem Sound.supplied (sound : ledger.Sound config)
    (registered : ledger.lassidToAsset.lookup assetId = some asset) (supply : Amount) :
    (ledger.supplied assetId asset supply).Sound config := by
  refine ⟨sound.registry.supplied registered supply, { sound.store with kinds := ?_ },
    sound.issued⟩
  intro key entry other owner found there member
  simp only [Memory.supplied, Finmap.lookup_insert_if] at there
  split at there
  · rw [← Option.some.inj there]
    exact sound.store.kinds key entry asset owner found (‹key.1 = assetId› ▸ registered) member
  · exact sound.store.kinds key entry other owner found there member

/-- A new asset keeps the invariant. -/
theorem Sound.addAsset (sound : ledger.Sound config)
    (fresh : ∀ key, asset.key = some key → ledger.assetToLassid.lookup key = none)
    (single : asset.type = .base → ledger.baseAssetIdDefined = false) (plain : Plain asset) :
    (ledger.addAsset asset).Sound config := by
  refine ⟨sound.registry.addAsset fresh single plain, { sound.store with kinds := ?_ }, ?_⟩
  · intro key entry other owner found there member
    simp only [Memory.addAsset, Finmap.lookup_insert_if] at there
    split at there
    · exact absurd (sound.issued key entry found) (Nat.not_lt.mpr (Nat.le_of_eq (Eq.symm ‹_›)))
    · exact sound.store.kinds key entry other owner found there member
  · exact fun key entry found => Nat.lt_succ_of_lt (sound.issued key entry found)

/-- The removal of an asset keeps the invariant. -/
theorem Sound.dropAsset (sound : ledger.Sound config)
    (registered : ledger.lassidToAsset.lookup assetId = some asset) :
    (ledger.dropAsset assetId asset).Sound config := by
  refine ⟨sound.registry.dropAsset registered, { sound.store with kinds := ?_ }, sound.issued⟩
  intro key entry other owner found there member
  simp only [Memory.dropAsset, Finmap.lookup_erase_if] at there
  split at there
  · contradiction
  · exact sound.store.kinds key entry other owner found there member

/-- No entry is of the next account. -/
theorem Sound.account_unheld (sound : ledger.Sound config) {entry : Balance}
    (found : ledger.accountAssetBalance.lookup key = some entry) :
    key.2 ≠ ledger.nextAccountId := by
  intro next
  obtain ⟨owner, member⟩ := sound.store.owned key entry found
  rw [next, sound.registry.account_fresh] at member
  contradiction

/-- A new account keeps the invariant. -/
theorem Sound.addAccount (sound : ledger.Sound config) {added : Account}
    (fresh : ∀ key, added.key = some key → ledger.accountToLaccid.lookup key = none)
    (wallet : added.type = .walletAddress → accountFix added.accountId = zeros 12) :
    (ledger.addAccount added).Sound config := by
  refine ⟨sound.registry.addAccount fresh wallet, { sound.store with
    owned := ?owned, counted := ?counted, kinds := ?kinds }, sound.issued⟩
  case owned =>
    intro key entry found
    obtain ⟨owner, member⟩ := sound.store.owned key entry found
    simp only [Memory.addAccount, Finmap.lookup_insert_if]
    exact ⟨owner, (if_neg (sound.account_unheld found)).trans member⟩
  case counted =>
    intro accountId owner member
    simp only [Memory.addAccount, Finmap.lookup_insert_if] at member
    split at member
    · -- The new account counts nothing, and holds nothing.
      rw [← Option.some.inj member, ‹accountId = _›]
      refine (Finset.card_eq_zero.mpr ?_).symm
      refine Finset.filter_eq_empty_iff.mpr fun key present same => ?_
      obtain ⟨entry, found⟩ := (Finmap.mem_keys_iff _ _).mp present
      exact sound.account_unheld found same
    · exact sound.store.counted accountId owner member
  case kinds =>
    intro key entry asset owner found registered member
    simp only [Memory.addAccount, Finmap.lookup_insert_if,
      if_neg (sound.account_unheld found)] at member
    exact sound.store.kinds key entry asset owner found registered member

/-- An account that counts no balance has no entry. -/
theorem Sound.unheld (sound : ledger.Sound config)
    (member : ledger.laccidToAccount.lookup accountId = some owner) (empty : owner.nBalances = 0)
    (assetId : AssetId) : ledger.accountAssetBalance.lookup (assetId, accountId) = none :=
  Finmap.lookup_of_countKeys_zero (·.2 = accountId)
    ((sound.store.counted accountId owner member).symm.trans empty) rfl

/-- The removal of an account without balances keeps the invariant. -/
theorem Sound.dropAccount (sound : ledger.Sound config)
    (member : ledger.laccidToAccount.lookup accountId = some owner)
    (empty : owner.nBalances = 0) : (ledger.dropAccount accountId owner.account).Sound config := by
  have registered : ledger.account accountId = some owner.account := by
    rw [account, member, Option.map_some]
  have apart {key : MapKey} {entry : Balance}
      (found : ledger.accountAssetBalance.lookup key = some entry) : key.2 ≠ accountId := by
    rintro rfl
    have none := sound.unheld member empty key.1
    rw [Prod.mk.eta, found] at none
    contradiction
  refine ⟨sound.registry.dropAccount registered, { sound.store with
    owned := ?owned, counted := ?counted, kinds := ?kinds }, sound.issued⟩
  case owned =>
    intro key entry found
    obtain ⟨other, present⟩ := sound.store.owned key entry found
    simp only [Memory.dropAccount, Finmap.lookup_erase_if]
    exact ⟨other, (if_neg (apart found)).trans present⟩
  case counted =>
    intro other found present
    simp only [Memory.dropAccount, Finmap.lookup_erase_if] at present
    split at present
    · contradiction
    · exact sound.store.counted other found present
  case kinds =>
    intro key entry asset other found registered present
    simp only [Memory.dropAccount, Finmap.lookup_erase_if, if_neg (apart found)] at present
    exact sound.store.kinds key entry asset other found registered present

/-- Any ledger without assets, accounts and entries is sound. -/
theorem sound_of_blank (assets : ledger.lassidToAsset = ∅) (assetKeys : ledger.assetToLassid = ∅)
    (accounts : ledger.laccidToAccount = ∅) (accountKeys : ledger.accountToLaccid = ∅)
    (entries : ledger.accountAssetBalance = ∅) (virtuals : ledger.lastVirtualBalances = [])
    (withdrawables : ledger.lastBalances = []) (elems : ledger.virtualBalances.elems = []) :
    ledger.Sound config := by
  have none (accountId : AccountId) : ledger.account accountId = Option.none := by
    rw [account, accounts, Finmap.lookup_empty, Option.map_none]
  refine ⟨?registry, ⟨?slotted, ?tallied⟩, ?issued⟩
  case registry =>
    constructor <;>
      simp [assets, assetKeys, accountKeys, none, funext none, Finmap.lookup_empty,
        Finmap.names_empty]
  case slotted =>
    constructor <;>
      simp [Slots.Indexes, virtualIndex, driveSlot, entries, virtuals, withdrawables, elems,
        Finmap.lookup_empty]
  case tallied =>
    constructor <;> simp [entries, accounts, Finmap.lookup_empty]
  case issued => simp [entries, Finmap.lookup_empty]

/-- A new ledger is sound. -/
theorem sound_empty (config : Config) (drive : ℕ → AccountBalance) :
    (empty drive).Sound config :=
  sound_of_blank rfl rfl rfl rfl rfl rfl rfl rfl

/-- A cleared ledger is sound. -/
theorem sound_clear (config : Config) (ledger : Memory) : ledger.clear.Sound config :=
  sound_of_blank rfl rfl rfl rfl rfl rfl rfl rfl

/-- The asset is still registered after a write. -/
theorem registered_written (key : MapKey)
    (member : ledger.laccidToAccount.lookup key.2 = some owner)
    (written : Asset) (balance : Amount)
    (registered : ledger.lassidToAsset.lookup assetId = some asset) :
    (ledger.written config key written owner balance).lassidToAsset.lookup assetId =
      some asset :=
  (congrArg (Finmap.lookup assetId)
    (sameRegistry_written config key member written balance).assets).trans registered

/-- Every step keeps the invariant. -/
theorem Step.sound {request : Call} {response : Response}
    (step : Step config ledger request response after) (sound : ledger.Sound config) :
    after.Sound config := by
  cases step with
  | refused => exact sound
  | asset result =>
    cases result with
    | found => exact sound
    | added asset _ _ _ _ fresh single _ plain => exact sound.addAsset fresh single plain
    | removed assetId asset _ present => exact sound.dropAsset present
  | account result =>
    cases result with
    | found => exact sound
    | added account _ _ _ _ fresh wallet => exact sound.addAccount fresh wallet
    | removed accountId owner _ present empty => exact sound.dropAccount present empty
  | balance => exact sound
  | deposit accepts member room =>
    exact (sound.written room accepts.registered member _).supplied
      (registered_written (_, _) member _ _ accepts.registered) _
  | withdraw accepts member room =>
    exact (sound.written room accepts.registered member _).supplied
      (registered_written (_, _) member _ _ accepts.registered) _
  | transfer accepts sent room debit received still =>
    subst debit
    exact (sound.written room accepts.registered sent _).written still
      (registered_written (_, _) sent _ _ accepts.registered) received _
  | stranded accepts sent room debit =>
    subst debit
    exact sound.written room accepts.registered sent _
  | clear => exact sound_clear config ledger

/-- A new supply keeps the drive. -/
theorem Drive.supplied (drive : ledger.Drive)
    (registered : ledger.lassidToAsset.lookup assetId = some asset) (supply : Amount) :
    (ledger.supplied assetId asset supply).Drive := by
  refine ⟨fun key slot other account found there member => ?_, drive.blank, drive.padded⟩
  simp only [Memory.supplied, Finmap.lookup_insert_if] at there
  split at there
  · rw [← Option.some.inj there]
    exact drive.records key slot asset account found (‹key.1 = assetId› ▸ registered) member
  · exact drive.records key slot other account found there member

/-- A new asset keeps the drive. -/
theorem Drive.addAsset (drive : ledger.Drive) (sound : ledger.Sound config) (added : Asset) :
    (ledger.addAsset added).Drive := by
  refine ⟨fun key slot asset account found there member => ?_, drive.blank, drive.padded⟩
  have old := Nat.ne_of_lt (sound.issued key _ found)
  simp only [Memory.addAsset, Finmap.lookup_insert_if, if_neg old] at there
  exact drive.records key slot asset account found there member

/-- The removal of an asset keeps the drive. -/
theorem Drive.dropAsset (drive : ledger.Drive) (assetId : AssetId) (asset : Asset) :
    (ledger.dropAsset assetId asset).Drive := by
  refine ⟨fun key slot other account found there member => ?_, drive.blank, drive.padded⟩
  simp only [Memory.dropAsset, Finmap.lookup_erase_if] at there
  split at there
  · contradiction
  · exact drive.records key slot other account found there member

/-- A new account keeps the drive. -/
theorem Drive.addAccount (drive : ledger.Drive) (sound : ledger.Sound config) (added : Account) :
    (ledger.addAccount added).Drive := by
  refine ⟨fun key slot asset account found there member => ?_, drive.blank, drive.padded⟩
  rw [account_addAccount, if_neg (sound.account_unheld found)] at member
  exact drive.records key slot asset account found there member

/-- The removal of an account keeps the drive. -/
theorem Drive.dropAccount (drive : ledger.Drive) (accountId : AccountId) (account : Account) :
    (ledger.dropAccount accountId account).Drive := by
  refine ⟨fun key slot asset other found there member => ?_, drive.blank, drive.padded⟩
  rw [account_dropAccount] at member
  split at member
  · contradiction
  · exact drive.records key slot asset other found there member

/-- A new ledger over zeros has its drive in order. -/
theorem drive_empty : (empty fun _ => .zero).Drive :=
  ⟨by simp [empty, Finmap.lookup_empty], fun _ _ => rfl, fun _ => rfl⟩

/-- A cleared ledger has its drive in order. -/
theorem Drive.clear (drive : ledger.Drive) : ledger.clear.Drive := by
  refine ⟨by simp [Memory.clear, Finmap.lookup_empty], fun slot _ => ?_, fun slot => ?_⟩
  · simp only [Memory.clear]
    split
    · rfl
    · exact drive.blank slot (Nat.not_lt.mp ‹_›)
  · simp only [Memory.clear]
    split
    · rfl
    · exact drive.padded slot

/-- Every step keeps the drive. -/
theorem Step.drive {request : Call} {response : Response}
    (step : Step config ledger request response after) (sound : ledger.Sound config)
    (drive : ledger.Drive) : after.Drive := by
  cases step with
  | refused => exact drive
  | asset result =>
    cases result with
    | found => exact drive
    | added asset => exact drive.addAsset sound asset
    | removed assetId asset => exact drive.dropAsset assetId asset
  | account result =>
    cases result with
    | found => exact drive
    | added account => exact drive.addAccount sound account
    | removed accountId owner => exact drive.dropAccount accountId owner.account
  | balance => exact drive
  | deposit accepts member room =>
    exact (drive.written sound.store (_, _) accepts.registered member _).supplied
      (registered_written (_, _) member _ _ accepts.registered) _
  | withdraw accepts member room =>
    exact (drive.written sound.store (_, _) accepts.registered member _).supplied
      (registered_written (_, _) member _ _ accepts.registered) _
  | transfer accepts sent room debit received still =>
    subst debit
    exact (drive.written sound.store (_, _) accepts.registered sent _).written
      (sound.written room accepts.registered sent _).store (_, _)
      (registered_written (_, _) sent _ _ accepts.registered) received _
  | stranded accepts sent room debit =>
    subst debit
    exact drive.written sound.store (_, _) accepts.registered sent _
  | clear => exact drive.clear

end Memory

end Libcma

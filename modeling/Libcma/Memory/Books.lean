import Libcma.Lib.Book
import Libcma.Memory.Steps

/-!
# The book of a memory ledger

A memory ledger keeps a book of supplies and holdings. Every step is an honest move of that book,
except a transfer whose credit finds the table of balances full after its debit was written.
-/

namespace Libcma

open Exec

namespace Memory

/-- The supplies and holdings a ledger keeps. -/
def book (ledger : Memory) : Book AssetId AccountId where
  supply assetId := (ledger.lassidToAsset.lookup assetId).map fun asset => asset.supply.toNat
  members := ledger.laccidToAccount.keys
  holding assetId accountId := (ledger.amount assetId accountId).toNat

/-- A transfer whose credit is refused once its debit is written: the debit leaves the sender an
entry, so that no room is made in a full table, and the receiver has no entry. -/
def Strands (config : Config) (ledger : Memory) (assetId : AssetId) (source target : AccountId)
    (amount : Amount) : Prop :=
  (∃ asset balanceFrom balanceTo, ledger.view.AcceptsTransfer assetId source target amount asset
    balanceFrom balanceTo ∧ amount.toNat ≠ balanceFrom.toNat) ∧
  amount.toNat ≠ 0 ∧ ledger.accountAssetBalance.lookup (assetId, target) = none ∧
  config.maxBalances ≤ ledger.accountAssetBalance.size

variable {config : Config} {ledger after : Memory} {assetId : AssetId}
  {accountId source target : AccountId} {asset : Asset} {owner : AccountStruct}
  {balance supply amount : Amount}

/-- A registered account is a member of the book. -/
theorem mem_members (member : ledger.laccidToAccount.lookup accountId = some owner) :
    accountId ∈ ledger.book.members :=
  (Finmap.mem_keys_iff _ _).mpr ⟨owner, member⟩

/-- The book has the supply of a registered asset. -/
theorem book_supply (registered : ledger.lassidToAsset.lookup assetId = some asset) :
    ledger.book.supply assetId = some asset.supply.toNat := by
  simp only [book, registered, Option.map_some]

/-- The book has every balance that can be read. -/
theorem book_holding (held : ledger.view.balance assetId accountId = some balance) :
    ledger.book.holding assetId accountId = balance.toNat :=
  congrArg List.Vector.toNat (balanceOf_eq held)

/-- Only registered accounts hold anything. -/
theorem Sound.contained (sound : ledger.Sound config) : ledger.book.Contained := by
  intro assetId accountId outside
  cases found : ledger.accountAssetBalance.lookup (assetId, accountId) with
  | none =>
    change (ledger.stored (assetId, accountId)).toNat = 0
    rw [stored_none found, toNat_zeros]
  | some entry =>
    obtain ⟨owner, member⟩ := sound.store.owned _ entry found
    exact absurd (mem_members member) outside

/-- The book after a write. -/
theorem book_written (sound : ledger.Sound config)
    (member : ledger.laccidToAccount.lookup accountId = some owner) (asset : Asset)
    (balance : Amount) :
    (ledger.written config (assetId, accountId) asset owner balance).book =
      ledger.book.put assetId accountId balance.toNat := by
  have same := sameRegistry_written config (assetId, accountId) member asset balance
  refine Book.ext ?supply ?members ?holding
  case supply =>
    funext other
    change Option.map _ (Finmap.lookup other (Memory.lassidToAsset _)) = _
    rw [same.assets]
    rfl
  case members =>
    ext other
    have known := congrArg Option.isSome (same.accounts other)
    rw [account, account, Option.isSome_map, Option.isSome_map] at known
    change other ∈ Finmap.keys (Memory.laccidToAccount _) ↔ other ∈ ledger.laccidToAccount.keys
    rw [Finmap.mem_keys_iff, Finmap.mem_keys_iff, ← Option.isSome_iff_exists,
      ← Option.isSome_iff_exists, known]
  case holding =>
    funext other who
    change (Memory.stored _ (other, who)).toNat =
      if _ then _ else (ledger.stored (other, who)).toNat
    rw [stored_written sound.store]
    by_cases here : other = assetId ∧ who = accountId
    · rw [if_pos here, if_pos (by rw [here.1, here.2])]
    · rw [if_neg here, if_neg fun pair => here (Prod.mk.inj pair)]

/-- The book after a new supply. -/
theorem book_supplied (ledger : Memory) (assetId : AssetId) (asset : Asset) (supply : Amount) :
    (ledger.supplied assetId asset supply).book =
      ledger.book.record assetId (some supply.toNat) := by
  refine Book.ext ?_ rfl rfl
  funext other
  simp only [book, supplied, Book.record, Finmap.lookup_insert_if]
  split <;> rfl

/-- A new asset is issued without supply. -/
theorem book_addAsset (sound : ledger.Sound config) (unsupplied : asset.supply = zeros 32) :
    Book.Move ledger.book (ledger.addAsset asset).book := by
  have same : (ledger.addAsset asset).book =
      ledger.book.record ledger.nextAssetId (some 0) := by
    refine Book.ext ?_ rfl rfl
    funext other
    simp only [book, addAsset, Book.record, Finmap.lookup_insert_if]
    split
    · rw [Option.map_some, unsupplied, toNat_zeros]
    · rfl
  rw [same]
  refine .issue _ ?_
  simp only [book, sound.registry.asset_fresh, Option.map_none]

/-- A removed asset has no supply. -/
theorem book_dropAsset (registered : ledger.lassidToAsset.lookup assetId = some asset)
    (unsupplied : asset.supply.toNat = 0) :
    Book.Move ledger.book (ledger.dropAsset assetId asset).book := by
  have same : (ledger.dropAsset assetId asset).book = ledger.book.record assetId none := by
    refine Book.ext ?_ rfl rfl
    funext other
    simp only [book, dropAsset, Book.record, Finmap.lookup_erase_if]
    split <;> rfl
  rw [same]
  refine .retire _ ?_
  simp only [book, registered, Option.map_some, unsupplied]

/-- A new account joins. -/
theorem book_addAccount (ledger : Memory) (added : Account) :
    Book.Move ledger.book (ledger.addAccount added).book := by
  have same : (ledger.addAccount added).book =
      { ledger.book with members := insert ledger.nextAccountId ledger.book.members } :=
    Book.ext rfl (Finmap.keys_insert ..) rfl
  rw [same]
  exact .join _

/-- A removed account holds nothing. -/
theorem book_dropAccount (sound : ledger.Sound config)
    (member : ledger.laccidToAccount.lookup accountId = some owner)
    (empty : owner.nBalances = 0) :
    Book.Move ledger.book (ledger.dropAccount accountId owner.account).book := by
  have same : (ledger.dropAccount accountId owner.account).book =
      { ledger.book with members := ledger.book.members.erase accountId } :=
    Book.ext rfl (Finmap.keys_erase ..) rfl
  rw [same]
  refine .leave _ fun assetId => ?_
  change (ledger.stored (assetId, accountId)).toNat = 0
  rw [stored_none (sound.unheld member empty assetId), toNat_zeros]

/-- A pair that finds the table full after a write for another had no entry before. -/
theorem full_written (store : ledger.Store config) (different : source ≠ target)
    (full : (ledger.written config (assetId, source) asset owner balance).Full config
      (assetId, target)) :
    ledger.accountAssetBalance.lookup (assetId, target) = none ∧
      config.maxBalances ≤
        if ledger.accountAssetBalance.lookup (assetId, source) = none then
          ledger.accountAssetBalance.size + 1
        else if isZero balance then ledger.accountAssetBalance.size - 1
        else ledger.accountAssetBalance.size := by
  have kept := kind_written store (assetId, source) asset owner balance (assetId, target)
  rw [if_neg fun pair => different (Prod.mk.inj pair).2.symm, kind_eq_none.mpr full.1] at kept
  exact ⟨kind_eq_none.mp kept.symm,
    size_written store (assetId, source) asset owner balance ▸ full.2⟩

/-- A sender with something to send has an entry. -/
theorem held_present {balance : Amount} (held : ledger.view.balance assetId source = some balance)
    (positive : balance.toNat ≠ 0) :
    ledger.accountAssetBalance.lookup (assetId, source) ≠ none := by
  intro absent
  have stored : ledger.stored (assetId, source) = balance := balanceOf_eq held
  rw [← stored, stored_none absent, toNat_zeros] at positive
  exact positive rfl

/-- A transfer that ends after its first write strands what it moved, if it moved anything. -/
theorem strands_of_full (store : ledger.Store config) {balanceFrom balanceTo : Amount}
    (accepts : ledger.view.AcceptsTransfer assetId source target amount asset balanceFrom
      balanceTo)
    (full : (ledger.written config (assetId, source) asset owner
      (amountCheckedSub balanceFrom amount).1).Full config (assetId, target))
    (positive : amount.toNat ≠ 0) : ledger.Strands config assetId source target amount := by
  obtain ⟨absent, crowded⟩ := full_written store accepts.different full
  have enough := accepts.enough
  have present := held_present accepts.heldFrom (by omega)
  have limited := store.limited
  obtain ⟨entry, found⟩ := Option.ne_none_iff_exists'.mp present
  have occupied := Finmap.size_pos found
  rw [if_neg present] at crowded
  split at crowded
  · omega
  · have left := mt (isZero_iff _).mpr ‹_›
    rw [amountCheckedSub_toNat enough] at left
    exact ⟨⟨asset, balanceFrom, balanceTo, accepts, by omega⟩, positive, absent, crowded⟩

/-- The book after the debit of a transfer. -/
theorem book_debit (sound : ledger.Sound config) {balanceFrom balanceTo : Amount}
    (accepts : ledger.view.AcceptsTransfer assetId source target amount asset balanceFrom
      balanceTo)
    (sent : ledger.laccidToAccount.lookup source = some owner) :
    (ledger.written config (assetId, source) asset owner
        (amountCheckedSub balanceFrom amount).1).book =
      ledger.book.put assetId source (ledger.book.holding assetId source - amount.toNat) := by
  rw [book_written sound sent, amountCheckedSub_toNat accepts.enough,
    book_holding accepts.heldFrom]

/-- Every step is an honest move of the book, or a transfer that strands what it moves. -/
theorem Step.book {request : Call} {response : Response}
    (step : Step config ledger request response after) (sound : ledger.Sound config) :
    Book.Move ledger.book after.book ∨
      Book.Lossy ledger.book after.book ∧ ∃ assetId source target amount,
        request = .transfer assetId source target amount ∧
        ledger.Strands config assetId source target amount := by
  cases step with
  | refused => exact .inl .stay
  | asset result =>
    left
    cases result with
    | found => exact .stay
    | added asset _ _ _ _ _ _ unsupplied => exact book_addAsset sound unsupplied
    | removed assetId asset _ present unsupplied => exact book_dropAsset present unsupplied
  | account result =>
    left
    cases result with
    | found => exact .stay
    | added account => exact book_addAccount ledger account
    | removed accountId owner _ present empty => exact book_dropAccount sound present empty
  | balance => exact .inl .stay
  | @deposit assetId accountId amount asset balance owner accepts member =>
    left
    rw [book_supplied, book_written sound member, amountCheckedAdd_toNat accepts.balanceFits,
      amountCheckedAdd_toNat accepts.supplyFits, ← book_holding accepts.held]
    exact .deposit assetId accountId amount.toNat asset.supply.toNat (mem_members member)
      (book_supply accepts.registered)
  | @withdraw assetId accountId amount asset balance owner accepts member =>
    left
    have enough := accepts.enough
    rw [← book_holding accepts.held] at enough
    rw [book_supplied, book_written sound member, amountCheckedSub_toNat accepts.enough,
      amountCheckedSub_toNat accepts.supplied, ← book_holding accepts.held]
    exact .withdraw assetId accountId amount.toNat asset.supply.toNat (mem_members member)
      (book_supply accepts.registered) enough accepts.supplied
  | @transfer assetId source target amount asset balanceFrom balanceTo sender receiver middle
      accepts sent room debit received still =>
    left
    subst debit
    have enough := accepts.enough
    rw [← book_holding accepts.heldFrom] at enough
    obtain ⟨receiver', present⟩ := view_member accepts.receiver
    rw [book_written (sound.written room accepts.registered sent _) received,
      book_debit sound accepts sent, amountCheckedAdd_toNat accepts.balanceFits,
      ← book_holding accepts.heldTo]
    exact .transfer assetId source target amount.toNat (mem_members sent) (mem_members present)
      accepts.different enough
  | @stranded assetId source target amount asset balanceFrom balanceTo sender middle accepts sent
      room debit full =>
    subst debit
    have enough := accepts.enough
    rw [← book_holding accepts.heldFrom] at enough
    rw [book_debit sound accepts sent]
    by_cases nothing : amount.toNat = 0
    · left
      have same : ledger.book.put assetId source (ledger.book.holding assetId source -
          amount.toNat) = ledger.book := by
        refine Book.ext rfl rfl ?_
        funext other who
        simp only [Book.put, nothing, Nat.sub_zero]
        split
        · rw [(‹other = assetId ∧ who = source›).1, (‹other = assetId ∧ who = source›).2]
        · rfl
      rw [same]
      exact .stay
    · right
      exact ⟨.loss assetId source amount.toNat (mem_members sent) enough,
        assetId, source, target, amount, rfl,
        strands_of_full sound.store accepts full nothing⟩
  | clear => exact .inl .clear

end Memory

end Libcma

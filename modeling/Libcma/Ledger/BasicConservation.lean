import Libcma.Ledger.BasicSteps

/-!
# Conservation in the basic ledger

Every step of a basic ledger is an honest move of its book, so that supplies are the sums of the
balances reported in every reachable ledger.
-/

namespace Libcma

namespace Basic

/-- The supplies and holdings a ledger keeps. -/
def book (ledger : Basic) : Book AssetId AccountId where
  supply assetId := (ledger.lassidToAsset.lookup assetId).map fun asset => asset.supply.toNat
  members := ledger.laccidToAccount.keys
  holding assetId accountId := (ledger.amount assetId accountId).toNat

variable {ledger after : Basic} {assetId : AssetId} {accountId source target : AccountId}
  {asset : Asset} {amount balance supply : Amount}

/-- A registered account is a member of the book. -/
theorem mem_members (member : ledger.view.account accountId = true) :
    accountId ∈ ledger.book.members :=
  (Finmap.mem_keys_iff _ _).mpr (Option.isSome_iff_exists.mp member)

/-- The book has the supply of a registered asset. -/
theorem book_supply (registered : ledger.lassidToAsset.lookup assetId = some asset) :
    ledger.book.supply assetId = some asset.supply.toNat := by
  simp only [book, registered, Option.map_some]

/-- The book has every balance reported. -/
theorem book_holding (held : ledger.view.balance assetId accountId = some balance) :
    ledger.book.holding assetId accountId = balance.toNat :=
  congrArg List.Vector.toNat (Option.some.inj held)

/-- The book after a write. -/
theorem book_written (ledger : Basic) (assetId : AssetId) (accountId : AccountId)
    (balance : Amount) :
    (ledger.written assetId accountId balance).book =
      ledger.book.put assetId accountId balance.toNat := by
  refine Book.ext rfl rfl ?_
  funext other who
  simp only [book, written, Book.put, Basic.amount, Finmap.lookup_insert_if]
  by_cases here : other = assetId ∧ who = accountId
  · rw [if_pos here, if_pos (by rw [here.1, here.2]), Option.getD_some]
  · rw [if_neg here, if_neg fun pair => here (Prod.mk.inj pair)]

/-- The book after a new supply. -/
theorem book_supplied (ledger : Basic) (assetId : AssetId) (asset : Asset) (supply : Amount) :
    (ledger.supplied assetId asset supply).book =
      ledger.book.record assetId (some supply.toNat) := by
  refine Book.ext ?_ rfl rfl
  funext other
  simp only [book, supplied, Book.record, Finmap.lookup_insert_if]
  split <;> rfl

/-- A new asset is issued without supply. -/
theorem book_addAsset (sound : ledger.Sound) (addable : ledger.Addable asset) :
    Book.Move ledger.book (ledger.addAsset asset).book := by
  have same : (ledger.addAsset asset).book =
      ledger.book.record ledger.getAssetCount (some 0) := by
    refine Book.ext ?_ rfl rfl
    funext other
    simp only [book, addAsset, Book.record, Finmap.lookup_insert_if]
    split
    · rw [Option.map_some, addable.unsupplied, toNat_zeros]
    · rfl
  rw [same]
  refine .issue _ ?_
  simp only [book, sound.asset_fresh, Option.map_none]

/-- A new account joins. -/
theorem book_addAccount (ledger : Basic) (added : Account) :
    Book.Move ledger.book (ledger.addAccount added).book := by
  have same : (ledger.addAccount added).book =
      { ledger.book with members := insert ledger.getAccountCount ledger.book.members } :=
    Book.ext rfl (Finmap.keys_insert ..) rfl
  rw [same]
  exact .join _

/-- Every step is an honest move of the book. -/
theorem Step.book {request : Call} {response : Response}
    (step : Step ledger request response after) (sound : ledger.Sound) :
    Book.Move ledger.book after.book := by
  cases step with
  | refused => exact .stay
  | asset _ _ _ result =>
    rcases result with rfl | ⟨asset, addable, rfl⟩
    · exact .stay
    · exact book_addAsset sound addable
  | account _ _ _ result =>
    rcases result with rfl | ⟨account, -, rfl⟩
    · exact .stay
    · exact book_addAccount ledger account
  | balance => exact .stay
  | @deposit assetId accountId amount asset balance accepts =>
    rw [book_supplied, book_written, amountCheckedAdd_toNat accepts.balanceFits,
      amountCheckedAdd_toNat accepts.supplyFits, ← book_holding accepts.held]
    exact .deposit assetId accountId amount.toNat asset.supply.toNat (mem_members accepts.member)
      (book_supply accepts.registered)
  | @withdraw assetId accountId amount asset balance accepts =>
    have enough := accepts.enough
    rw [← book_holding accepts.held] at enough
    rw [book_supplied, book_written, amountCheckedSub_toNat accepts.enough,
      amountCheckedSub_toNat accepts.supplied, ← book_holding accepts.held]
    exact .withdraw assetId accountId amount.toNat asset.supply.toNat (mem_members accepts.member)
      (book_supply accepts.registered) enough accepts.supplied
  | @transfer assetId source target amount asset balanceFrom balanceTo accepts =>
    have enough := accepts.enough
    rw [← book_holding accepts.heldFrom] at enough
    rw [book_written, book_written, amountCheckedSub_toNat accepts.enough,
      amountCheckedAdd_toNat accepts.balanceFits, ← book_holding accepts.heldTo,
      ← book_holding accepts.heldFrom]
    exact .transfer assetId source target amount.toNat (mem_members accepts.sender)
      (mem_members accepts.receiver) accepts.different enough
  | clear => exact .clear

/-- The ledgers reached from a new one by any calls. -/
def Reachable (ledger : Basic) : Prop := Run.Reaches call (fun _ _ => True) empty ledger

/-- Every reachable ledger is sound. -/
theorem Reachable.sound (reachable : Reachable ledger) : ledger.Sound :=
  reachable.invariant Sound sound_empty fun _ _ _ _ sound _ called =>
    (call_step sound called).sound sound

/-- Every reachable ledger keeps a balanced book. -/
theorem Reachable.balanced (reachable : Reachable ledger) : ledger.book.Balanced := by
  have both : ledger.Sound ∧ ledger.book.Balanced := by
    refine reachable.invariant (fun state => state.Sound ∧ state.book.Balanced)
      ⟨sound_empty, Book.blank_balanced⟩ ?_
    rintro state request next response ⟨sound, balanced⟩ - called
    have step := call_step sound called
    exact ⟨step.sound sound, balanced.move (step.book sound)⟩
  exact both.2

/-- A call of `get_account_asset_balance` reports a balance. -/
def Reported (ledger : Basic) (assetId : AssetId) (accountId : AccountId) (balance : Amount) :
    Prop :=
  ∀ asked, ledger.call (.getBalance assetId accountId (some asked) none) =
    some (ledger, ⟨none, .balance (some balance) none⟩)

/-- The supply of every registered asset is the sum of the balances reported of it. -/
def Conserved (ledger : Basic) : Prop :=
  ∀ assetId asset, ledger.lassidToAsset.lookup assetId = some asset →
    ∃ balance : AccountId → Amount,
      (∀ accountId, ledger.Reported assetId accountId (balance accountId)) ∧
      (∀ accountId, accountId ∉ ledger.laccidToAccount.keys → (balance accountId).toNat = 0) ∧
      asset.supply.toNat = ∑ accountId ∈ ledger.laccidToAccount.keys, (balance accountId).toNat ∧
      ∑ accountId ∈ ledger.laccidToAccount.keys, (balance accountId).toNat < 2 ^ 256

/-- A call moves the supply of an asset by a change that says what the new supply is. -/
def MovesSupply (ledger after : Basic) (assetId : AssetId) (change : ℕ → ℕ → Prop) : Prop :=
  ∃ before now, ledger.lassidToAsset.lookup assetId = some before ∧
    after.lassidToAsset.lookup assetId = some now ∧ change before.supply.toNat now.supply.toNat

/-- Supplies and balances agree after any run; deposits and withdrawals move the supply by their
amount, and transfers leave it. -/
theorem conserved_of_reachable (ledger : Basic) (reachable : Reachable ledger) :
    ledger.Conserved ∧
    (∀ assetId accountId amount after output,
      ledger.call (.deposit assetId accountId amount) = some (after, ⟨none, output⟩) →
      MovesSupply ledger after assetId fun before now => now = before + amount.toNat) ∧
    (∀ assetId accountId amount after output,
      ledger.call (.withdraw assetId accountId amount) = some (after, ⟨none, output⟩) →
      MovesSupply ledger after assetId fun before now => now + amount.toNat = before) ∧
    ∀ assetId source target amount after output,
      ledger.call (.transfer assetId source target amount) = some (after, ⟨none, output⟩) →
      after.lassidToAsset = ledger.lassidToAsset := by
  refine ⟨fun assetId asset registered => ?conserved,
    fun assetId accountId amount after output called => ?deposit,
    fun assetId accountId amount after output called => ?withdraw,
    fun assetId source target amount after output called => ?transfer⟩
  case conserved =>
    have exact := reachable.balanced.exact assetId
    rw [Book.outstanding, book_supply registered, Option.getD_some] at exact
    refine ⟨ledger.amount assetId, fun accountId asked => rfl,
      reachable.balanced.contained assetId, exact.symm, ?_⟩
    change ledger.book.total assetId < _
    rw [exact]
    exact amount_lt asset.supply
  case deposit =>
    cases call_step reachable.sound called with
    | @deposit _ _ _ asset balance accepts =>
      refine ⟨asset, _, accepts.registered, Finmap.lookup_insert _, ?_⟩
      exact amountCheckedAdd_toNat accepts.supplyFits
  case withdraw =>
    cases call_step reachable.sound called with
    | @withdraw _ _ _ asset balance accepts =>
      refine ⟨asset, _, accepts.registered, Finmap.lookup_insert _, ?_⟩
      dsimp only
      rw [amountCheckedSub_toNat accepts.supplied]
      exact Nat.sub_add_cancel accepts.supplied
  case transfer =>
    cases call_step reachable.sound called with
    | transfer accepts => rfl

/-- An account is given two units and gives one back. -/
theorem conserved_roundTrip : ∃ ledger, Reachable ledger ∧ ledger.Conserved := by
  obtain ⟨ledger, reachable, -⟩ := Run.exists_reaches call (fun _ _ => True) empty
    [createIdAsset, createIdAccount, .deposit 0 0 (smallAmount 2), .withdraw 0 0 (smallAmount 1)]
    (by decide +kernel) (fun _ => ()) () (by decide +kernel)
  exact ⟨ledger, reachable, (conserved_of_reachable ledger reachable).1⟩

end Basic

end Libcma

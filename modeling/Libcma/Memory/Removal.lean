import Libcma.Memory.History

/-!
# Removing assets and accounts

What a removal takes away held nothing, nothing else changes, and the id is never issued again, so
that whatever is registered later starts from zero.
-/

namespace Libcma

open Exec

namespace Memory

/-- The asset id is not in use and no call answers with it. -/
def AssetSilent (config : Config) (ledger : Memory) (assetId : AssetId) : Prop :=
  ledger.lassidToAsset.lookup assetId = none ∧
    ∀ args operation after answer,
      ledger.call config (.retrieveAsset args operation) = some (after, ⟨none, .asset answer⟩) →
      answer.assetId ≠ some assetId

/-- The account id is not in use and no call answers with it. -/
def AccountSilent (config : Config) (ledger : Memory) (accountId : AccountId) : Prop :=
  ledger.laccidToAccount.lookup accountId = none ∧
    ∀ args operation after answer,
      ledger.call config (.retrieveAccount args operation) =
        some (after, ⟨none, .account answer⟩) →
      answer.accountId ≠ some accountId

/-- The asset that was asked for is removed, and nothing else. -/
structure AssetRemoved (config : Config) (ledger after : Memory) (args answer : AssetArgs)
    (assetId : AssetId) (asset : Asset) : Prop where
  /-- The asset was registered. -/
  registered : ledger.lassidToAsset.lookup assetId = some asset
  /-- It is the one with the key asked for, or with the id when there is no key. -/
  sought : (∀ key, args.requestedKey = some key → asset.key = some key) ∧
    (args.requestedKey = none → args.assetId = some assetId)
  /-- Its id is the answer. -/
  answered : answer.assetId = args.assetId.map fun _ => assetId
  /-- No account held any of it. -/
  unheld : ∀ accountId, (ledger.amount assetId accountId).toNat = 0
  /-- No balance of it was reported but zero. -/
  unreported : ∀ accountId balance, ledger.Reported config assetId accountId balance →
    balance.toNat = 0
  /-- Its key leads nowhere. -/
  unkeyed : ∀ key, asset.key = some key → after.assetToLassid.lookup key = none
  /-- It is not found under its key. -/
  unfound : ∀ key sought next found, asset.key = some key → sought.requestedKey = some key →
    after.call config (.retrieveAsset sought .find) ≠ some (next, ⟨none, .asset found⟩)
  /-- The other assets, with their supplies, are what they were. -/
  assets : ∀ other, other ≠ assetId →
    after.lassidToAsset.lookup other = ledger.lassidToAsset.lookup other
  /-- The accounts are what they were. -/
  accounts : after.laccidToAccount = ledger.laccidToAccount
  /-- The balances are what they were. -/
  balances : after.amount = ledger.amount ∧ after.balanceOf = ledger.balanceOf
  /-- From now on the id is not in use, and no call answers with it. -/
  silent : ∀ later, Leads config after later → later.AssetSilent config assetId

/-- The account that was asked for is removed, and nothing else. -/
structure AccountRemoved (config : Config) (ledger after : Memory) (args answer : AccountArgs)
    (accountId : AccountId) (account : Account) : Prop where
  /-- The account was registered. -/
  registered : ledger.account accountId = some account
  /-- It is the one with the key asked for, or with the id when there is no key. -/
  sought : (∀ requested, args.requested = some requested →
      account.key = some requested.accountId) ∧
    (args.requested = none → args.accountId = some accountId)
  /-- Its id is the answer. -/
  answered : answer.accountId = args.accountId.map fun _ => accountId
  /-- It held nothing. -/
  unheld : ∀ assetId, (ledger.amount assetId accountId).toNat = 0
  /-- No balance of it was reported but zero. -/
  unreported : ∀ assetId balance, ledger.Reported config assetId accountId balance →
    balance.toNat = 0
  /-- Its key leads nowhere. -/
  unkeyed : ∀ key, account.key = some key → after.accountToLaccid.lookup key = none
  /-- It is not found under its key. -/
  unfound : ∀ sought requested next found, sought.requested = some requested →
    account.key = some requested.accountId →
    after.call config (.retrieveAccount sought .find) ≠ some (next, ⟨none, .account found⟩)
  /-- The other accounts are what they were. -/
  accounts : ∀ other, other ≠ accountId →
    after.laccidToAccount.lookup other = ledger.laccidToAccount.lookup other
  /-- The assets, with their supplies, are what they were. -/
  assets : after.lassidToAsset = ledger.lassidToAsset
  /-- The balances are what they were. -/
  balances : after.amount = ledger.amount ∧ after.balanceOf = ledger.balanceOf
  /-- From now on the id is not in use, and no call answers with it. -/
  silent : ∀ later, Leads config after later → later.AccountSilent config accountId

/-- What a call registers starts from zero. -/
structure StartsFromZero (ledger after : Memory) : Prop where
  /-- A new asset has no supply and nobody holds it. -/
  asset : ∀ assetId asset, ledger.lassidToAsset.lookup assetId = none →
    after.lassidToAsset.lookup assetId = some asset →
    asset.supply.toNat = 0 ∧ ∀ accountId, (after.amount assetId accountId).toNat = 0
  /-- A new account counts no balance and holds nothing. -/
  account : ∀ accountId owner, ledger.laccidToAccount.lookup accountId = none →
    after.laccidToAccount.lookup accountId = some owner →
    owner.nBalances = 0 ∧ ∀ assetId, (after.amount assetId accountId).toNat = 0

variable {config : Config} {region : ℕ → AccountBalance} {ledger after later : Memory}
  {assetId : AssetId} {accountId : AccountId} {asset : Asset} {account : Account}

section Silence

/-- A call answers with an asset id that is in use, or with the next one. -/
theorem AssetResult.answer {operation : Operation} {args answer : AssetArgs}
    (result : AssetResult config ledger operation args after answer)
    (answered : answer.assetId = some assetId) :
    (∃ asset, ledger.lassidToAsset.lookup assetId = some asset) ∨
      assetId = ledger.nextAssetId := by
  cases result with
  | found found asset finds present =>
    obtain ⟨_, -, rfl⟩ := Option.map_eq_some_iff.mp answered
    exact .inl ⟨asset, present⟩
  | added =>
    obtain ⟨_, -, rfl⟩ := Option.map_eq_some_iff.mp answered
    exact .inr rfl
  | removed removed asset removes present =>
    obtain ⟨_, -, rfl⟩ := Option.map_eq_some_iff.mp answered
    exact .inl ⟨asset, present⟩

/-- A call answers with an account id that is in use, or with the next one. -/
theorem AccountResult.answer {operation : Operation} {args answer : AccountArgs}
    (result : AccountResult config ledger operation args after answer)
    (answered : answer.accountId = some accountId) :
    (∃ owner, ledger.laccidToAccount.lookup accountId = some owner) ∨
      accountId = ledger.nextAccountId := by
  cases result with
  | found found owner finds present keyed named answer reported =>
    obtain ⟨_, -, rfl⟩ := Option.map_eq_some_iff.mp (reported.symm.trans answered)
    exact .inl ⟨owner, present⟩
  | added account creates room asked unasked fresh wallet answer reported =>
    obtain ⟨_, -, rfl⟩ := Option.map_eq_some_iff.mp (reported.symm.trans answered)
    exact .inr rfl
  | removed removed owner removes present empty keyed named answer reported =>
    obtain ⟨_, -, rfl⟩ := Option.map_eq_some_iff.mp (reported.symm.trans answered)
    exact .inl ⟨owner, present⟩

/-- An asset id that was issued and is not in use stays silent. -/
theorem assetSilent_of_leads (sound : ledger.Sound config)
    (gone : ledger.lassidToAsset.lookup assetId = none) (issued : assetId < ledger.nextAssetId)
    (leads : Leads config ledger later) : later.AssetSilent config assetId := by
  obtain ⟨laterSound, descends⟩ := leads.descends sound
  have absent : later.lassidToAsset.lookup assetId = none := by
    cases found : later.lassidToAsset.lookup assetId with
    | none => rfl
    | some asset =>
      rcases descends.asset assetId asset found with ⟨old, there, -⟩ | recent
      · rw [gone] at there
        contradiction
      · exact absurd recent (Nat.not_le.mpr issued)
  refine ⟨absent, fun args operation next answer called answered => ?_⟩
  cases call_step laterSound called with
  | asset result =>
    rcases result.answer answered with ⟨asset, present⟩ | recent
    · rw [absent] at present
      contradiction
    · exact absurd (Nat.lt_of_lt_of_le issued descends.nextAsset) (Nat.not_lt.mpr recent.ge)

/-- An account id that was issued and is not in use stays silent. -/
theorem accountSilent_of_leads (sound : ledger.Sound config)
    (gone : ledger.laccidToAccount.lookup accountId = none)
    (issued : accountId < ledger.nextAccountId) (leads : Leads config ledger later) :
    later.AccountSilent config accountId := by
  obtain ⟨laterSound, descends⟩ := leads.descends sound
  have unknown : ledger.account accountId = none := by
    rw [Memory.account, gone, Option.map_none]
  have absent : later.laccidToAccount.lookup accountId = none := by
    cases found : later.laccidToAccount.lookup accountId with
    | none => rfl
    | some owner =>
      have known : later.account accountId = some owner.account := by
        rw [Memory.account, found, Option.map_some]
      rcases descends.account accountId owner.account known with there | recent
      · rw [unknown] at there
        contradiction
      · exact absurd recent (Nat.not_le.mpr issued)
  refine ⟨absent, fun args operation next answer called answered => ?_⟩
  cases call_step laterSound called with
  | account result =>
    rcases result.answer answered with ⟨owner, present⟩ | recent
    · rw [absent] at present
      contradiction
    · exact absurd (Nat.lt_of_lt_of_le issued descends.nextAccount) (Nat.not_lt.mpr recent.ge)

end Silence

section Removing

/-- An asset without supply is held by nobody. -/
theorem Reachable.unheld_asset {allowed : Memory → Call → Prop}
    (reachable : Reachable config region allowed ledger)
    (registered : ledger.lassidToAsset.lookup assetId = some asset)
    (unsupplied : asset.supply.toNat = 0) (accountId : AccountId) :
    (ledger.amount assetId accountId).toNat = 0 := by
  have spent : ledger.book.outstanding assetId = 0 := by
    rw [Book.outstanding, book_supply registered, Option.getD_some, unsupplied]
  exact reachable.covered.holding_zero spent accountId

/-- A successful removal of an asset removes it and nothing else. -/
theorem assetRemoved_of_call {allowed : Memory → Call → Prop}
    (reachable : Reachable config region allowed ledger) {args answer : AssetArgs}
    (called : ledger.call config (.retrieveAsset args .findAndRemove) =
      some (after, ⟨none, .asset answer⟩)) :
    ∃ assetId asset, AssetRemoved config ledger after args answer assetId asset := by
  have sound := reachable.sound
  have step := call_step sound called
  have afterSound := step.sound sound
  cases step with
  | asset result =>
    cases result with
    | found assetId asset finds => exact absurd finds (by decide)
    | added asset creates => exact absurd creates (by decide)
    | removed assetId asset removes present unsupplied keyed named =>
      have unheld := reachable.unheld_asset present unsupplied
      have unkeyed (key : AssetKey) (has : asset.key = some key) :
          (ledger.dropAsset assetId asset).assetToLassid.lookup key = none := by
        simp only [dropAsset, Finmap.lookup_eraseKey, has, if_true]
      refine ⟨assetId, asset, present, ⟨keyed, named⟩, rfl, unheld, ?unreported, unkeyed,
        ?unfound, ?assets, rfl, ⟨rfl, rfl⟩, fun later leads => ?silent⟩
      case unreported =>
        intro accountId balance reported
        rw [← reported.amount_eq]
        exact unheld accountId
      case unfound =>
        intro key sought next found has wanted called
        cases call_step afterSound called with
        | asset result =>
          cases result with
          | found other current _ there same =>
            have names := (afterSound.registry.assetKeys key other).mpr
              ⟨current, there, same key wanted⟩
            rw [unkeyed key has] at names
            contradiction
          | added _ creates => exact absurd creates (by decide)
          | removed _ _ removes => exact absurd removes (by decide)
      case assets =>
        intro other different
        rw [dropAsset, Finmap.lookup_erase_if, if_neg different]
      case silent =>
        refine assetSilent_of_leads afterSound ?_ (sound.registry.assetIds _ _ present) leads
        rw [dropAsset, Finmap.lookup_erase_if, if_pos rfl]

/-- A successful removal of an account removes it and nothing else. -/
theorem accountRemoved_of_call (sound : ledger.Sound config) {args answer : AccountArgs}
    (called : ledger.call config (.retrieveAccount args .findAndRemove) =
      some (after, ⟨none, .account answer⟩)) :
    ∃ accountId account, AccountRemoved config ledger after args answer accountId account := by
  have step := call_step sound called
  have afterSound := step.sound sound
  cases step with
  | account result =>
    cases result with
    | found accountId owner finds => exact absurd finds (by decide)
    | added account creates => exact absurd creates (by decide)
    | removed accountId owner removes present empty keyed named answer reported =>
      have known : ledger.account accountId = some owner.account := by
        rw [Memory.account, present, Option.map_some]
      have unheld (assetId : AssetId) : (ledger.amount assetId accountId).toNat = 0 := by
        rw [Memory.amount, stored_none (sound.unheld present empty assetId), toNat_zeros]
      have unkeyed (key : Bytes32) (has : owner.account.key = some key) :
          (ledger.dropAccount accountId owner.account).accountToLaccid.lookup key = none := by
        simp only [dropAccount, Finmap.lookup_eraseKey, has, if_true]
      refine ⟨accountId, owner.account, known, ⟨keyed, named⟩, reported, unheld, ?unreported,
        unkeyed, ?unfound, ?accounts, rfl, ⟨rfl, rfl⟩, fun later leads => ?silent⟩
      case unreported =>
        intro assetId balance reported
        rw [← reported.amount_eq]
        exact unheld assetId
      case unfound =>
        intro sought requested next found wanted has called
        cases call_step afterSound called with
        | account result =>
          cases result with
          | found other current _ there same =>
            have holds : (ledger.dropAccount accountId owner.account).account other =
                some current.account := by
              rw [Memory.account, there, Option.map_some]
            have names := (afterSound.registry.accountKeys requested.accountId other).mpr
              ⟨current.account, holds, same requested wanted⟩
            rw [unkeyed requested.accountId has] at names
            contradiction
          | added _ creates => exact absurd creates (by decide)
          | removed _ _ removes => exact absurd removes (by decide)
      case accounts =>
        intro other different
        rw [dropAccount, Finmap.lookup_erase_if, if_neg different]
      case silent =>
        refine accountSilent_of_leads afterSound ?_ (sound.registry.accountIds _ _ known) leads
        rw [dropAccount, Finmap.lookup_erase_if, if_pos rfl]

end Removing

section Starting

variable {key : MapKey} {owner : AccountStruct} {request : Call} {response : Response}

/-- A write registers no asset. -/
theorem unregistered_written (key : MapKey)
    (member : ledger.laccidToAccount.lookup key.2 = some owner) (written : Asset)
    (balance : Amount) (absent : ledger.lassidToAsset.lookup assetId = none) :
    (ledger.written config key written owner balance).lassidToAsset.lookup assetId = none :=
  (congrArg (Finmap.lookup assetId)
    (sameRegistry_written config key member written balance).assets).trans absent

/-- A new supply registers no asset. -/
theorem unregistered_supplied {other : AssetId}
    (registered : ledger.lassidToAsset.lookup other = some asset) (supply : Amount)
    (absent : ledger.lassidToAsset.lookup assetId = none) :
    (ledger.supplied other asset supply).lassidToAsset.lookup assetId = none := by
  have different : assetId ≠ other := by
    rintro rfl
    rw [absent] at registered
    contradiction
  rw [Memory.supplied, Finmap.lookup_insert_if, if_neg different]
  exact absent

/-- A write registers no account. -/
theorem absent_written (key : MapKey)
    (member : ledger.laccidToAccount.lookup key.2 = some owner) (written : Asset)
    (balance : Amount) (absent : ledger.laccidToAccount.lookup accountId = none) :
    (ledger.written config key written owner balance).laccidToAccount.lookup accountId = none := by
  have known := (sameRegistry_written config key member written balance).accounts accountId
  rw [Memory.account, Memory.account, absent, Option.map_none] at known
  exact Option.map_eq_none_iff.mp known

/-- An asset that a step registers has the next id and no supply. -/
theorem Step.new_asset (step : Step config ledger request response after)
    (absent : ledger.lassidToAsset.lookup assetId = none)
    (present : after.lassidToAsset.lookup assetId = some asset) :
    assetId = ledger.nextAssetId ∧ after = ledger.addAsset asset ∧ asset.supply = zeros 32 := by
  have never {state : Memory} (none : state.lassidToAsset.lookup assetId = none)
      (some : state.lassidToAsset.lookup assetId = some asset) : False := by
    rw [none] at some
    contradiction
  cases step with
  | refused => exact (never absent present).elim
  | asset result =>
    cases result with
    | found => exact (never absent present).elim
    | added added _ _ _ _ _ _ unsupplied =>
      have added_if := Finmap.lookup_insert_if ledger.lassidToAsset ledger.nextAssetId assetId added
      change (ledger.lassidToAsset.insert ledger.nextAssetId added).lookup assetId = _ at present
      rw [added_if] at present
      split at present
      · obtain rfl := Option.some.inj present
        exact ⟨‹_›, rfl, unsupplied⟩
      · exact (never absent present).elim
    | removed removed gone =>
      rw [dropAsset, Finmap.lookup_erase_if] at present
      split at present
      · contradiction
      · exact (never absent present).elim
  | account result => cases result <;> exact (never absent present).elim
  | balance => exact (never absent present).elim
  | deposit accepts member room =>
    refine (never (unregistered_supplied ?_ _ ?_) present).elim
    · exact registered_written (_, _) member _ _ accepts.registered
    · exact unregistered_written (_, _) member _ _ absent
  | withdraw accepts member room =>
    refine (never (unregistered_supplied ?_ _ ?_) present).elim
    · exact registered_written (_, _) member _ _ accepts.registered
    · exact unregistered_written (_, _) member _ _ absent
  | transfer accepts sent room debit received still =>
    subst debit
    exact (never (unregistered_written (_, _) received _ _
      (unregistered_written (_, _) sent _ _ absent)) present).elim
  | stranded accepts sent room debit =>
    subst debit
    exact (never (unregistered_written (_, _) sent _ _ absent) present).elim
  | clear => simp [Memory.clear, Finmap.lookup_empty] at present

/-- An account that a step registers has the next id and counts no balance. -/
theorem Step.new_account (step : Step config ledger request response after)
    (absent : ledger.laccidToAccount.lookup accountId = none)
    (present : after.laccidToAccount.lookup accountId = some owner) :
    accountId = ledger.nextAccountId ∧ after = ledger.addAccount owner.account ∧
      owner.nBalances = 0 := by
  have never {state : Memory} (none : state.laccidToAccount.lookup accountId = none)
      (some : state.laccidToAccount.lookup accountId = some owner) : False := by
    rw [none] at some
    contradiction
  cases step with
  | refused => exact (never absent present).elim
  | asset result => cases result <;> exact (never absent present).elim
  | account result =>
    cases result with
    | found => exact (never absent present).elim
    | added added =>
      rw [addAccount, Finmap.lookup_insert_if] at present
      split at present
      · obtain rfl := Option.some.inj present
        exact ⟨‹_›, rfl, rfl⟩
      · exact (never absent present).elim
    | removed removed gone =>
      rw [dropAccount, Finmap.lookup_erase_if] at present
      split at present
      · contradiction
      · exact (never absent present).elim
  | balance => exact (never absent present).elim
  | deposit accepts member room =>
    exact (never (absent_written (_, _) member _ _ absent) present).elim
  | withdraw accepts member room =>
    exact (never (absent_written (_, _) member _ _ absent) present).elim
  | transfer accepts sent room debit received still =>
    subst debit
    exact (never (absent_written (_, _) received _ _
      (absent_written (_, _) sent _ _ absent)) present).elim
  | stranded accepts sent room debit =>
    subst debit
    exact (never (absent_written (_, _) sent _ _ absent) present).elim
  | clear => simp [Memory.clear, Finmap.lookup_empty] at present

/-- Whatever a step registers starts from zero. -/
theorem Step.startsFromZero (step : Step config ledger request response after)
    (sound : ledger.Sound config) : ledger.StartsFromZero after := by
  constructor
  case asset =>
    intro assetId asset absent present
    obtain ⟨rfl, rfl, unsupplied⟩ := step.new_asset absent present
    refine ⟨by rw [unsupplied, toNat_zeros], fun accountId => ?_⟩
    cases found : ledger.accountAssetBalance.lookup (ledger.nextAssetId, accountId) with
    | none =>
      change (ledger.stored _).toNat = 0
      rw [stored_none found, toNat_zeros]
    | some entry => exact absurd (sound.issued _ entry found) (Nat.lt_irrefl _)
  case account =>
    intro accountId owner absent present
    obtain ⟨rfl, rfl, empty⟩ := step.new_account absent present
    refine ⟨empty, fun assetId => ?_⟩
    cases found : ledger.accountAssetBalance.lookup (assetId, ledger.nextAccountId) with
    | none =>
      change (ledger.stored _).toNat = 0
      rw [stored_none found, toNat_zeros]
    | some entry => exact absurd rfl (sound.account_unheld found)

end Starting

/-- In any reachable ledger, a removal takes away nothing of value and for good, and what a call
registers starts from zero. -/
theorem removal_of_reachable (config : Config) (region : ℕ → AccountBalance) (ledger : Memory)
    (reachable : Reachable config region AnyCall ledger) :
    (∀ args after answer,
      ledger.call config (.retrieveAsset args .findAndRemove) =
        some (after, ⟨none, .asset answer⟩) →
      ∃ assetId asset, AssetRemoved config ledger after args answer assetId asset) ∧
    (∀ args after answer,
      ledger.call config (.retrieveAccount args .findAndRemove) =
        some (after, ⟨none, .account answer⟩) →
      ∃ accountId account, AccountRemoved config ledger after args answer accountId account) ∧
    ∀ request after response, ledger.call config request = some (after, response) →
      ledger.StartsFromZero after := by
  refine ⟨fun args after answer called => ?_, fun args after answer called => ?_,
    fun request after response called => ?_⟩
  · exact assetRemoved_of_call reachable called
  · exact accountRemoved_of_call reachable.sound called
  · exact (call_step reachable.sound called).startsFromZero reachable.sound

/-- The token that was spent and the account that spent it are removed, while another account holds
another asset. -/
theorem removal_spent : ∃ ledger, Reachable fewBalances (fun _ => .zero) AnyCall ledger ∧
    (ledger.amount 1 1).toNat = 2 ∧
    (∃ after args answer assetId asset,
      AssetRemoved fewBalances ledger after args answer assetId asset) ∧
    ∃ after args answer accountId account,
      AccountRemoved fewBalances ledger after args answer accountId account := by
  obtain ⟨ledger, reachable, facts⟩ := exists_reachable fewBalances (fun _ => .zero) spentToken
    (fun ledger => ((ledger.amount 1 1).toNat,
      (ledger.call fewBalances (retrieveToken .findAndRemove)).map fun answer => answer.2,
      (ledger.call fewBalances (retrieveIdAccount .findAndRemove)).map fun answer => answer.2))
    (2, some ⟨none, .asset ⟨some 0, some (zeros 20), none, none, some .tokenAddress⟩⟩,
      some ⟨none, .account ⟨some 0, none, none, none, some .id⟩⟩)
    (by decide +kernel)
  simp only [Prod.mk.injEq, Option.map_eq_some_iff] at facts
  obtain ⟨two, ⟨⟨noToken, _⟩, asset, rfl⟩, ⟨⟨noAccount, _⟩, account, rfl⟩⟩ := facts
  have removal := removal_of_reachable fewBalances _ ledger reachable
  exact ⟨ledger, reachable, two, ⟨noToken, _, _, removal.1 _ noToken _ asset⟩,
    ⟨noAccount, _, _, removal.2.1 _ noAccount _ account⟩⟩

end Memory

end Libcma

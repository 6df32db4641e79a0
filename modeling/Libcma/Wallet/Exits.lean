import Libcma.Lib.Returns
import Libcma.Wallet.Service

/-!
# Withdrawals that succeed

Calls of the ledger that find what they look for, or remove what is empty, succeed, and so does the
withdrawal of what a wallet holds.
-/

namespace Libcma

open Exec

namespace Memory

variable (config : Config) {ledger : Memory} {assetId : AssetId} {accountId : AccountId}
  {amount : Amount} {asset : Asset} {owner : AccountStruct}

/-- An asset that is registered under a key is found by it. -/
theorem call_findAsset (registry : ledger.Registry) {args : AssetArgs} {key : AssetKey}
    (requested : args.requestedKey = some key)
    (named : ledger.assetToLassid.lookup key = some assetId) :
    ∃ answer, ledger.call config (.retrieveAsset args .findOrCreate) =
      some (ledger, ⟨none, .asset answer⟩) := by
  obtain ⟨asset, present, -⟩ := (registry.assetKeys key assetId).mp named
  have run (newAsset : Asset) : (retrieveKeyedAsset config .findOrCreate key newAsset).run
      (ledger, args) = .ok () (ledger, (args.fill asset).withId assetId) := by
    simp [retrieveKeyedAsset, lookForAssetKey, looks, Operation.finds, named, findAssetInto,
      present, removeFoundAsset]
  refine ⟨(args.fill asset).withId assetId, ?_⟩
  unfold AssetArgs.requestedKey at requested
  split at requested
  case h_1 type =>
    obtain ⟨address, given, rfl⟩ := Option.map_eq_some_iff.mp requested
    simp [call, retrieveAsset, type, given, run, settle]
  case h_2 type =>
    obtain ⟨address, given, rest⟩ := Option.bind_eq_some_iff.mp requested
    obtain ⟨tokenId, identified, rfl⟩ := Option.map_eq_some_iff.mp rest
    simp [call, retrieveAsset, type, given, identified, run, settle]
  case h_3 type =>
    obtain ⟨address, given, rest⟩ := Option.bind_eq_some_iff.mp requested
    obtain ⟨tokenId, identified, rfl⟩ := Option.map_eq_some_iff.mp rest
    simp [call, retrieveAsset, type, given, identified, run, settle]
  case h_4 => contradiction

/-- An account that is registered under a key is found by it. -/
theorem call_findAccount (registry : ledger.Registry) {args : AccountArgs}
    {accountType : AccountType} {account : Account} (typed : accountType ≠ .id)
    (type : args.accountType = some accountType)
    (built : args.local? accountType = some account)
    (named : ledger.accountToLaccid.lookup account.accountId = some accountId) :
    ∃ answer, ledger.call config (.retrieveAccount args .findOrCreate) =
      some (ledger, ⟨none, .account answer⟩) := by
  obtain ⟨found, present, -⟩ := (registry.accountKeys account.accountId accountId).mp named
  obtain ⟨owner, there, -⟩ := Option.map_eq_some_iff.mp present
  have run : (retrieveKeyedAccount config .findOrCreate accountType).run (ledger, args) =
      .ok () (ledger, ((args.fill owner.account (some owner.nBalances)).withId
        accountId).copyType) := by
    simp [retrieveKeyedAccount, localAccount, built, lookForAccountKey, looks, Operation.finds,
      named, findAccountInto, there, removeFoundAccount]
  refine ⟨((args.fill owner.account (some owner.nBalances)).withId accountId).copyType, ?_⟩
  cases accountType with
  | id => contradiction
  | walletAddress => simp [call, retrieveAccount, type, run, settle]
  | accountId => simp [call, retrieveAccount, type, run, settle]

/-- A registered account is found by its id, with the number of its balances. -/
theorem call_findAccountId (present : ledger.laccidToAccount.lookup accountId = some owner)
    (count : ℕ) :
    ledger.call config (.retrieveAccount ⟨some accountId, none, none, some count, some .id⟩ .find) =
      some (ledger, ⟨none, .account ⟨some accountId, none, none, some owner.nBalances,
        some .id⟩⟩) := by
  simp [call, retrieveAccount, retrieveUnkeyedAccount, lookForAccountId, looks, Operation.finds,
    findAccountInto, present, AccountArgs.fill, AccountArgs.copyType, removeFoundAccount, settle]

/-- A registered account without balances is removed. -/
theorem call_removeAccountId (registry : ledger.Registry)
    (present : ledger.laccidToAccount.lookup accountId = some owner)
    (empty : owner.nBalances = 0) :
    ∃ answer, ledger.call config
        (.retrieveAccount ⟨some accountId, none, none, none, some .id⟩ .findAndRemove) =
      some (ledger.dropAccount accountId owner.account, ⟨none, .account answer⟩) := by
  have removed := removeAccount_run registry present empty
  refine ⟨⟨some accountId, none, none, none, some .id⟩, ?_⟩
  simp [call, retrieveAccount, retrieveUnkeyedAccount, lookForAccountId, looks, Operation.finds,
    findAccountInto, present, AccountArgs.fill, AccountArgs.copyType, removeFoundAccount, removed,
    settle]

/-- A registered asset is found by its id, with its supply. -/
theorem call_findAssetId (present : ledger.lassidToAsset.lookup assetId = some asset)
    (supply : Amount) :
    ledger.call config (.retrieveAsset ⟨some assetId, none, none, some supply, some .id⟩ .find) =
      some (ledger, ⟨none, .asset ⟨some assetId, none, none, some asset.supply,
        some asset.type⟩⟩) := by
  cases type : asset.type with
  | _ => simp [call, retrieveAsset, retrieveUnkeyedAsset, lookForAssetId, looks, Operation.finds,
    findAssetInto, present, AssetArgs.fill, AssetArgs.withId, removeFoundAsset, settle, type]

/-- A registered asset without supply is removed. -/
theorem call_removeAssetId (registry : ledger.Registry)
    (present : ledger.lassidToAsset.lookup assetId = some asset)
    (empty : asset.supply.toNat = 0) :
    ∃ answer, ledger.call config
        (.retrieveAsset ⟨some assetId, none, none, none, some .id⟩ .findAndRemove) =
      some (ledger.dropAsset assetId asset, ⟨none, .asset answer⟩) := by
  have removed := removeAsset_run registry present empty
  refine ⟨⟨some assetId, none, none, none, some asset.type⟩, ?_⟩
  cases type : asset.type with
  | _ => simp [call, retrieveAsset, retrieveUnkeyedAsset, lookForAssetId, looks, Operation.finds,
    findAssetInto, present, AssetArgs.fill, AssetArgs.withId, removeFoundAsset, removed, settle,
    type]

/-- A write through a withdrawable entry returns. -/
theorem setWithdrawable_run (store : ledger.Store config) {slot : ℕ}
    (found : ledger.accountAssetBalance.lookup (assetId, accountId) = some (.withdrawable slot))
    (member : ledger.laccidToAccount.lookup accountId = some owner) (asset : Asset)
    (balance : Amount) :
    (setAccountAssetBalance config assetId accountId balance).run ledger =
      .ok () (ledger.written config (assetId, accountId) asset owner balance) := by
  have kept := store.overwrite (.withdrawable slot) balance
  have stored : (storeRecord slot fun record => { record with amount := balance }).run ledger =
      .ok () (ledger.overwrite (.withdrawable slot) balance) := rfl
  by_cases zero : isZero balance = true
  · have removed : (removeWithdrawable (assetId, accountId) slot).run
        (ledger.overwrite (.withdrawable slot) balance) =
          .ok () ((ledger.overwrite (.withdrawable slot) balance).closeWithdrawable
            (assetId, accountId) slot owner) := removeWithdrawable_run kept found member
    simp [setAccountAssetBalance, found, updateBalance, stored, zero, removed, written, close]
  · simp [setAccountAssetBalance, found, updateBalance, stored, zero, written]

/-- What a withdrawable entry covers can be withdrawn. -/
theorem call_withdraw (store : ledger.Store config) {slot : ℕ}
    (registered : ledger.lassidToAsset.lookup assetId = some asset)
    (member : ledger.laccidToAccount.lookup accountId = some owner)
    (found : ledger.accountAssetBalance.lookup (assetId, accountId) = some (.withdrawable slot))
    (enough : amount.toNat ≤ (ledger.amount assetId accountId).toNat)
    (supplied : amount.toNat ≤ asset.supply.toNat) :
    ∃ after, ledger.call config (.withdraw assetId accountId amount) =
      some (after, ⟨none, .nothing⟩) := by
  have held : ledger.view.balance assetId accountId = some (ledger.amount assetId accountId) := by
    change ledger.balanceOf assetId accountId = _
    rw [balanceOf, Memory.amount, stored_some found, found]
    rfl
  have known : ledger.view.account accountId = true := by
    change (ledger.laccidToAccount.lookup accountId).isSome = true
    rw [member]
    rfl
  have accepts : ledger.view.AcceptsWithdraw assetId accountId amount asset
      (ledger.amount assetId accountId) := ⟨registered, supplied, known, held, enough⟩
  rcases LedgerOps.withdraw_cases (reports config ledger) assetId accountId amount with
    ⟨error, -, refuses, -⟩ | ⟨undefined, -⟩ | ⟨other, balance, accepted, continues⟩
  · exact absurd accepts (refuses _ _)
  · exact absurd (accepts.passes.symm.trans undefined) (by simp)
  · obtain rfl := Option.some.inj (registered.symm.trans accepted.registered)
    have wrote := setWithdrawable_run config store found member asset
      (amountCheckedSub balance amount).1
    refine ⟨(ledger.written config (assetId, accountId) asset owner
      (amountCheckedSub balance amount).1).supplied assetId asset
        (amountCheckedSub asset.supply amount).1, ?_⟩
    simp only [call, onFirst_run, withdraw, continues]
    simp only [ops, bind_run, wrote, Outcome.andThen_ok, supply_written registered member, settle]
    rfl

end Memory

namespace Wallet

open Memory

variable {platform : Platform} {app : App} {token : Token} {account : Bytes32} {address : Address}
  {assetId : AssetId} {accountId : AccountId} {context : String}

section Names

/-- An asset that has a name is registered. -/
theorem App.Sound.registered (sound : app.Sound platform.config)
    (named : app.naming.asset token = some assetId) :
    ∃ asset, app.ledger.lassidToAsset.lookup assetId = some asset ∧ asset.type ≠ .id := by
  cases token with
  | ether =>
    obtain ⟨asset, present, base⟩ := sound.ether
    rw [Option.some.inj named] at present
    exact ⟨asset, present, by rw [base]; decide⟩
  | key key =>
    obtain ⟨asset, present, keyed⟩ := (sound.ledger.registry.assetKeys key assetId).mp named
    refine ⟨asset, present, fun byId => ?_⟩
    rw [Asset.key, byId] at keyed
    contradiction

/-- An account that has a name is registered, under its bytes. -/
theorem App.Sound.enrolled (sound : app.Sound platform.config)
    (owner : app.naming.member account = some accountId) :
    ∃ holder, app.ledger.laccidToAccount.lookup accountId = some holder ∧
      holder.account.type ≠ .id ∧ holder.account.accountId = account := by
  obtain ⟨found, present, keyed⟩ :=
    (sound.ledger.registry.accountKeys account accountId).mp owner
  obtain ⟨holder, there, rfl⟩ := Option.map_eq_some_iff.mp present
  unfold Account.key at keyed
  split at keyed
  · contradiction
  · next wallet => exact ⟨holder, there, by rw [wallet]; decide, Option.some.inj keyed⟩
  · next bytes => exact ⟨holder, there, by rw [bytes]; decide, Option.some.inj keyed⟩

/-- Whatever is held has names. -/
theorem App.named_of_holding (positive : 0 < app.custody.holding token account) :
    (∃ assetId, app.naming.asset token = some assetId) ∧
      ∃ accountId, app.naming.member account = some accountId := by
  change 0 < app.naming.amount app.ledger.book token account at positive
  unfold Naming.amount at positive
  cases named : app.naming.asset token with
  | none =>
    rw [named] at positive
    exact absurd positive (Nat.lt_irrefl 0)
  | some assetId =>
    cases owner : app.naming.member account with
    | none =>
      rw [named, owner] at positive
      exact absurd positive (Nat.lt_irrefl 0)
    | some accountId => exact ⟨⟨assetId, rfl⟩, accountId, rfl⟩

/-- What a wallet holds is in an entry of the drive and is covered by the supply. -/
theorem App.Sound.funded (sound : app.Sound platform.config)
    (named : app.naming.asset token = some assetId)
    (owner : app.naming.member (walletId address) = some accountId)
    (positive : 0 < app.custody.holding token (walletId address)) :
    ∃ asset holder slot, app.ledger.lassidToAsset.lookup assetId = some asset ∧
      app.ledger.laccidToAccount.lookup accountId = some holder ∧
      app.ledger.accountAssetBalance.lookup (assetId, accountId) = some (.withdrawable slot) ∧
      (app.ledger.amount assetId accountId).toNat = app.custody.holding token (walletId address) ∧
      (app.ledger.amount assetId accountId).toNat ≤ asset.supply.toNat := by
  obtain ⟨asset, registered, keyed⟩ := sound.registered named
  obtain ⟨holder, member, typed, bytes⟩ := sound.enrolled owner
  have held : (app.ledger.amount assetId accountId).toNat =
      app.custody.holding token (walletId address) := by
    change _ = app.naming.amount app.ledger.book token (walletId address)
    rw [Naming.amount, named, owner]
    rfl
  have covered : (app.ledger.amount assetId accountId).toNat ≤ asset.supply.toNat := by
    have most := sound.covered.holding_le assetId accountId
    rw [Book.outstanding, book_supply registered] at most
    exact most
  have wallet : holder.account.type = .walletAddress := by
    have known : app.ledger.account accountId = some holder.account := by
      rw [Memory.account, member, Option.map_some]
    rw [sound.typed accountId holder.account known typed, bytes, typeOf_walletId]
  cases found : app.ledger.accountAssetBalance.lookup (assetId, accountId) with
  | none =>
    rw [Memory.amount, stored_none found, toNat_zeros] at held
    omega
  | some entry =>
    have kinds := (sound.ledger.store.kinds _ entry asset holder found registered member).mpr
      ⟨keyed, wallet⟩
    cases entry with
    | virtual pointer => simp [Balance.slot] at kinds
    | withdrawable slot => exact ⟨asset, holder, slot, registered, member, rfl, held, covered⟩

end Names

section Calling

/-- A call of the ledger that succeeds returns. -/
theorem returns_ledgerCall {request : Call} {after : Memory} {output : Output}
    (called : app.ledger.call platform.config request = some (after, ⟨none, output⟩)) :
    Returns (ledgerCall platform request context) app fun result now =>
      result = output ∧ now = app.leave after := by
  refine ⟨output, app.leave after, ?_, rfl, rfl⟩
  simp [ledgerCall, called, Response.code, App.leave]

/-- A retrieval of an asset that succeeds returns. -/
theorem returns_retrieveAsset {args answer : AssetArgs} {operation : Operation} {after : Memory}
    (called : app.ledger.call platform.config (.retrieveAsset args operation) =
      some (after, ⟨none, .asset answer⟩)) :
    Returns (retrieveAsset platform args operation context) app fun result now =>
      result = answer ∧ now = app.leave after := by
  apply (returns_ledgerCall called).bind
  rintro _ _ ⟨rfl, rfl⟩
  exact .pure ⟨rfl, rfl⟩

/-- A retrieval of an account that succeeds returns. -/
theorem returns_retrieveAccount {args answer : AccountArgs} {operation : Operation}
    {after : Memory}
    (called : app.ledger.call platform.config (.retrieveAccount args operation) =
      some (after, ⟨none, .account answer⟩)) :
    Returns (retrieveAccount platform args operation context) app fun result now =>
      result = answer ∧ now = app.leave after := by
  apply (returns_ledgerCall called).bind
  rintro _ _ ⟨rfl, rfl⟩
  exact .pure ⟨rfl, rfl⟩

/-- A token that has a name is found. -/
theorem returns_retrieveToken (sound : app.Sound platform.config) {before : AssetId}
    {assetType : Option AssetType} {contract : Address} {tokenId : Option TokenId} {key : AssetKey}
    (requested : AssetArgs.requestedKey ⟨some before, some contract, tokenId, none, assetType⟩ =
      some key) (named : app.naming.asset (.key key) = some assetId) :
    Returns (retrieveToken platform before assetType contract tokenId) app fun _ _ => True := by
  obtain ⟨answer, called⟩ := call_findAsset platform.config sound.ledger.registry requested named
  exact (returns_retrieveAsset called).mono fun _ _ _ => trivial

/-- A wallet that has an account is found. -/
theorem returns_retrieveWallet (sound : app.Sound platform.config)
    (owner : app.naming.member (walletId address) = some accountId) :
    Returns (retrieveWallet platform address) app fun _ _ => True := by
  have built : AccountArgs.local? ⟨some platform.uninitialised.laccId,
      some platform.uninitialised.account, some (addressBytes address), none,
      some .walletAddress⟩ .walletAddress = some ⟨.walletAddress, walletId address⟩ := by
    simp [AccountArgs.local?, leadingAddress_addressBytes]
  obtain ⟨answer, called⟩ := call_findAccount platform.config sound.ledger.registry (by decide) rfl
    built owner
  exact (returns_retrieveAccount called).mono fun _ _ _ => trivial

/-- What a wallet holds can be withdrawn. -/
theorem returns_withdraw (sound : app.Sound platform.config)
    (named : app.naming.asset token = some assetId)
    (owner : app.naming.member (walletId address) = some accountId) {amount : Amount}
    (positive : 0 < amount.toNat)
    (enough : amount.toNat ≤ app.custody.holding token (walletId address)) :
    Returns (withdraw platform assetId accountId amount context) app fun _ _ => True := by
  obtain ⟨asset, holder, slot, registered, member, found, held, covered⟩ :=
    sound.funded named owner (Nat.lt_of_lt_of_le positive enough)
  rw [← held] at enough
  obtain ⟨after, called⟩ := call_withdraw platform.config sound.ledger.store registered member found
    enough (enough.trans covered)
  apply (returns_ledgerCall called).bind
  intro _ _ _
  exact .pure trivial

/-- The account of a name is kept or removed; the assets keep their names. -/
theorem returns_checkAndRemoveAccount (sound : app.Sound platform.config)
    (owner : app.naming.member account = some accountId) :
    Returns (checkAndRemoveAccount platform accountId) app fun _ now =>
      now.naming.asset = app.naming.asset := by
  obtain ⟨holder, member, -, -⟩ := sound.enrolled owner
  have finds := call_findAccountId platform.config member platform.uninitialised.nBalances
  unfold checkAndRemoveAccount
  apply (returns_retrieveAccount finds).bind
  rintro _ _ ⟨rfl, rfl⟩
  refine .ite (fun _ => .pure rfl) fun none => ?_
  have empty : holder.nBalances = 0 := by simpa using none
  obtain ⟨answer, removes⟩ := call_removeAccountId platform.config sound.ledger.registry member
    empty
  apply (returns_retrieveAccount removes).bind
  rintro _ _ ⟨rfl, rfl⟩
  exact .pure rfl

/-- The asset of a name is kept or removed. -/
theorem returns_checkAndRemoveAsset (sound : app.Sound platform.config)
    (named : app.naming.asset token = some assetId) :
    Returns (checkAndRemoveAsset platform assetId) app fun _ _ => True := by
  obtain ⟨asset, registered, -⟩ := sound.registered named
  have finds := call_findAssetId platform.config registered platform.uninitialised.supply
  unfold checkAndRemoveAsset
  apply Returns.read.bind
  rintro _ _ ⟨rfl, rfl⟩
  refine .ite (fun _ => .pure trivial) fun _ => ?_
  apply (returns_retrieveAsset finds).bind
  rintro _ _ ⟨rfl, rfl⟩
  refine .ite (fun _ => .pure trivial) fun none => ?_
  have empty : asset.supply.toNat = 0 := by
    rw [Option.getD_some, not_not] at none
    exact (isZero_iff _).mp none
  obtain ⟨answer, removes⟩ := call_removeAssetId platform.config sound.ledger.registry registered
    empty
  apply (returns_retrieveAsset removes).bind
  intro _ _ _
  exact .pure trivial

/-- A voucher that can be encoded and is taken is sent. -/
theorem returns_sendVoucher {type : Parser.VoucherType} {given : Option Address}
    {request : Parser.VoucherData} {payload : Parser.Payload} {emitted : Emitted}
    (writes : Writes platform.libcmt type given request payload emitted)
    (takes : 0 ≤ platform.emitVoucher app.vouchers emitted) (memory : Parser.Memory)
    (encodeContext emitContext : String) :
    Returns (sendVoucher platform type given request payload memory encodeContext emitContext) app
      fun _ _ => True := by
  obtain ⟨draft, run, rfl⟩ := writes memory
  have taken : ¬platform.emitVoucher app.vouchers (emittedOf draft) < 0 := Int.not_lt.mpr takes
  refine ⟨(), { app with vouchers := app.vouchers ++ [emittedOf draft] }, ?_, trivial⟩
  simp [sendVoucher, Wallet.encodeVoucher, run, rollupEmitVoucher, taken]

end Calling

end Wallet

end Libcma

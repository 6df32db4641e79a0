import Libcma.Ledger.Basic
import Libcma.Memory.Capacity
import Libcma.Memory.Parallel

/-!
# Runs after a reset

A cleared ledger is run on the calls that a new ledger is run on, with their ids renamed. Call by
call the two answer alike and keep mirroring each other, until a call meets what the reset has left:
the id counters, which count as used the ids of before the reset, and the note of the base asset.
-/

namespace Libcma

open Exec

namespace Memory

variable {config : Config} {start fresh again : Memory} {assetId : AssetId}
  {accountId source target : AccountId} {asset : Asset} {owner : AccountStruct} {amount : Amount}

section Checks

/-- The two ledgers that are checked; the checks only read. -/
def Met (fresh again one two : Memory) : Prop := one = fresh ∧ two = again

variable (mirrors : Mirrors config start fresh again)

include mirrors

theorem findAsset_twins (assetId : AssetId) :
    Twins (Met fresh again) (findAsset assetId)
      (findAsset ((start.shift config).assets assetId)) := by
  rintro _ _ ⟨rfl, rfl⟩
  simp only [findAsset, bind_run, read_run, Outcome.andThen_ok, mirrors.assets]
  exact .ok _ ⟨rfl, rfl⟩

theorem findAccount_twins (accountId : AccountId) :
    Twins (Met fresh again) (findAccount accountId)
      (findAccount ((start.shift config).accounts accountId)) := by
  rintro _ _ ⟨rfl, rfl⟩
  simp only [findAccount, bind_run, read_run, Outcome.andThen_ok, mirrors.accounts]
  exact .ok _ ⟨rfl, rfl⟩

theorem balanceOf_twins (assetId : AssetId) (accountId : AccountId) :
    Twins (Met fresh again) ((ops config).getAccountAssetBalance assetId accountId)
      ((ops config).getAccountAssetBalance ((start.shift config).assets assetId)
        ((start.shift config).accounts accountId)) := by
  rintro _ _ ⟨rfl, rfl⟩
  simp only [ops, bind_run, read_run, Outcome.andThen_ok]
  apply Twins.orUndefined _ _ _ ⟨rfl, rfl⟩
  intro one two held mirrored
  rw [← balanceOf_eq held, ← balanceOf_eq mirrored, mirrors.amounts]

/-- The checks of `deposit` go alike. -/
theorem depositChecks_twins (assetId : AssetId) (accountId : AccountId) (deposit : Amount) :
    Twins (Met fresh again) ((ops config).depositChecks assetId accountId deposit)
      ((ops config).depositChecks ((start.shift config).assets assetId)
        ((start.shift config).accounts accountId) deposit) := by
  refine .bind (.refuseIf _ .rfl _) fun _ => ?_
  refine .bind (.bind (findAsset_twins mirrors assetId) fun _ => .orRaise _ _) fun asset => ?_
  refine .bind (.refuseIf _ .rfl _) fun _ => .bind (.refuseIf _ .rfl _) fun _ => ?_
  refine .bind (findAccount_twins mirrors accountId) fun _ => .bind (.refuseIf _ .rfl _) fun _ => ?_
  refine .bind (balanceOf_twins mirrors assetId accountId) fun _ => ?_
  exact .bind (.refuseIf _ .rfl _) fun _ => .pure _

/-- The checks of `withdraw` go alike. -/
theorem withdrawChecks_twins (assetId : AssetId) (accountId : AccountId) (withdrawal : Amount) :
    Twins (Met fresh again) ((ops config).withdrawChecks assetId accountId withdrawal)
      ((ops config).withdrawChecks ((start.shift config).assets assetId)
        ((start.shift config).accounts accountId) withdrawal) := by
  refine .bind (.bind (findAsset_twins mirrors assetId) fun _ => .orRaise _ _) fun asset => ?_
  refine .bind (.refuseIf _ .rfl _) fun _ => ?_
  refine .bind (findAccount_twins mirrors accountId) fun _ => .bind (.refuseIf _ .rfl _) fun _ => ?_
  refine .bind (balanceOf_twins mirrors assetId accountId) fun _ => ?_
  exact .bind (.refuseIf _ .rfl _) fun _ => .pure _

/-- The checks of `transfer` go alike. -/
theorem transferChecks_twins (assetId : AssetId) (source target : AccountId) (amount : Amount) :
    Twins (Met fresh again) ((ops config).transferChecks assetId source target amount)
      ((ops config).transferChecks ((start.shift config).assets assetId)
        ((start.shift config).accounts source) ((start.shift config).accounts target) amount) := by
  refine .bind (.bind (findAsset_twins mirrors assetId) fun _ => .orRaise _ _) fun _ => ?_
  refine .bind (.refuseIf _ (Equiv.apply_eq_iff_eq _).symm _) fun _ => ?_
  refine .bind (findAccount_twins mirrors source) fun _ => .bind (.refuseIf _ .rfl _) fun _ => ?_
  refine .bind (balanceOf_twins mirrors assetId source) fun _ => .bind (.refuseIf _ .rfl _)
    fun _ => ?_
  refine .bind (findAccount_twins mirrors target) fun _ => .bind (.refuseIf _ .rfl _) fun _ => ?_
  refine .bind (balanceOf_twins mirrors assetId target) fun _ => ?_
  exact .bind (.refuseIf _ .rfl _) fun _ => .pure _

end Checks

section Writes

variable (mirrors : Mirrors config start fresh again)

include mirrors

/-- A balance is written on both ledgers, or is refused by both. -/
theorem setAccountAssetBalance_alike (store : fresh.Store config) (likewise : again.Store config)
    (registered : fresh.lassidToAsset.lookup assetId = some asset)
    (member : fresh.laccidToAccount.lookup accountId = some owner) (balance : Amount) :
    ((setAccountAssetBalance config assetId accountId balance).run fresh).Alike
      (fun _ one two => ¬fresh.Full config (assetId, accountId) ∧
        one = fresh.written config (assetId, accountId) asset owner balance ∧
        two = again.written config ((start.shift config).assets assetId,
          (start.shift config).accounts accountId) asset owner balance)
      (Mirrors config start)
      ((setAccountAssetBalance config ((start.shift config).assets assetId)
        ((start.shift config).accounts accountId) balance).run again) := by
  have known := (mirrors.assets assetId).trans registered
  have present := (mirrors.accounts accountId).trans member
  have full := mirrors.full assetId accountId
  rcases setAccountAssetBalance_run store registered member balance with
    ⟨refused, thrown⟩ | ⟨room, written⟩ | ⟨-, undefined⟩
  · rcases setAccountAssetBalance_run likewise known present balance with
      ⟨-, twin⟩ | ⟨roomy, -⟩ | ⟨-, twin⟩
    · rw [thrown, twin]
      exact .throw _ mirrors
    · exact absurd (full.mpr refused) roomy
    · rw [twin]
      exact .rightUndefined _
  · rcases setAccountAssetBalance_run likewise known present balance with
      ⟨rejected, -⟩ | ⟨-, twin⟩ | ⟨-, twin⟩
    · exact absurd (full.mp rejected) room
    · rw [written, twin]
      exact .ok () ⟨room, rfl, rfl⟩
    · rw [twin]
      exact .rightUndefined _
  · rw [undefined]
    exact .leftUndefined _

/-- A supply is written on both ledgers. -/
theorem setAssetSupply_alike (registered : fresh.lassidToAsset.lookup assetId = some asset)
    (supply : Amount) :
    ((setAssetSupply assetId supply).run fresh).Alike (fun _ => Mirrors config start)
      (Mirrors config start)
      ((setAssetSupply ((start.shift config).assets assetId) supply).run again) := by
  have known := (mirrors.assets assetId).trans registered
  simp only [setAssetSupply, bind_run, read_run, Outcome.andThen_ok, registered, known,
    orRaise_some, pure_run, update_run]
  exact .ok () (mirrors.supplied registered supply)

variable (sound : fresh.Sound config) (likewise : again.Sound config)

include sound likewise

/-- A balance and then a supply are written on both ledgers. -/
theorem writes_alike (registered : fresh.lassidToAsset.lookup assetId = some asset)
    (member : fresh.view.account accountId = true) (balance supply : Amount) :
    ((setAccountAssetBalance config assetId accountId balance >>= fun _ =>
      setAssetSupply assetId supply).run fresh).Alike (fun _ => Mirrors config start)
      (Mirrors config start)
      ((setAccountAssetBalance config ((start.shift config).assets assetId)
        ((start.shift config).accounts accountId) balance >>= fun _ =>
          setAssetSupply ((start.shift config).assets assetId) supply).run again) := by
  obtain ⟨owner, present⟩ := view_member member
  apply alike_bind (setAccountAssetBalance_alike mirrors sound.store likewise.store registered
    present balance)
  rintro _ _ _ ⟨-, rfl, rfl⟩
  exact setAssetSupply_alike
    (mirrors.written sound.store likewise.store assetId present asset balance)
    (registered_written (_, _) present _ _ registered) supply

/-- `deposit` goes alike. -/
theorem deposit_alike (assetId : AssetId) (accountId : AccountId) (deposit : Amount) :
    (((ops config).deposit assetId accountId deposit).run fresh).Alike
      (fun _ => Mirrors config start) (Mirrors config start)
      (((ops config).deposit ((start.shift config).assets assetId)
        ((start.shift config).accounts accountId) deposit).run again) := by
  have checks := (depositChecks_twins mirrors assetId accountId deposit _ _ ⟨rfl, rfl⟩).ensuring
    (checked_accepts ((reports config fresh).depositChecks assetId accountId deposit)
      (fresh.view.depositChecks_decides assetId accountId deposit))
  apply alike_bind (checks.mono (fun _ _ _ => id) ?kept)
  case kept =>
    rintro _ _ ⟨rfl, rfl⟩
    exact mirrors
  rintro _ _ _ ⟨⟨rfl, rfl⟩, asset, balance, accepts, rfl⟩
  exact writes_alike mirrors sound likewise accepts.registered accepts.member _ _

/-- `withdraw` goes alike. -/
theorem withdraw_alike (assetId : AssetId) (accountId : AccountId) (withdrawal : Amount) :
    (((ops config).withdraw assetId accountId withdrawal).run fresh).Alike
      (fun _ => Mirrors config start) (Mirrors config start)
      (((ops config).withdraw ((start.shift config).assets assetId)
        ((start.shift config).accounts accountId) withdrawal).run again) := by
  have checks :=
    (withdrawChecks_twins mirrors assetId accountId withdrawal _ _ ⟨rfl, rfl⟩).ensuring
      (checked_accepts ((reports config fresh).withdrawChecks assetId accountId withdrawal)
        (fresh.view.withdrawChecks_decides assetId accountId withdrawal))
  apply alike_bind (checks.mono (fun _ _ _ => id) ?kept)
  case kept =>
    rintro _ _ ⟨rfl, rfl⟩
    exact mirrors
  rintro _ _ _ ⟨⟨rfl, rfl⟩, asset, balance, accepts, rfl⟩
  exact writes_alike mirrors sound likewise accepts.registered accepts.member _ _

/-- `transfer` goes alike. -/
theorem transfer_alike (assetId : AssetId) (source target : AccountId) (amount : Amount) :
    (((ops config).transfer assetId source target amount).run fresh).Alike
      (fun _ => Mirrors config start) (Mirrors config start)
      (((ops config).transfer ((start.shift config).assets assetId)
        ((start.shift config).accounts source) ((start.shift config).accounts target)
        amount).run again) := by
  have checks :=
    (transferChecks_twins mirrors assetId source target amount _ _ ⟨rfl, rfl⟩).ensuring
      (checked_accepts ((reports config fresh).transferChecks assetId source target amount)
        (fresh.view.transferChecks_decides assetId source target amount))
  apply alike_bind (checks.mono (fun _ _ _ => id) ?kept)
  case kept =>
    rintro _ _ ⟨rfl, rfl⟩
    exact mirrors
  rintro _ _ _ ⟨⟨rfl, rfl⟩, asset, balanceFrom, balanceTo, accepts, rfl⟩
  obtain ⟨sender, sent⟩ := view_member accepts.sender
  apply alike_bind (setAccountAssetBalance_alike mirrors sound.store likewise.store
    accepts.registered sent (amountCheckedSub balanceFrom amount).1)
  rintro _ _ _ ⟨room, rfl, rfl⟩
  -- The second write is to two ledgers that mirror each other after the first.
  have known := (mirrors.assets assetId).trans accepts.registered
  have present := (mirrors.accounts source).trans sent
  have middle := mirrors.written sound.store likewise.store assetId sent asset
    (amountCheckedSub balanceFrom amount).1
  have one := sound.written room accepts.registered sent (amountCheckedSub balanceFrom amount).1
  have two := likewise.written (mt (mirrors.full assetId source).mp room) known present
    (amountCheckedSub balanceFrom amount).1
  obtain ⟨receiver, received⟩ := owner_written config assetId sent (view_member accepts.receiver)
    asset (amountCheckedSub balanceFrom amount).1
  apply (setAccountAssetBalance_alike middle one.store two.store
    (registered_written (_, _) sent _ _ accepts.registered) received
    (amountCheckedAdd balanceTo amount).1).mono
  · rintro _ _ _ ⟨-, rfl, rfl⟩
    exact middle.written one.store two.store assetId received asset _
  · exact fun _ _ kept => kept

omit sound likewise in
/-- `get_account_asset_balance` goes alike. -/
theorem getBalance_alike (assetId : AssetId) (accountId : AccountId) (asked : Option Amount)
    (info : Option BalanceInfo) :
    ((getAccountAssetBalance config assetId accountId).run (fresh, asked, info)).Alike
      (fun _ => Beside config start fun one two => two.1 = one.1)
      (Beside config start fun one two => two.1 = one.1)
      ((getAccountAssetBalance config ((start.shift config).assets assetId)
        ((start.shift config).accounts accountId)).run (again, asked, info)) := by
  unfold getAccountAssetBalance
  cases asked with
  | none => exact .ok () ⟨mirrors, rfl⟩
  | some old =>
    simp only [bind_run, read_run, Outcome.andThen_ok, Option.isSome_some, if_true]
    cases held : fresh.balanceOf assetId accountId with
    | none => exact .leftUndefined _
    | some balance =>
      cases mirrored : again.balanceOf ((start.shift config).assets assetId)
          ((start.shift config).accounts accountId) with
      | none => exact .rightUndefined _
      | some other =>
        have same : other = balance := by
          rw [← balanceOf_eq held, ← balanceOf_eq mirrored, mirrors.amounts]
        subst same
        exact .ok () ⟨mirrors, rfl⟩

end Writes

section Calls

/-- Runs that end alike are answered alike. -/
theorem like_of_alike {π : Type} {answer : π → Output} {returned thrown : π → π → Prop}
    {left right : Outcome CmaException (Memory × π) Unit} {after later : Memory}
    {response reply : Response}
    (alike : left.Alike (fun _ => Beside config start returned) (Beside config start thrown) right)
    (called : settle answer left = some (after, response))
    (recalled : settle answer right = some (later, reply))
    (answers : ∀ one two, returned one two →
      Response.Like (start.shift config) ⟨none, answer one⟩ ⟨none, answer two⟩)
    (refuses : ∀ error one two, thrown one two →
      Response.Like (start.shift config) ⟨some error, answer one⟩ ⟨some error, answer two⟩) :
    Response.Like (start.shift config) response reply ∧ Mirrors config start after later := by
  cases alike with
  | ok value states =>
    obtain ⟨rfl, rfl⟩ := Prod.mk.inj (Option.some.inj called)
    obtain ⟨rfl, rfl⟩ := Prod.mk.inj (Option.some.inj recalled)
    exact ⟨answers _ _ states.2, states.1⟩
  | throw error states =>
    obtain ⟨rfl, rfl⟩ := Prod.mk.inj (Option.some.inj called)
    obtain ⟨rfl, rfl⟩ := Prod.mk.inj (Option.some.inj recalled)
    exact ⟨refuses error _ _ states.2, states.1⟩
  | leftUndefined => contradiction
  | rightUndefined => contradiction

/-- Runs without out-parameters that end alike are answered alike. -/
theorem like_of_alike_nothing {left right : Exec CmaException Memory Unit} {after later : Memory}
    {response reply : Response}
    (alike : (left.run fresh).Alike (fun _ => Mirrors config start) (Mirrors config start)
      (right.run again))
    (called : settle (fun _ => .nothing) ((onFirst left).run (fresh, ())) =
      some (after, response))
    (recalled : settle (fun _ => .nothing) ((onFirst right).run (again, ())) =
      some (later, reply)) :
    Response.Like (start.shift config) response reply ∧ Mirrors config start after later := by
  have paired : ((onFirst left).run (fresh, ())).Alike
      (fun _ => Beside config start fun _ _ => True) (Beside config start fun _ _ => True)
      ((onFirst right).run (again, ())) :=
    (alike_onFirst alike () ()).mono (fun _ _ _ states => ⟨states.1, trivial⟩)
      fun _ _ states => ⟨states.1, trivial⟩
  apply like_of_alike paired called recalled
  · exact fun _ _ _ => ⟨rfl, rfl, fun _ => rfl, fun _ => rfl⟩
  · exact fun _ _ _ _ => ⟨rfl, rfl, fun _ => rfl, fun _ => rfl⟩

/-- A call that does not meet what the reset has left is answered alike, and leaves ledgers that
mirror each other. -/
theorem call_like (mirrors : Mirrors config start fresh again) (sound : fresh.Sound config)
    (likewise : again.Sound config) {request : Call} {after later : Memory}
    {response reply : Response}
    (tame : ¬start.MeetsLeftovers config again ((start.shift config).call request))
    (called : fresh.call config request = some (after, response))
    (recalled : again.call config ((start.shift config).call request) = some (later, reply)) :
    Response.Like (start.shift config) response reply ∧ Mirrors config start after later := by
  cases request with
  | retrieveAsset args operation =>
    apply like_of_alike
      (retrieveAsset_alike mirrors sound.registry likewise.registry args tame) called recalled
    · rintro _ _ rfl
      exact ⟨rfl, rfl, fun _ => rfl, fun _ => rfl⟩
    · intro error one two same
      exact ⟨rfl, congrArg Output.asset same, fun none => by contradiction,
        fun none => by contradiction⟩
  | retrieveAccount args operation =>
    apply like_of_alike
      (retrieveAccount_alike mirrors sound.registry likewise.registry args tame) called recalled
    · rintro _ _ rfl
      exact ⟨rfl, rfl, fun _ => rfl, fun _ => rfl⟩
    · rintro error _ _ rfl
      exact ⟨rfl, rfl, fun _ => rfl, fun _ => rfl⟩
  | getBalance assetId accountId asked info =>
    apply like_of_alike (getBalance_alike mirrors assetId accountId asked info) called recalled
    · rintro ⟨_, _⟩ ⟨_, _⟩ rfl
      exact ⟨rfl, rfl, fun _ => rfl, fun _ => rfl⟩
    · rintro error ⟨_, _⟩ ⟨_, _⟩ rfl
      exact ⟨rfl, rfl, fun _ => rfl, fun _ => rfl⟩
  | deposit assetId accountId deposit =>
    exact like_of_alike_nothing (deposit_alike mirrors sound likewise assetId accountId deposit)
      called recalled
  | withdraw assetId accountId withdrawal =>
    exact like_of_alike_nothing
      (withdraw_alike mirrors sound likewise assetId accountId withdrawal) called recalled
  | transfer assetId source target amount =>
    exact like_of_alike_nothing
      (transfer_alike mirrors sound likewise assetId source target amount) called recalled
  | clear =>
    obtain ⟨rfl, rfl⟩ := Prod.mk.inj (Option.some.inj called)
    obtain ⟨rfl, rfl⟩ := Prod.mk.inj (Option.some.inj recalled)
    exact ⟨⟨rfl, rfl, fun _ => rfl, fun _ => rfl⟩, mirrors.clear⟩

/-- Where only the cleared ledger is out of room, the answers differ. -/
theorem unlike_of_exhausted (sound : fresh.Sound config)
    (likewise : again.Sound config) {request renamed : Call} {after later : Memory}
    {response reply : Response} {names : Renaming}
    (exhausted : again.Exhausted config renamed) (roomy : ¬fresh.Exhausted config request)
    (same : renamed.capacityError = request.capacityError)
    (called : fresh.call config request = some (after, response))
    (recalled : again.call config renamed = some (later, reply)) :
    ¬Response.Like names response reply := by
  intro like
  obtain ⟨_, _, refused, code⟩ := (refuses_iff likewise renamed).mpr exhausted
  obtain ⟨rfl, rfl⟩ := Prod.mk.inj (Option.some.inj (recalled.symm.trans refused))
  have codes : response.code = reply.code := by
    unfold Response.code
    rw [like.error]
  exact roomy ((refuses_iff sound request).mp
    ⟨after, response, called, by rw [← same, code, codes]⟩)

/-- A call that comes to create a base asset goes on to create it. -/
theorem retrieveAsset_createsBase (config : Config) (ledger : Memory) {operation : Operation}
    {args : AssetArgs} (type : args.assetType = some .base)
    (creates : ledger.CreatesAsset operation args) :
    ∃ answer, (retrieveAsset config operation).run (ledger, args) =
      (createAssetId config .base).run (ledger, answer) := by
  simp only [CreatesAsset, type] at creates
  obtain ⟨assetId, given, creates⟩ := creates
  obtain ⟨answer, missed⟩ := lookForAssetId_creates .base args creates
  have goes : operation.creates := by
    rcases creates with create | ⟨either, -⟩
    · exact .inl create
    · exact .inr either
  refine ⟨answer, ?_⟩
  simp [retrieveAsset, type, retrieveUnkeyedAsset, Option.mem_def.mp given, missed, goes]

/-- Where the base asset of before the reset is in the way of a new one, the answers differ. -/
theorem unlike_of_base (mirrors : Mirrors config start fresh again) (sound : fresh.Sound config)
    (likewise : again.Sound config) {operation : Operation} {args : AssetArgs}
    {after later : Memory} {response reply : Response} {names : Renaming}
    (type : args.assetType = some .base) (stale : start.Stale again)
    (room : again.nextAssetId < config.maxAssets) (creates : fresh.CreatesAsset operation args)
    (called : fresh.call config (.retrieveAsset args operation) = some (after, response))
    (recalled : again.call config
      (.retrieveAsset ((start.shift config).assetArgs args) operation) = some (later, reply)) :
    ¬Response.Like names response reply := by
  intro like
  have sameType : ((start.shift config).assetArgs args).assetType = some .base := type
  obtain ⟨answer, runs⟩ := retrieveAsset_createsBase config fresh type creates
  obtain ⟨other, reruns⟩ := retrieveAsset_createsBase config again sameType
    ((createsAsset_iff mirrors operation args).mpr creates)
  have roomy : ¬config.maxAssets ≤ fresh.nextAssetId := fun full =>
    Nat.not_le.mpr room (assets_full mirrors full)
  simp only [call, runs] at called
  simp only [call, reruns] at recalled
  rw [createAssetId_run config sound.registry.asset_fresh rfl, if_neg roomy,
    if_neg (by simp [mirrors.stale stale])] at called
  rw [createAssetId_run config likewise.registry.asset_fresh rfl, if_neg (Nat.not_le.mpr room),
    if_pos ⟨rfl, stale.1⟩] at recalled
  obtain ⟨rfl, rfl⟩ := Prod.mk.inj (Option.some.inj called)
  obtain ⟨rfl, rfl⟩ := Prod.mk.inj (Option.some.inj recalled)
  exact absurd like.error (by simp)

/-- Where `FIND` goes to the base asset of before the reset, the answers differ. -/
theorem unlike_of_findsStale (mirrors : Mirrors config start fresh again) {args : AssetArgs}
    {operation : Operation} {after later : Memory} {response reply : Response} {names : Renaming}
    (astray : start.FindsStale again operation ((start.shift config).assetArgs args))
    (called : fresh.call config (.retrieveAsset args operation) = some (after, response))
    (recalled : again.call config
      (.retrieveAsset ((start.shift config).assetArgs args) operation) = some (later, reply)) :
    ¬Response.Like names response reply := by
  intro like
  obtain ⟨rfl, sameType, stale, renamed, given, present⟩ := astray
  obtain ⟨assetId, meant, rfl⟩ := Option.map_eq_some_iff.mp given
  have type : args.assetType = some .base := sameType
  rw [mirrors.assets] at present
  obtain ⟨asset, registered⟩ := Option.ne_none_iff_exists'.mp present
  have found := find_given config type meant registered (.inl rfl) fun _ => mirrors.stale stale
  rw [found] at called
  obtain ⟨rfl, rfl⟩ := Prod.mk.inj (Option.some.inj called)
  have goes : again.baseAssetId =
      if Operation.find = .find ∧ AssetType.base = .base ∧ again.baseAssetIdDefined = true then
        again.baseAssetId else (start.shift config).assets assetId := by simp [stale.1]
  have looked := lookForAssetId_run (.inl (.inl rfl)) .base goes
    ((start.shift config).assetArgs args)
  simp [call, retrieveAsset, sameType, retrieveUnkeyedAsset, Option.mem_def.mp given, looked,
    findAssetInto, mirrors.stale_absent stale, requires, settle] at recalled
  obtain ⟨-, rfl⟩ := recalled
  exact absurd like.error (by simp)

/-- A call that meets what the reset has left is answered otherwise than by a new ledger. -/
theorem call_unlike (mirrors : Mirrors config start fresh again) (sound : fresh.Sound config)
    (likewise : again.Sound config) {request : Call} {after later : Memory}
    {response reply : Response} (names : Renaming)
    (met : start.MeetsLeftovers config again ((start.shift config).call request))
    (called : fresh.call config request = some (after, response))
    (recalled : again.call config ((start.shift config).call request) = some (later, reply)) :
    ¬Response.Like names response reply := by
  cases request with
  | retrieveAsset args operation =>
    rcases met with ⟨creates, spent | ⟨type, stale, room⟩⟩ | astray
    · have exhausted : again.Exhausted config
          ((start.shift config).call (.retrieveAsset args operation)) := ⟨creates, spent.1⟩
      have roomy : ¬fresh.Exhausted config (.retrieveAsset args operation) := by
        rintro ⟨-, full⟩
        have behind := spent.2
        rw [mirrors.nextAsset] at behind
        exact Nat.not_le.mpr (Nat.lt_of_add_lt_add_right behind) full
      exact unlike_of_exhausted sound likewise exhausted roomy rfl called recalled
    · have typed : args.assetType = some .base := type
      exact unlike_of_base mirrors sound likewise typed stale room
        ((createsAsset_iff mirrors operation args).mp creates) called recalled
    · exact unlike_of_findsStale mirrors astray called recalled
  | retrieveAccount args operation =>
    obtain ⟨creates, spent⟩ := met
    have exhausted : again.Exhausted config
        ((start.shift config).call (.retrieveAccount args operation)) := ⟨creates, spent.1⟩
    have roomy : ¬fresh.Exhausted config (.retrieveAccount args operation) := by
      rintro ⟨-, full⟩
      have behind := spent.2
      rw [mirrors.nextAccount] at behind
      exact Nat.not_le.mpr (Nat.lt_of_add_lt_add_right behind) full
    exact unlike_of_exhausted sound likewise exhausted roomy rfl called recalled
  | getBalance => exact met.elim
  | deposit => exact met.elim
  | withdraw => exact met.elim
  | transfer => exact met.elim
  | clear => exact met.elim

end Calls

section Runs

/-- The call does not meet what the reset has left. -/
def Afresh (config : Config) (start again : Memory) (request : Call) : Prop :=
  ¬start.MeetsLeftovers config again request

instance (start again : Memory) (request : Call) : Decidable (start.Afresh config again request) :=
  inferInstanceAs (Decidable (¬_))

/-- From ledgers that mirror each other, two runs are answered alike exactly when no call meets what
the reset has left. -/
theorem execute_like_iff (mirrors : Mirrors config start fresh again)
    (sound : fresh.Sound config) (likewise : again.Sound config) {calls : List Call}
    {finish last : Memory} {answers responses : List Response}
    (ran : Run.execute (fun state request => call config state request) fresh calls =
      some (finish, answers))
    (reran : Run.execute (fun state request => call config state request) again
      (calls.map (start.shift config).call) = some (last, responses)) :
    List.Forall₂ (Response.Like (start.shift config)) answers responses ↔
      Run.Permits (fun state request => call config state request) (start.Afresh config) again
        (calls.map (start.shift config).call) := by
  induction calls generalizing fresh again answers responses with
  | nil =>
    obtain ⟨-, rfl⟩ := Prod.mk.inj (Option.some.inj ran)
    obtain ⟨-, rfl⟩ := Prod.mk.inj (Option.some.inj reran)
    exact iff_of_true .nil trivial
  | cons request rest ih =>
    obtain ⟨after, response, others, called, later, rfl⟩ := Run.execute_cons ran
    obtain ⟨next, reply, replies, recalled, relater, rfl⟩ := Run.execute_cons reran
    rw [List.forall₂_cons, List.map_cons, Run.Permits, recalled]
    by_cases met : start.MeetsLeftovers config again ((start.shift config).call request)
    · have unlike := call_unlike mirrors sound likewise (start.shift config) met called recalled
      exact iff_of_false (fun both => unlike both.1) fun both => both.1 met
    · obtain ⟨like, mirrored⟩ := call_like mirrors sound likewise met called recalled
      have tail := ih mirrored ((call_step sound called).sound sound)
        ((call_step likewise recalled).sound likewise) later relater
      exact and_congr (iff_of_true like met) tail

end Runs

end Memory

/-- After a reset, the basic ledger answers as a new one. The memory ledger answers as a new one, up
to the ids, exactly when no call meets what the reset has left. -/
theorem reset_like_new_iff (config : Config) (region other : ℕ → AccountBalance) (start : Memory)
    (reachable : start.Reachable config region Memory.AnyCall) (basic : Basic) (calls : List Call) :
    Run.execute Basic.call basic.clear calls = Run.execute Basic.call .empty calls ∧
      ∀ fresh again answers responses,
        Run.execute (fun state request => Memory.call config state request) (.empty other) calls =
          some (fresh, answers) →
        Run.execute (fun state request => Memory.call config state request) start.clear
          (calls.map (start.shift config).call) = some (again, responses) →
        (List.Forall₂ (Response.Like (start.shift config)) answers responses ↔
          Run.Permits (fun state request => Memory.call config state request)
            (start.Afresh config) start.clear (calls.map (start.shift config).call)) := by
  refine ⟨rfl, ?_⟩
  intro fresh again answers responses ran reran
  exact Memory.execute_like_iff (Memory.Mirrors.of_clear reachable.based other)
    (Memory.sound_empty config other) (Memory.sound_clear config start) ran reran

namespace Memory

/-- Payments between two accounts that a cleared ledger makes as a new one does. -/
def payments : List Call := twoAccounts ++ [sendOne, .getBalance 0 1 (some (zeros 32)) none]

/-- A ledger with an asset and two accounts is cleared, and makes the payments as a new one. -/
theorem payments_like_new : ∃ start fresh again answers responses,
    Reachable fewBalances (fun _ => .zero) AnyCall start ∧ start.nextAssetId = 1 ∧
      Run.execute (fun state request => call fewBalances state request) (empty fun _ => .zero)
        payments = some (fresh, answers) ∧
      Run.execute (fun state request => call fewBalances state request) start.clear
        (payments.map (start.shift fewBalances).call) = some (again, responses) ∧
      List.Forall₂ (Response.Like (start.shift fewBalances)) answers responses := by
  let step := fun state request => call fewBalances state request
  obtain ⟨start, reachable, facts⟩ := exists_reachable fewBalances (fun _ => .zero) twoAccounts
    (fun ledger => (ledger.nextAssetId,
      (Run.execute step ledger.clear (payments.map (ledger.shift fewBalances).call)).isSome,
      decide (Run.Permits step (ledger.Afresh fewBalances) ledger.clear
        (payments.map (ledger.shift fewBalances).call)))) (1, true, true) (by decide +kernel)
  obtain ⟨issued, facts⟩ := Prod.mk.inj facts
  obtain ⟨reruns, permits⟩ := Prod.mk.inj facts
  have runs : (Run.execute step (empty fun _ => .zero) payments).isSome := by decide +kernel
  obtain ⟨⟨fresh, answers⟩, ran⟩ := Option.isSome_iff_exists.mp runs
  obtain ⟨⟨again, responses⟩, reran⟩ := Option.isSome_iff_exists.mp reruns
  obtain ⟨-, iff⟩ := reset_like_new_iff fewBalances (fun _ => .zero) (fun _ => .zero) start
    reachable .empty payments
  exact ⟨start, fresh, again, answers, responses, reachable, issued, ran, reran,
    (iff _ _ _ _ ran reran).mpr (of_decide_eq_true permits)⟩

/-- A ledger that had a base asset is cleared, and refuses to create one. -/
theorem base_not_like_new :
    ¬∀ config region other start, Reachable config region AnyCall start →
      ∀ calls fresh answers,
        Run.execute (fun state request => call config state request) (empty other) calls =
          some (fresh, answers) →
        ∃ names : Renaming, ∀ again responses,
          Run.execute (fun state request => call config state request) start.clear
            (calls.map names.call) = some (again, responses) →
          List.Forall₂ (Response.Like names) answers responses := by
  intro always
  obtain ⟨start, reachable, facts⟩ := exists_reachable fewBalances (fun _ => .zero) [createBase]
    (fun ledger => (ledger.baseAssetIdDefined, ledger.nextAssetId)) (true, 1) (by decide +kernel)
  obtain ⟨defined, issued⟩ := Prod.mk.inj facts
  have runs : (Run.execute (fun state request => call fewBalances state request)
      (empty fun _ => .zero) [createBase]).map (fun finish => finish.2.map Response.error) =
        some [none] := by decide +kernel
  obtain ⟨⟨fresh, answers⟩, ran, errors⟩ := Option.map_eq_some_iff.mp runs
  obtain ⟨names, like⟩ := always fewBalances _ _ start reachable [createBase] fresh answers ran
  have room : ¬fewBalances.maxAssets ≤ start.clear.nextAssetId := by
    change ¬10 ≤ start.nextAssetId
    rw [issued]
    decide
  have vacant := (sound_clear fewBalances start).registry.asset_fresh
  have creates : start.clear.CreatesAsset .create (names.assetArgs selectBase) :=
    ⟨_, rfl, .inl rfl⟩
  obtain ⟨answer, goes⟩ := retrieveAsset_createsBase fewBalances start.clear rfl creates
  rw [createAssetId_run fewBalances vacant rfl, if_neg room, if_pos ⟨rfl, defined⟩] at goes
  have recalled : start.clear.call fewBalances (names.call createBase) = some (start.clear,
      ⟨some ⟨"Base asset already inserted", errorInsertion⟩, .asset answer⟩) :=
    congrArg (settle .asset) goes
  have reran : Run.execute (fun state request => call fewBalances state request) start.clear
      ([createBase].map names.call) = some (start.clear,
        [⟨some ⟨"Base asset already inserted", errorInsertion⟩, .asset answer⟩]) := by
    simp [Run.execute, recalled]
  cases like _ _ reran with
  | cons head tail =>
    rw [List.map_cons, ← head.error] at errors
    cases errors

end Memory

end Libcma

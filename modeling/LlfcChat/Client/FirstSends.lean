/-
The order in which texts are sent for the first time.

The restore after a login sends what it finds in the order of the operations,
and a text that is committed while the client is online is sent at once.  The
register itself is in the order of the client ids, which are random: two texts
that are committed while the chat connection is down, after the register was
restored, wait there side by side and go out in that order when the connection
is back.  In every run that commits no text in this situation the first sends
of each user are in the order of the operations.
-/
import LlfcChat.Client.OutboxActs

namespace LlfcChat.Outbox

variable {cfg : RetryConfig} {env : Env}

/-! ### First sends -/

/-- A 1301 counts if it is transmitted and the first of its operation. -/
def addFirst (uid : Int) (ops : List Int) : Request → List Int
  | .textChatMsg u e true =>
    if u = uid ∧ e.operationId ∉ ops then ops ++ [e.operationId] else ops
  | _ => ops

/-- The operations of a user in the order of their first 1301. -/
def firstSends (uid : Int) (log : List Request) : List Int := log.foldl (addFirst uid) []

theorem firstSends_append (uid : Int) (log new : List Request) :
    firstSends uid (log ++ new) = new.foldl (addFirst uid) (firstSends uid log) := by
  rw [firstSends, List.foldl_append]
  rfl

variable {s : Dispatcher} {o uid : Int} {ops : List Int} {log : List Request} {rt : RuntimeEntry}

theorem mem_addFirst (r : Request) (h : o ∈ ops) : o ∈ addFirst uid ops r := by
  unfold addFirst
  split
  · split
    · exact List.mem_append_left _ h
    · exact h
  · exact h

theorem mem_foldl_addFirst (new : List Request) (h : o ∈ ops) :
    o ∈ new.foldl (addFirst uid) ops := by
  induction new generalizing ops with
  | nil => exact h
  | cons r new ih => exact ih (mem_addFirst r h)

theorem firstSends_mono (new : List Request) (h : o ∈ firstSends uid log) :
    o ∈ firstSends uid (log ++ new) := by
  rw [firstSends_append]
  exact mem_foldl_addFirst new h

/-- What was sent before adds nothing. -/
theorem foldl_addFirst_of_sent (new : List Request)
    (h : ∀ e, .textChatMsg uid e true ∈ new → e.operationId ∈ ops) :
    new.foldl (addFirst uid) ops = ops := by
  induction new with
  | nil => rfl
  | cons r new ih =>
    have hr : addFirst uid ops r = ops := by
      unfold addFirst
      split
      · rename_i u e
        apply if_neg
        rintro ⟨rfl, hnew⟩
        exact hnew (h e List.mem_cons_self)
      · rfl
    rw [List.foldl_cons, hr]
    exact ih fun e he => h e (List.mem_cons_of_mem _ he)

/-- A text that was sent is among the first sends. -/
theorem mem_firstSends {e : OutboxEntryDTO} (h : .textChatMsg uid e true ∈ log) :
    e.operationId ∈ firstSends uid log := by
  obtain ⟨before, after, rfl⟩ := List.append_of_mem h
  rw [firstSends_append, List.foldl_cons]
  apply mem_foldl_addFirst
  show e.operationId ∈ if uid = uid ∧ _ then _ else _
  by_cases hin : e.operationId ∈ firstSends uid before
  · rw [if_neg (fun hc => hc.2 hin)]
    exact hin
  · rw [if_pos ⟨rfl, hin⟩]
    exact List.mem_append_right _ List.mem_cons_self

/-- Nothing else is. -/
theorem of_mem_firstSends (h : o ∈ firstSends uid log) :
    ∃ e, .textChatMsg uid e true ∈ log ∧ e.operationId = o := by
  induction log using List.reverseRecOn with
  | nil => cases h
  | append_singleton log r ih =>
    rw [firstSends_append, List.foldl_cons, List.foldl_nil] at h
    have hold : o ∈ firstSends uid log → ∃ e, .textChatMsg uid e true ∈ log ++ [r] ∧
        e.operationId = o := fun h => by
      obtain ⟨e, he, heq⟩ := ih h
      exact ⟨e, List.mem_append_left _ he, heq⟩
    unfold addFirst at h
    split at h
    · rename_i u e
      split at h
      · rename_i hc
        obtain ⟨rfl, -⟩ := hc
        rcases List.mem_append.mp h with hin | hlast
        · exact hold hin
        · exact ⟨e, List.mem_append_right _ List.mem_cons_self, (List.mem_singleton.mp hlast).symm⟩
      · exact hold h
    · exact hold h

/-! ### What sending changes -/

/-- The entry has been touched: it waits for a transaction or, where `P` holds, is backing
off. -/
def RuntimeEntry.Marked (P : Prop) (rt : RuntimeEntry) : Prop :=
  P ∧ rt.nextRetryAt ≠ 0 ∨ rt.action ≠ .none

/-- The transactions that take a text out of the outbox. -/
def Request.unqueues : Request → Option String
  | .confirmTextSent key _ _ => some key
  | .markSendFailed key => some key
  | _ => none

/-- The messages that are still to be read or uploaded. -/
def Dispatcher.tracked (s : Dispatcher) : List String := s.resumePending ++ s.uploading.map (·.2)

/-- The flags that only the slots change. -/
def Dispatcher.flags (s : Dispatcher) : Bool × Bool × Bool × Bool × Int :=
  (s.connected, s.dbReady, s.restored, s.restoring, s.activeUid)

/-- An entry was touched in `s` already, or its text has been sent by `t`. -/
def Touched (P : Prop) (s t : Dispatcher) (e : OutboxEntryDTO) : Prop :=
  (∃ rt ∈ s.entries, ident rt.entry = ident e ∧ rt.Marked P) ∨
    e.operationId ∈ firstSends s.activeUid t.emitted

/-- The work of a slot on the register as it is.  No entry comes or goes; what is
sent is in the register; a text is only touched when it was sent. -/
structure Works (P : Prop) (s t : Dispatcher) : Prop where
  flags : t.flags = s.flags
  idents : t.entries.map (fun rt => ident rt.entry) = s.entries.map fun rt => ident rt.entry
  tracked : ∀ k ∈ t.tracked, k ∈ s.tracked ∨
    ∃ rt ∈ s.entries, rt.key = k ∧ rt.entry.operationType = .sendResource
  marked : ∀ rt ∈ t.entries, rt.entry.operationType = .sendText → rt.Marked P →
    Touched P s t rt.entry
  log : ∃ new, t.emitted = s.emitted ++ new ∧
    (∀ u e c, .textChatMsg u e c ∈ new → u = s.activeUid ∧ e.operationType = .sendText ∧
      ∃ rt ∈ s.entries, ident rt.entry = ident e) ∧
    (∀ u e, .createResourceMsg u e ∈ new → e.operationType = .sendResource ∧
      ∃ rt ∈ s.entries, ident rt.entry = ident e) ∧
    ∀ r ∈ new, ∀ k, r.unqueues = some k → ∃ rt ∈ s.entries, rt.key = k ∧
      (rt.entry.operationType = .sendText → Touched P s t rt.entry)

section Works

variable {P : Prop} {s t u : Dispatcher}

theorem Works.activeUid (h : Works P s t) : t.activeUid = s.activeUid := by
  have hflags := h.flags
  simp only [Dispatcher.flags, Prod.mk.injEq] at hflags
  exact hflags.2.2.2.2

theorem Works.mem_ident (h : Works P s t) {rt : RuntimeEntry} (hrt : rt ∈ t.entries) :
    ∃ rt' ∈ s.entries, ident rt'.entry = ident rt.entry := by
  have hmem : ident rt.entry ∈ s.entries.map fun rt => ident rt.entry :=
    h.idents ▸ List.mem_map_of_mem hrt
  exact List.mem_map.mp hmem

theorem Works.sent (h : Works P s t) {uid o : Int} (ho : o ∈ firstSends uid s.emitted) :
    o ∈ firstSends uid t.emitted := by
  obtain ⟨new, hnew, -⟩ := h.log
  rw [hnew]
  exact firstSends_mono new ho

theorem Works.refl (s : Dispatcher) : Works P s s where
  flags := rfl
  idents := rfl
  tracked _ hk := .inl hk
  marked rt hrt _ hmarked := .inl ⟨rt, hrt, rfl, hmarked⟩
  log := ⟨[], (List.append_nil _).symm, fun _ _ _ h => absurd h List.not_mem_nil,
    fun _ _ h => absurd h List.not_mem_nil, fun _ h => absurd h List.not_mem_nil⟩

/-- What was touched in the middle was touched before or has been sent. -/
theorem Touched.of_middle (h : Works P s t) (h' : Works P t u) {e : OutboxEntryDTO}
    (htype : e.operationType = .sendText) (he : Touched P t u e) : Touched P s u e := by
  rcases he with ⟨rt, hrt, hident, hmarked⟩ | hsent
  · have hid := ident_inj hident
    rcases h.marked rt hrt (hid.2.2.trans htype) hmarked with ⟨rt', hrt', hident', hm⟩ | hsent
    · exact .inl ⟨rt', hrt', hident'.trans hident, hm⟩
    · rw [hid.1] at hsent
      exact .inr (h'.sent hsent)
  · rw [h.activeUid] at hsent
    exact .inr hsent

theorem Touched.later (h' : Works P t u) {e : OutboxEntryDTO} (he : Touched P s t e) :
    Touched P s u e := by
  rcases he with hmarked | hsent
  · exact .inl hmarked
  · exact .inr (h'.sent hsent)

theorem Works.trans (h : Works P s t) (h' : Works P t u) : Works P s u where
  flags := h'.flags.trans h.flags
  idents := h'.idents.trans h.idents
  tracked k hk := by
    rcases h'.tracked k hk with hk | ⟨rt, hrt, hkey, htype⟩
    · exact h.tracked k hk
    · obtain ⟨rt', hrt', hid⟩ := h.mem_ident hrt
      have hid := ident_inj hid
      exact .inr ⟨rt', hrt', hid.2.1.trans hkey, hid.2.2.trans htype⟩
  marked rt hrt htype hmarked := (h'.marked rt hrt htype hmarked).of_middle h h' htype
  log := by
    obtain ⟨new, hnew, htexts, hcreates, hcloses⟩ := h.log
    obtain ⟨new', hnew', htexts', hcreates', hcloses'⟩ := h'.log
    refine ⟨new ++ new', by rw [hnew', hnew, List.append_assoc], fun v e c he => ?_,
      fun v e he => ?_, fun r hr k hk => ?_⟩
    · rcases List.mem_append.mp he with he | he
      · exact htexts v e c he
      · obtain ⟨hv, htype, rt, hrt, hid⟩ := htexts' v e c he
        obtain ⟨rt', hrt', hid'⟩ := h.mem_ident hrt
        exact ⟨hv.trans h.activeUid, htype, rt', hrt', hid'.trans hid⟩
    · rcases List.mem_append.mp he with he | he
      · exact hcreates v e he
      · obtain ⟨htype, rt, hrt, hid⟩ := hcreates' v e he
        obtain ⟨rt', hrt', hid'⟩ := h.mem_ident hrt
        exact ⟨htype, rt', hrt', hid'.trans hid⟩
    · rcases List.mem_append.mp hr with hr | hr
      · obtain ⟨rt, hrt, hkey, htouched⟩ := hcloses r hr k hk
        exact ⟨rt, hrt, hkey, fun htype => (htouched htype).later h'⟩
      · obtain ⟨rt, hrt, hkey, htouched⟩ := hcloses' r hr k hk
        obtain ⟨rt', hrt', hid⟩ := h.mem_ident hrt
        have hparts := ident_inj hid
        refine ⟨rt', hrt', hparts.2.1.trans hkey, fun htype => ?_⟩
        have hmiddle := (htouched (hparts.2.2.symm.trans htype)).of_middle h h'
          (hparts.2.2.symm.trans htype)
        rcases hmiddle with ⟨x, hx, hxid, hm⟩ | hsent
        · exact .inl ⟨x, hx, hxid.trans hid.symm, hm⟩
        · rw [← hparts.1] at hsent
          exact .inr hsent

/-- One entry is changed and something is handed over for it.  If the entry is a
text that is touched by it, it was touched before or its text is handed over. -/
theorem works_entry (hkeys : s.keys.Nodup) {rt : RuntimeEntry} (hrt : rt ∈ s.entries)
    {f : RuntimeEntry → RuntimeEntry} (hf : ∀ rt, ident (f rt).entry = ident rt.entry)
    (new : List Request) (hflags : t.flags = s.flags)
    (hentries : t.entries = (s.modify rt.key f).entries)
    (hemitted : t.emitted = s.emitted ++ new)
    (htracked : ∀ k ∈ t.tracked, k ∈ s.tracked ∨
      k = rt.key ∧ rt.entry.operationType = .sendResource)
    (htouched : rt.entry.operationType = .sendText →
      (f rt).Marked P ∨ (∃ r ∈ new, r.unqueues ≠ none) → rt.Marked P ∨
        rt.entry.operationId ∈ firstSends s.activeUid t.emitted)
    (hnew : ∀ r ∈ new, (∀ u e c, r = .textChatMsg u e c → u = s.activeUid ∧ e = rt.entry ∧
        e.operationType = .sendText) ∧
      (∀ u e, r = .createResourceMsg u e → e = rt.entry ∧ e.operationType = .sendResource) ∧
      ∀ k, r.unqueues = some k → k = rt.key) : Works P s t where
  flags := hflags
  idents := by
    rw [hentries]
    exact idents_modify s rt.key hf
  tracked k hk := by
    rcases htracked k hk with hk | ⟨rfl, htype⟩
    · exact .inl hk
    · exact .inr ⟨rt, hrt, rfl, htype⟩
  marked x hx htype hmarked := by
    rw [hentries] at hx
    rcases mem_modify hkeys hrt hx with rfl | ⟨hx, -⟩
    · have hid := hf rt
      have hparts := ident_inj hid
      rcases htouched (hparts.2.2.symm.trans htype) (.inl hmarked) with hm | hsent
      · exact .inl ⟨rt, hrt, hid.symm, hm⟩
      · rw [← hparts.1] at hsent
        exact .inr hsent
    · exact .inl ⟨x, hx, rfl, hmarked⟩
  log := by
    refine ⟨new, hemitted, fun u e c he => ?_, fun u e he => ?_, fun r hr k hk => ?_⟩
    · obtain ⟨hu, rfl, htype⟩ := (hnew _ he).1 u e c rfl
      exact ⟨hu, htype, rt, hrt, rfl⟩
    · obtain ⟨rfl, htype⟩ := (hnew _ he).2.1 u e rfl
      exact ⟨htype, rt, hrt, rfl⟩
    · refine ⟨rt, hrt, ((hnew r hr).2.2 k hk).symm, fun htype => ?_⟩
      rcases htouched htype (.inr ⟨r, hr, hk ▸ Option.some_ne_none k⟩) with hm | hsent
      · exact .inl ⟨rt, hrt, rfl, hm⟩
      · exact .inr hsent

/-- Fields that no text is judged by. -/
theorem works_of_same (hflags : t.flags = s.flags) (hentries : t.entries = s.entries)
    (htracked : ∀ k ∈ t.tracked, k ∈ s.tracked ∨
      ∃ rt ∈ s.entries, rt.key = k ∧ rt.entry.operationType = .sendResource)
    (new : List Request) (hemitted : t.emitted = s.emitted ++ new)
    (htexts : ∀ u e c, .textChatMsg u e c ∉ new) (hcreates : ∀ u e, .createResourceMsg u e ∉ new)
    (hcloses : ∀ r ∈ new, r.unqueues = none) : Works P s t where
  flags := hflags
  idents := by rw [hentries]
  tracked := htracked
  marked rt hrt _ hmarked := .inl ⟨rt, hentries ▸ hrt, rfl, hmarked⟩
  log := by
    refine ⟨new, hemitted, fun u e c he => absurd he (htexts u e c),
      fun u e he => absurd he (hcreates u e), fun r hr k hk => ?_⟩
    rw [hcloses r hr] at hk
    cases hk

end Works

/-! ### The acts -/

theorem pendingRequest_spec {r : Request} (hr : r ∈ pendingRequest rt) :
    (∀ u e c, r ≠ .textChatMsg u e c) ∧ (∀ u e, r ≠ .createResourceMsg u e) ∧
      ∀ k, r.unqueues = some k → k = rt.key := by
  unfold pendingRequest at hr
  split at hr
  · cases hr
  all_goals
    obtain rfl := List.mem_singleton.mp hr
    refine ⟨fun _ _ _ => Request.noConfusion, fun _ _ => Request.noConfusion, fun k hk => ?_⟩
    first
      | exact (Option.some.inj hk).symm
      | cases hk

theorem key_set {set : RuntimeEntry → RuntimeEntry} (hset : ∀ rt, (set rt).entry = rt.entry)
    (rt : RuntimeEntry) : (set rt).key = rt.key := by
  unfold RuntimeEntry.key
  rw [hset]

/-- A transaction is begun for a resource, or for a text that was touched or sent. -/
theorem beginAction_works (hkeys : s.keys.Nodup) (hrt : rt ∈ s.entries)
    {set : RuntimeEntry → RuntimeEntry} (hset : ∀ rt, (set rt).entry = rt.entry)
    (action : PendingStoreAction) (hsent : rt.entry.operationType = .sendText →
      rt.Marked P ∨ rt.entry.operationId ∈ firstSends s.activeUid s.emitted) :
    Works P s (beginAction cfg env set rt action s) := by
  refine works_entry hkeys hrt (f := fun rt => (set rt).begin cfg env action) (fun x => ?_)
    (pendingRequest ((set rt).begin cfg env action)) rfl rfl rfl (fun k hk => .inl hk)
    (fun htype _ => ?_) fun r hr => ?_
  · show ident (set x).entry = _
    rw [hset]
  · rcases hsent htype with hm | hsent
    · exact .inl hm
    · exact .inr (firstSends_mono _ hsent)
  · obtain ⟨htext, hcreate, hcloses⟩ := pendingRequest_spec hr
    refine ⟨fun u e c he => absurd he (htext u e c), fun u e he => absurd he (hcreate u e),
      fun k hk => ?_⟩
    rw [hcloses k hk]
    exact key_set hset rt

theorem startResourceUpload_works (hkeys : s.keys.Nodup) {rt' : RuntimeEntry} (hrt : rt ∈ s.entries)
    (htype : rt.entry.operationType = .sendResource) (hkey : rt'.key = rt.key) (messageId : Int) :
    Works P s (startResourceUpload rt' messageId s) := by
  have htext : ¬rt.entry.operationType = .sendText := by
    rw [htype]
    exact OutboxOperation.noConfusion
  rcases startResourceUpload_eq rt' messageId s with heq | heq <;> rw [heq, hkey]
  · exact works_entry hkeys hrt (f := fun rt => { rt with messageId := messageId }) (fun _ => rfl)
      [] rfl rfl (List.append_nil _).symm (fun k hk => .inl hk) (fun h => absurd h htext)
      fun r hr => absurd hr List.not_mem_nil
  · refine works_entry hkeys hrt (f := fun rt => { rt with messageId := messageId })
      (fun _ => rfl) [_] rfl rfl rfl (fun k hk => ?_) (fun h => absurd h htext) fun r hr => ?_
    · rcases List.mem_append.mp hk with hk | hk
      · exact .inl (List.mem_append_left _ hk)
      · rcases List.mem_cons.mp hk with hk | hk
        · exact .inr ⟨hk, htype⟩
        · obtain ⟨x, hx, rfl⟩ := List.mem_map.mp hk
          exact .inl (List.mem_append_right _ (List.mem_map_of_mem (List.mem_of_mem_filter hx)))
    · obtain rfl := List.mem_singleton.mp hr
      exact ⟨fun _ _ _ => Request.noConfusion, fun _ _ => Request.noConfusion,
        fun k hk => by cases hk⟩

theorem readBack_works (hrt : rt ∈ s.entries) (htype : rt.entry.operationType = .sendResource) :
    Works P s (readBack rt.key s) := by
  refine works_of_same rfl rfl (fun k hk => ?_) [.getMessageByClientId rt.key] rfl ?_ ?_ ?_
  · rcases List.mem_cons.mp hk with rfl | hk
    · exact .inr ⟨rt, hrt, rfl, htype⟩
    · exact .inl hk
  · intro u e c h
    cases List.mem_singleton.mp h
  · intro u e h
    cases List.mem_singleton.mp h
  · intro r hr
    obtain rfl := List.mem_singleton.mp hr
    rfl

theorem Act.works {t : Dispatcher} (h : Act cfg env P s t) (hkeys : s.keys.Nodup) :
    Works P s t := by
  cases h with
  | @sendText rt hrt htype haction hup =>
    refine works_entry hkeys hrt (f := scheduleRetry cfg env) (fun _ => rfl)
      [.textChatMsg s.activeUid rt.entry s.connected] rfl rfl rfl (fun k hk => .inl hk)
      (fun _ hm => ?_) fun r hr => ?_
    · -- where it counts that the text backs off, it is sent first
      rcases hm with (⟨hp, -⟩ | hm) | ⟨r, hr, hcloses⟩
      · refine .inr (mem_firstSends (List.mem_append_right _ ?_))
        exact List.mem_singleton.mpr (by rw [hup hp])
      · exact absurd haction hm
      · exact absurd (List.mem_singleton.mp hr ▸ rfl) hcloses
    · obtain rfl := List.mem_singleton.mp hr
      refine ⟨fun u e c he => ?_, fun _ _ => Request.noConfusion, fun k hk => by cases hk⟩
      cases he
      exact ⟨rfl, rfl, htype⟩
  | @sendResource rt hrt htype haction hfile =>
    refine works_entry hkeys hrt (f := scheduleRetry cfg env) (fun _ => rfl)
      [.createResourceMsg s.activeUid rt.entry] rfl rfl rfl (fun k hk => .inl hk)
      (fun htext => ?_) fun r hr => ?_
    · rw [htype] at htext
      cases htext
    · obtain rfl := List.mem_singleton.mp hr
      refine ⟨fun _ _ _ => Request.noConfusion, fun u e he => ?_, fun k hk => by cases hk⟩
      cases he
      exact ⟨rfl, htype⟩
  | @giveUp rt hrt htype haction =>
    refine beginAction_works hkeys hrt (fun _ => rfl) .markFailed fun htext => ?_
    rw [htype] at htext
    cases htext
  | @again rt hrt haction =>
    refine works_entry hkeys hrt (f := scheduleRetry cfg env) (fun _ => rfl)
      (pendingRequest rt) rfl rfl rfl (fun k hk => .inl hk) (fun _ _ => .inl (.inr haction))
      fun r hr => ?_
    obtain ⟨htext, hcreate, hcloses⟩ := pendingRequest_spec hr
    exact ⟨fun u e c he => absurd he (htext u e c), fun u e he => absurd he (hcreate u e), hcloses⟩
  | @upload rt hrt htype hstage haction hid =>
    exact startResourceUpload_works hkeys hrt htype rfl rt.messageId
  | @read rt hrt htype => exact readBack_works hrt htype

theorem Acts.works {t : Dispatcher} (h : Acts cfg env P s t) (hkeys : s.keys.Nodup) :
    Works P s t := by
  induction h with
  | refl => exact Works.refl s
  | tail hacts hact ih =>
    have hmiddle := Acts.keys hacts
    exact ih.trans (hact.works (hmiddle ▸ hkeys))

end LlfcChat.Outbox

/-
The lookups of the outbox.

A resource that is restored from the database has no file in the register until
`getMessageByClientId` has read it back.  The dispatcher remembers the ids that
it waits for in `_resume_pending`, and the result is matched by the id that it
carries.  A lookup that fails carries none: the id stays in the set, the entry
has no file and is passed over by every scan, and as the id is in the set it is
never looked up again.  A lookup that succeeds overwrites the id of the message;
if the 1504 reply has come before it, the transaction that is to record the
upload loses its id.

Here the worker takes the requests strictly in their order.
-/
import LlfcChat.Client.OutboxDurable

namespace LlfcChat.Outbox

/-! ### The worker takes the requests in order -/

/-- The system, how many of the requests the worker has taken, and the ids of the 1504 replies that
began an action. -/
structure Fifo where
  sys : System := {}
  taken : Nat := 0
  announced : String → Int := fun _ => 0

/-- The requests whose results have not been delivered. -/
def Fifo.queue (w : Fifo) : List Request := w.sys.disp.emitted.drop w.taken

inductive FifoEvent
  | event (e : Event)
  /-- The worker carries out the next request. -/
  | deliver (ok : Bool)

/-- The reply begins an action. -/
def Begins (d : Dispatcher) (error : ReplyError) (key : String) : Prop :=
  error = .success ∧ d.emitted.any (·.isResource key) = true ∧
    (d.find key).any (fun rt => rt.action = .none) = true

instance (d : Dispatcher) (error : ReplyError) (key : String) : Decidable (Begins d error key) :=
  inferInstanceAs (Decidable (_ ∧ _ ∧ _))

variable (cfg : RetryConfig)

/-- What waits for the worker is lost with the process; the ids of the server are positive. -/
def fifoStep (w : Fifo) (e : Env × FifoEvent) : Fifo :=
  match e.2 with
  | .deliver ok => match w.sys.disp.emitted[w.taken]? with
    | none => w
    | some r => { w with sys := w.sys.carryOut cfg e.1 ok r, taken := w.taken + 1 }
  | .event (.request _ _) => w
  | .event .restart =>
    { w with sys := step cfg w.sys (e.1, .restart), taken := w.sys.disp.emitted.length }
  | .event (.resourceMsgMetaRsp error key messageId) =>
    if error = .success ∧ messageId ≤ 0 then w
    else
      { w with
        sys := step cfg w.sys (e.1, .resourceMsgMetaRsp error key messageId)
        announced := if Begins w.sys.disp error key then Function.update w.announced key messageId
          else w.announced }
  | .event event => { w with sys := step cfg w.sys (e.1, event) }

def fifoRun (w : Fifo) (es : List (Env × FifoEvent)) : Fifo := es.foldl (fifoStep cfg) w

/-- A run of the worker is one of the system. -/
theorem fifoStep_run (w : Fifo) (e : Env × FifoEvent) :
    ∃ es, (fifoStep cfg w e).sys = run cfg w.sys es := by
  obtain ⟨env, event⟩ := e
  cases event with
  | deliver ok =>
    show ∃ es, Fifo.sys (match w.sys.disp.emitted[w.taken]? with | none => w | some r => _) = _
    split
    · exact ⟨[], rfl⟩
    · rename_i r hr
      refine ⟨[(env, .request r ok)], ?_⟩
      show w.sys.carryOut cfg env ok r = if r ∈ w.sys.disp.emitted then _ else _
      rw [if_pos (List.mem_of_getElem? hr)]
  | event event =>
    cases hevent : event with
    | request r ok => exact ⟨[], rfl⟩
    | resourceMsgMetaRsp error key messageId =>
      unfold fifoStep
      simp only
      split
      · exact ⟨[], rfl⟩
      · exact ⟨[(env, .resourceMsgMetaRsp error key messageId)], rfl⟩
    | _ => exact ⟨[(env, event)], by rw [hevent]; rfl⟩

/-- A lookup that is carried out finds its message, and its result does not meet an entry whose
upload is being recorded. -/
def Sound (w : Fifo) : FifoEvent → Prop
  | .deliver ok => ∀ key, w.sys.disp.emitted[w.taken]? = some (.getMessageByClientId key) →
    ok = true ∧ (w.sys.row key).isSome ∧
      (key ∈ w.sys.disp.resumePending →
        ∀ rt ∈ w.sys.disp.entries, rt.key = key → rt.action ≠ .advanceStage)
  | .event _ => True

/-- Every step of a run is sound. -/
def SoundRun : Fifo → List (Env × FifoEvent) → Prop
  | _, [] => True
  | w, e :: es => Sound w e.2 ∧ SoundRun (fifoStep cfg w e) es

/-! ### The invariant -/

variable {cfg} {env : Env} {rows : List Row} {d d' : Dispatcher} {n : Nat} {ann : String → Int}
variable {rt rt' : RuntimeEntry} {pending pending' : List String}

/-- What holds of an entry while these ids are waited for. -/
structure Neat (ann : String → Int) (pending : List String) (rt : RuntimeEntry) : Prop where
  advancing : rt.action = .advanceStage → rt.messageId = ann rt.key ∧ 0 < rt.messageId
  unread : rt.entry.operationType = .sendResource → ¬rt.action.Closing →
    rt.resource.localMessageId ≤ 0 → rt.key ∈ pending

structure Tidy (n : Nat) (ann : String → Int) (d : Dispatcher) : Prop where
  log : n ≤ d.emitted.length
  looked : ∀ k ∈ d.resumePending, .getMessageByClientId k ∈ d.emitted.drop n
  entries : ∀ rt ∈ d.entries, Neat ann d.resumePending rt

theorem Neat.mono (h : Neat ann pending rt) (hsub : ∀ k ∈ pending, k ∈ pending') :
    Neat ann pending' rt :=
  ⟨h.advancing, fun htype haction hread => hsub _ (h.unread htype haction hread)⟩

theorem Neat.same (h : Neat ann pending rt) (hkey : rt'.key = rt.key)
    (htype : rt'.entry.operationType = rt.entry.operationType) (haction : rt'.action = rt.action)
    (hid : rt'.messageId = rt.messageId) (hresource : rt'.resource = rt.resource) :
    Neat ann pending rt' := by
  constructor
  · rw [haction, hid, hkey]
    exact h.advancing
  · rw [htype, haction, hresource, hkey]
    exact h.unread

theorem Neat.closing (h : rt.action.Closing) : Neat ann pending rt where
  advancing hadvance := by
    rw [hadvance] at h
    exact h.elim
  unread _ hopen _ := absurd h hopen

/-- Entries are changed or go, and something is handed over. -/
theorem Tidy.frame (h : Tidy n ann d) (hentries : ∀ rt ∈ d'.entries, Neat ann d'.resumePending rt)
    (hpending : ∀ k ∈ d'.resumePending, k ∈ d.resumePending ∨
      .getMessageByClientId k ∈ d'.emitted.drop n)
    (hemitted : d.emitted <+: d'.emitted) : Tidy n ann d' where
  log := Nat.le_trans h.log hemitted.length_le
  looked k hk := by
    rcases hpending k hk with hold | hnew
    · obtain ⟨new, hnew⟩ := hemitted
      rw [← hnew, List.drop_append_of_le_length h.log]
      exact List.mem_append_left _ (h.looked k hold)
    · exact hnew
  entries := hentries

variable {f : RuntimeEntry → RuntimeEntry}

/-- One entry is put right, and the others are. -/
theorem tidy_entry (hlog : n ≤ d.emitted.length)
    (hlooked : ∀ k ∈ d.resumePending, .getMessageByClientId k ∈ d.emitted.drop n)
    (hrest : ∀ x ∈ d.entries, x.key ≠ rt.key → Neat ann d.resumePending x) (hkeys : d.keys.Nodup)
    (hrt : rt ∈ d.entries) (hf : Neat ann d.resumePending (f rt))
    (hentries : d'.entries = (d.modify rt.key f).entries)
    (hpending : d'.resumePending = d.resumePending) (hemitted : d.emitted <+: d'.emitted) :
    Tidy n ann d' where
  log := Nat.le_trans hlog hemitted.length_le
  looked k hk := by
    obtain ⟨new, hnew⟩ := hemitted
    rw [← hnew, List.drop_append_of_le_length hlog]
    exact List.mem_append_left _ (hlooked k (hpending ▸ hk))
  entries x hx := by
    rw [hentries] at hx
    rw [hpending]
    rcases mem_modify hkeys hrt hx with rfl | ⟨hx, hne⟩
    · exact hf
    · exact hrest x hx hne

section

variable (h : Tidy n ann d)

include h

theorem Tidy.entry (hkeys : d.keys.Nodup) (hrt : rt ∈ d.entries)
    (hf : Neat ann d.resumePending (f rt)) (hentries : d'.entries = (d.modify rt.key f).entries)
    (hpending : d'.resumePending = d.resumePending) (hemitted : d.emitted <+: d'.emitted) :
    Tidy n ann d' :=
  tidy_entry h.log h.looked (fun x hx _ => h.entries x hx) hkeys hrt hf hentries hpending hemitted

/-- Nothing but flags, the uploads or the log. -/
theorem Tidy.flags (hentries : ∀ rt ∈ d'.entries, rt ∈ d.entries)
    (hpending : d'.resumePending = d.resumePending) (hemitted : d.emitted <+: d'.emitted) :
    Tidy n ann d' :=
  h.frame (fun x hx => hpending ▸ h.entries x (hentries x hx))
    (fun _ hk => .inl (hpending ▸ hk)) hemitted

theorem Tidy.clear (hentries : d'.entries = []) (hpending : d'.resumePending = [])
    (hemitted : d'.emitted = d.emitted) : Tidy n ann d' := by
  refine h.frame (fun x hx => ?_) (fun k hk => ?_) (hemitted ▸ List.prefix_refl _)
  · rw [hentries] at hx
    cases hx
  · rw [hpending] at hk
    cases hk

theorem Tidy.beginAction (hkeys : d.keys.Nodup) (hrt : rt ∈ d.entries)
    {set : RuntimeEntry → RuntimeEntry} {action : PendingStoreAction} (haction : action.Closing) :
    Tidy n ann (beginAction cfg env set rt action d) :=
  h.entry hkeys hrt (f := fun rt => (set rt).begin cfg env action) (Neat.closing haction) rfl rfl
    (List.prefix_append _ _)

theorem Tidy.startResourceUpload (hkeys : d.keys.Nodup) (hrt : rt ∈ d.entries)
    (hkey : rt'.key = rt.key) (haction : rt.action ≠ .advanceStage) (messageId : Int) :
    Tidy n ann (startResourceUpload rt' messageId d) := by
  have hneat : Neat ann d.resumePending { rt with messageId := messageId } :=
    ⟨fun hadvance => absurd hadvance haction, (h.entries rt hrt).unread⟩
  rcases startResourceUpload_eq rt' messageId d with heq | heq <;> rw [heq, hkey]
  · exact h.entry hkeys hrt hneat rfl rfl (List.prefix_refl _)
  · exact h.entry hkeys hrt hneat rfl rfl (List.prefix_append _ _)

theorem Tidy.readBack (key : String) : Tidy n ann (readBack key d) := by
  refine h.frame (fun x hx => (h.entries x hx).mono fun k hk => List.mem_cons_of_mem _ hk)
    (fun k hk => ?_) (List.prefix_append _ _)
  rcases List.mem_cons.mp hk with rfl | hold
  · refine .inr ?_
    show _ ∈ (d.emitted ++ [_]).drop n
    rw [List.drop_append_of_le_length h.log]
    exact List.mem_append_right _ List.mem_cons_self
  · exact .inl hold

end

/-! ### Acts and slots -/

theorem Act.tidy (hact : Act cfg env False d d') (h : Tidy n ann d) (hkeys : d.keys.Nodup) :
    Tidy n ann d' := by
  have hsame : ∀ rt ∈ d.entries, Neat ann d.resumePending (scheduleRetry cfg env rt) :=
    fun rt hrt => (h.entries rt hrt).same rfl rfl rfl rfl rfl
  cases hact with
  | sendText hrt _ _ | sendResource hrt _ _ _ | again hrt _ =>
    exact h.entry hkeys hrt (hsame _ hrt) rfl rfl (List.prefix_append _ _)
  | giveUp hrt _ _ => exact h.beginAction hkeys hrt trivial
  | upload hrt _ _ haction _ =>
    exact h.startResourceUpload hkeys hrt rfl (fun hc => nomatch haction.symm.trans hc) _
  | read _ _ => exact h.readBack _

theorem Acts.tidy (hacts : Acts cfg env False d d') (h : Tidy n ann d) (hkeys : d.keys.Nodup) :
    Tidy n ann d' := by
  induction hacts with
  | refl => exact h
  | tail hacts hact ih => exact hact.tidy ih (Acts.keys hacts ▸ hkeys)

section

variable (h : Tidy n ann d)

include h

theorem Tidy.requestRestore : Tidy n ann (requestRestore env d) := by
  unfold Outbox.requestRestore
  split
  · exact h
  split
  · exact h
  · exact h.flags (fun _ hx => hx) rfl (List.prefix_append _ _)

theorem Tidy.start (hkeys : d.keys.Nodup) : Tidy n ann (slotStart cfg env d) := by
  unfold slotStart
  simp only
  split
  · have hflag : Tidy n ann { d with connected := true, scanning := true } :=
      h.flags (fun _ hx => hx) rfl (List.prefix_refl _)
    exact hflag.requestRestore
  · generalize hd : ({ d with
      connected := true, scanning := true, entries := d.entries.map fun rt =>
        if rt.action = .none then { rt with nextRetryAt := 0 } else rt } : Dispatcher) = d₁
    have hsame : d₁.keys = d.keys := hd ▸ keys_due d.entries
    have htidy : Tidy n ann d₁ := by
      rw [← hd]
      refine h.frame (fun x hx => ?_) (fun k hk => .inl hk) (List.prefix_refl _)
      obtain ⟨rt, hrt, rfl⟩ := List.mem_map.mp hx
      split
      · exact (h.entries rt hrt).same rfl rfl rfl rfl rfl
      · exact h.entries rt hrt
    have hresume : Acts cfg env False d₁ (resumeUploadingEntries d₁) :=
      resumeUploadingEntries_acts d₁
    exact (hresume.trans (dispatchDueEntries_acts _)).tidy htidy (hsame ▸ hkeys)

theorem Tidy.textMsgRsp (hkeys : d.keys.Nodup) (error : ReplyError) (key : String) (messageId : Int)
    (createdAt : Option Int) :
    Tidy n ann (slotTextMsgRsp cfg env error key messageId createdAt d) := by
  unfold slotTextMsgRsp
  split
  · exact h
  rename_i rt hfind
  have hrt := (find_some hfind).1
  split
  · exact h
  split
  · exact h.beginAction hkeys hrt trivial
  · exact h.beginAction hkeys hrt trivial
  · exact h

/-- The reply that begins the action is the one whose id is kept. -/
theorem Tidy.resourceMsgMetaRsp (hkeys : d.keys.Nodup) (error : ReplyError) (key : String)
    {messageId : Int} (hid : ¬(error = .success ∧ messageId ≤ 0)) :
    Tidy n (if Begins d error key then Function.update ann key messageId else ann)
      (if d.emitted.any (·.isResource key) then
        slotResourceMsgMetaRsp cfg env error key messageId d else d) := by
  by_cases hbegins : Begins d error key
  · obtain ⟨rfl, hany, hnone⟩ := hbegins
    rw [if_pos ⟨rfl, hany, hnone⟩, if_pos hany]
    unfold slotResourceMsgMetaRsp
    cases hfind : d.find key with
    | none =>
      rw [hfind] at hnone
      cases hnone
    | some rt =>
      rw [hfind] at hnone
      obtain ⟨hrt, rfl⟩ := find_some hfind
      have haction : rt.action = .none := of_decide_eq_true hnone
      simp only [haction, ne_eq, not_true_eq_false, if_false]
      refine tidy_entry h.log h.looked (fun x hx hne => ?_) hkeys hrt
        (f := fun rt => RuntimeEntry.begin cfg env .advanceStage { rt with messageId := messageId })
        ?_ rfl rfl (List.prefix_append _ _)
      · -- the other entries do not see the new id
        refine ⟨fun hadvance => ?_, (h.entries x hx).unread⟩
        rw [Function.update_of_ne hne]
        exact (h.entries x hx).advancing hadvance
      · have hself : messageId = Function.update ann rt.key messageId rt.key :=
          (Function.update_self rt.key messageId ann).symm
        refine ⟨fun _ => ⟨hself, ?_⟩, fun htype _ hread => ?_⟩
        · exact Int.not_le.mp fun hle => hid ⟨rfl, hle⟩
        · exact (h.entries rt hrt).unread htype (by rw [haction]; exact id) hread
  · rw [if_neg hbegins]
    split
    swap
    · exact h
    rename_i hany
    unfold slotResourceMsgMetaRsp
    split
    · exact h
    rename_i rt hfind
    have hrt := (find_some hfind).1
    split
    · exact h
    rename_i haction
    split
    · exact h.beginAction hkeys hrt trivial
    · exact h.beginAction hkeys hrt trivial
    · exact h.beginAction hkeys hrt trivial
    · refine absurd ⟨rfl, hany, ?_⟩ hbegins
      rw [hfind]
      exact decide_eq_true (Decidable.not_not.mp haction)
    · exact h

theorem Tidy.transferFinished (hkeys : d.keys.Nodup) (snapshot : TransferSnapshot) :
    Tidy n ann (slotTransferFinished cfg env snapshot d) := by
  unfold slotTransferFinished
  split
  · exact h
  split
  · unfold handleUploadFinished
    split
    · exact h
    split
    · exact h.flags (fun _ hx => hx) rfl (List.prefix_refl _)
    rename_i rt hfind
    have hrt := (find_some hfind).1
    split
    · exact h
    split
    · exact h.beginAction hkeys hrt trivial
    · exact h.beginAction hkeys hrt trivial
    · exact h
  · exact h

theorem Tidy.eraseEntry (key : String) : Tidy n ann (eraseEntry key d) :=
  h.flags (fun _ hx => List.mem_of_mem_filter hx) rfl (List.prefix_refl _)

theorem Tidy.closeEntry (action : PendingStoreAction) (ok : Bool) (dto : LocalMessageDTO) :
    Tidy n ann (closeEntry action ok dto d) := by
  unfold Outbox.closeEntry
  split
  · exact h
  split
  · exact h
  split
  · exact h.eraseEntry _
  · exact h

theorem Tidy.resourceConfirmed (ok : Bool) (dto : LocalMessageDTO) :
    Tidy n ann (slotResourceConfirmed ok dto d) := by
  unfold slotResourceConfirmed
  split
  · exact h
  split
  · exact h
  split
  · exact (h.eraseEntry _).flags (fun _ hx => hx) rfl (List.prefix_append _ _)
  · exact h

theorem Tidy.resourceStageUpdated (hkeys : d.keys.Nodup) (ok : Bool) (dto : LocalMessageDTO) :
    Tidy n ann (slotResourceStageUpdated ok dto d) := by
  rcases slotResourceStageUpdated_cases ok dto d with he | ⟨rt, hrt, -, haction, -, he⟩
  · rw [he]
    exact h
  have hneat : Neat ann d.resumePending (rt.advanced dto.messageId) :=
    ⟨fun hadvance => (nomatch hadvance), fun htype _ hread =>
      (h.entries rt hrt).unread htype (by rw [haction]; exact id) hread⟩
  have hmodified : Tidy n ann (d.modify rt.key (.advanced dto.messageId)) :=
    h.entry hkeys hrt hneat rfl rfl (List.prefix_refl _)
  rcases he with he | he
  · rw [he]
    exact hmodified
  · rw [he]
    exact hmodified.startResourceUpload (modify_nodup (fun _ => rfl) hkeys)
      (mem_modify_self hrt _) rfl (fun hadvance => nomatch hadvance) _

/-- The worker takes a request; the lookups that are not this one are still to come. -/
theorem Tidy.pop {r : Request} (hhead : d.emitted[n]? = some r) :
    n + 1 ≤ d.emitted.length ∧ ∀ k ∈ d.resumePending, .getMessageByClientId k ≠ r →
      .getMessageByClientId k ∈ d.emitted.drop (n + 1) := by
  obtain ⟨hlt, hget⟩ := List.getElem?_eq_some_iff.mp hhead
  refine ⟨hlt, fun k hk hne => ?_⟩
  have hmem := h.looked k hk
  rw [List.drop_eq_getElem_cons hlt, hget] at hmem
  exact (List.mem_cons.mp hmem).resolve_left hne

/-- A request that is no lookup. -/
theorem Tidy.next {r : Request} (hhead : d.emitted[n]? = some r)
    (hr : ∀ k, .getMessageByClientId k ≠ r) : Tidy (n + 1) ann d :=
  ⟨(h.pop hhead).1, fun k hk => (h.pop hhead).2 k hk (hr k), h.entries⟩

/-- The lookup at the head of the queue has found its message. -/
theorem Tidy.messageLoaded (hkeys : d.keys.Nodup) {r : Row}
    (hhead : d.emitted[n]? = some (.getMessageByClientId r.key))
    (hadvance : r.key ∈ d.resumePending → ∀ rt ∈ d.entries, rt.key = r.key →
      rt.action ≠ .advanceStage) :
    Tidy (n + 1) ann (slotMessageLoaded cfg env true r.dto r.resource d) := by
  obtain ⟨hlog, hpop⟩ := h.pop hhead
  have hlooked : ∀ k ∈ d.resumePending, k ≠ r.key →
      .getMessageByClientId k ∈ d.emitted.drop (n + 1) := fun k hk hne =>
    hpop k hk fun hsame => hne (Request.getMessageByClientId.inj hsame)
  unfold slotMessageLoaded
  split
  · rename_i hpending
    refine ⟨hlog, fun k hk => hlooked k hk fun hkey => hpending ?_, h.entries⟩
    rw [hkey] at hk
    exact hk
  rename_i hpending
  rw [Decidable.not_not] at hpending
  simp only
  generalize hd : ({ d with
    resumePending := d.resumePending.filter (· ≠ r.dto.clientMessageId) } : Dispatcher) = d₁
  have hmem : ∀ k, k ∈ d₁.resumePending ↔ k ∈ d.resumePending ∧ k ≠ r.key := fun k => by
    rw [← hd]
    show k ∈ d.resumePending.filter (· ≠ r.key) ↔ _
    rw [List.mem_filter, decide_eq_true_eq]
  have hentries : d₁.entries = d.entries := by rw [← hd]
  have hemitted : d₁.emitted = d.emitted := by rw [← hd]
  have hlooked₁ : ∀ k ∈ d₁.resumePending,
      .getMessageByClientId k ∈ d₁.emitted.drop (n + 1) := fun k hk => by
    rw [hemitted]
    exact hlooked k ((hmem k).mp hk).1 ((hmem k).mp hk).2
  have hrest : ∀ x ∈ d₁.entries, x.key ≠ r.key → Neat ann d₁.resumePending x := fun x hx hne =>
    have hneat := h.entries x (hentries ▸ hx)
    ⟨hneat.advancing, fun htype haction hread =>
      (hmem x.key).mpr ⟨hneat.unread htype haction hread, hne⟩⟩
  have hkeys₁ : d₁.keys.Nodup := by
    unfold Dispatcher.keys
    rw [hentries]
    exact hkeys
  split
  · rename_i hfind
    refine ⟨hemitted ▸ hlog, hlooked₁, fun x hx => hrest x hx fun hkey => ?_⟩
    have hnone := List.find?_eq_none.mp hfind x hx
    exact hnone (decide_eq_true hkey)
  rename_i rt hfind
  obtain ⟨hrt, hkey⟩ := find_some hfind
  have hkey' : rt.key = r.key := hkey
  rw [← hkey'] at hrest
  split
  · exact tidy_entry (hemitted ▸ hlog) hlooked₁ hrest hkeys₁ hrt
      (f := fun rt => rt.begin cfg env .markFailed) (Neat.closing trivial) rfl rfl
      (List.prefix_append _ _)
  rename_i hgood
  simp only [not_or, Int.not_le] at hgood
  generalize hset : (fun rt : RuntimeEntry =>
    { rt with resource := r.resource, messageId := r.dto.messageId }) = set
  have hsetkey : ∀ x, (set x).key = x.key := by
    rw [← hset]
    exact fun _ => rfl
  have haction : (set rt).action ≠ .advanceStage := by
    rw [← hset]
    exact hadvance hpending rt (hentries ▸ hrt) hkey'
  have hneat : Neat ann d₁.resumePending (set rt) := by
    refine ⟨fun hc => absurd hc haction, fun _ _ hread => ?_⟩
    rw [← hset] at hread
    exact absurd hread (Int.not_le.mpr hgood.2.1)
  have htidy : Tidy (n + 1) ann (d₁.modify rt.key set) :=
    tidy_entry (hemitted ▸ hlog) hlooked₁ hrest hkeys₁ hrt hneat rfl rfl (List.prefix_refl _)
  have hmkeys : (d₁.modify rt.key set).keys.Nodup := by
    rw [modify_keys d₁ rt.key hsetkey]
    exact hkeys₁
  have hself := mem_modify_self hrt set
  subst hset
  split
  · split
    · exact htidy.entry hmkeys hself (f := fun rt => rt.begin cfg env .markFailed)
        (Neat.closing trivial) rfl rfl (List.prefix_append _ _)
    split
    · exact htidy.startResourceUpload hmkeys hself rfl haction _
    · exact htidy
  · exact Acts.tidy (dispatchDueEntries_acts _) htidy hmkeys

theorem Tidy.register (hrt : Neat ann d.resumePending rt) : Tidy n ann (register rt d) := by
  unfold Outbox.register
  split
  · exact h
  · refine h.frame (fun x hx => ?_) (fun k hk => .inl hk) (List.prefix_refl _)
    rcases List.mem_cons.mp ((insertEntry_perm rt d.entries).mem_iff.mp hx) with rfl | hx
    · exact hrt
    · exact h.entries x hx

theorem Tidy.sendEnqueued (hkeys : d.keys.Nodup) {entry : OutboxEntryDTO}
    {resource : LocalMessageResourceDTO}
    (hresource : entry.operationType = .sendResource → 0 < resource.localMessageId) :
    Tidy n ann (slotSendEnqueued cfg env true resource entry d) := by
  unfold slotSendEnqueued
  rw [if_neg (by decide)]
  split
  · exact h
  · refine Acts.tidy (dispatchDueEntries_acts _) (h.register ?_) (nodup_register hkeys _)
    exact ⟨fun hc => (nomatch hc), fun htype _ hread =>
      absurd hread (Int.not_le.mpr (hresource htype))⟩

end

/-! ### A restored register -/

/-- The entries that a restored register starts with; those whose key is loaded may lack a file. -/
theorem registerAll_cases (es : List OutboxEntryDTO) (d : Dispatcher) :
    let d' := es.foldl (fun s entry => register { entry := entry } s) d
    (d'.resumePending = d.resumePending ∧ d'.emitted = d.emitted) ∧
      ∀ x ∈ d'.entries, x ∈ d.entries ∨ ∃ e ∈ es, x = { entry := e } := by
  induction es generalizing d with
  | nil => exact ⟨⟨rfl, rfl⟩, fun x hx => .inl hx⟩
  | cons e es ih =>
    obtain ⟨⟨hpending, hemitted⟩, hentries⟩ := ih (register { entry := e } d)
    have hsame : (register { entry := e } d).resumePending = d.resumePending ∧
        (register { entry := e } d).emitted = d.emitted := by
      unfold register
      split <;> exact ⟨rfl, rfl⟩
    refine ⟨⟨hpending.trans hsame.1, hemitted.trans hsame.2⟩, fun x hx => ?_⟩
    rcases hentries x hx with hold | ⟨e', he', rfl⟩
    · unfold register at hold
      split at hold
      · exact .inl hold
      · rcases List.mem_cons.mp ((insertEntry_perm _ d.entries).mem_iff.mp hold) with rfl | hold
        · exact .inr ⟨e, List.mem_cons_self, rfl⟩
        · exact .inl hold
    · exact .inr ⟨e', List.mem_cons_of_mem _ he', rfl⟩

/-- Behind the second loop every resource that was loaded is looked up. -/
theorem readBackRestored_cases (es : List OutboxEntryDTO) {d : Dispatcher}
    (hlog : n ≤ d.emitted.length)
    (hlooked : ∀ k ∈ d.resumePending, .getMessageByClientId k ∈ d.emitted.drop n) :
    let d' := es.foldl readBackRestored d
    (d'.entries = d.entries ∧ (∀ k ∈ d.resumePending, k ∈ d'.resumePending) ∧
      n ≤ d'.emitted.length) ∧
      (∀ k ∈ d'.resumePending, .getMessageByClientId k ∈ d'.emitted.drop n) ∧
      ∀ e ∈ es, e.operationType = .sendResource → e.clientMessageId ∈ d'.resumePending := by
  induction es generalizing d with
  | nil => exact ⟨⟨rfl, fun _ hk => hk, hlog⟩, hlooked, fun e he => absurd he List.not_mem_nil⟩
  | cons e es ih =>
    have hone : (readBackRestored d e).entries = d.entries ∧
        (∀ k ∈ d.resumePending, k ∈ (readBackRestored d e).resumePending) ∧
        n ≤ (readBackRestored d e).emitted.length ∧
        (∀ k ∈ (readBackRestored d e).resumePending,
          .getMessageByClientId k ∈ (readBackRestored d e).emitted.drop n) ∧
        (e.operationType = .sendResource →
          e.clientMessageId ∈ (readBackRestored d e).resumePending) := by
      unfold readBackRestored
      split
      · rename_i hskip
        exact ⟨rfl, fun _ hk => hk, hlog, hlooked, fun htype => hskip.resolve_left (· htype)⟩
      · refine ⟨rfl, fun k hk => List.mem_cons_of_mem _ hk, ?_, fun k hk => ?_,
          fun _ => List.mem_cons_self⟩
        · exact Nat.le_trans hlog (List.prefix_append d.emitted _).length_le
        · show _ ∈ (d.emitted ++ [_]).drop n
          rw [List.drop_append_of_le_length hlog]
          rcases List.mem_cons.mp hk with rfl | hold
          · exact List.mem_append_right _ List.mem_cons_self
          · exact List.mem_append_left _ (hlooked k hold)
    obtain ⟨hentries, hsub, hlog', hlooked', hself⟩ := hone
    obtain ⟨⟨hentries', hsub', hlog''⟩, hlooked'', hall⟩ := ih hlog' hlooked'
    refine ⟨⟨hentries'.trans hentries, fun k hk => hsub' k (hsub k hk), hlog''⟩, hlooked'',
      fun e' he' htype => ?_⟩
    rcases List.mem_cons.mp he' with rfl | he'
    · exact hsub' _ (hself htype)
    · exact hall e' he' htype

theorem Tidy.outboxLoaded (h : Tidy n ann d) (hkeys : d.keys.Nodup) (es : List OutboxEntryDTO) :
    Tidy n ann (slotOutboxLoaded cfg env true es d) := by
  unfold slotOutboxLoaded
  split
  · exact h
  simp only
  generalize hd : ({ d with restoring := false, restoreRetryAt := 0, restored := true } :
    Dispatcher) = d₁
  have hflag : Tidy n ann d₁ := by
    rw [← hd]
    exact h.flags (fun _ hx => hx) rfl (List.prefix_refl _)
  have hkeys₁ : d₁.keys.Nodup := by
    rw [← hd]
    exact hkeys
  obtain ⟨⟨hpending, hemitted⟩, hentries⟩ := registerAll_cases es d₁
  have hnodup : (es.foldl (fun s entry => Outbox.register { entry := entry } s) d₁).keys.Nodup := by
    clear hentries hpending hemitted hflag hd
    induction es generalizing d₁ with
    | nil => exact hkeys₁
    | cons e es ih => exact ih _ (nodup_register hkeys₁ _)
  generalize es.foldl (fun s entry => Outbox.register { entry := entry } s) d₁ = d₂ at *
  obtain ⟨⟨hentries', hsub, hlog⟩, hlooked, hall⟩ := readBackRestored_cases es (d := d₂)
    (hemitted ▸ hflag.log) fun k hk => by
      rw [hemitted]
      exact hflag.looked k (hpending ▸ hk)
  have hread : Tidy n ann (es.foldl Outbox.readBackRestored d₂) := by
    refine ⟨hlog, hlooked, fun x hx => ?_⟩
    rcases hentries x (hentries' ▸ hx) with hold | ⟨e, he, rfl⟩
    · exact (hflag.entries x hold).mono fun k hk => hsub k (hpending ▸ hk)
    · exact ⟨fun hc => (nomatch hc), fun htype _ _ => hall e he htype⟩
  have hkeys₂ : (es.foldl Outbox.readBackRestored d₂).keys.Nodup := by
    unfold Dispatcher.keys
    rw [hentries']
    exact hnodup
  refine Acts.tidy (Acts.trans ?_ (dispatchDueEntries_acts _)) hread hkeys₂
  exact dispatchRestoredFirstRound_acts es _ False.elim

/-! ### Steps -/

/-- A transaction on a row changes the register through its slot only. -/
theorem transact_disp (s : System) (key : String) (ok : Bool) (p : Row → Bool) (f : Row → Row)
    (slot : Bool → LocalMessageDTO → Dispatcher → Dispatcher) :
    ∃ ok' dto, (s.transact key ok p f slot).disp = slot ok' dto s.disp := by
  unfold System.transact
  split
  · split
    · exact ⟨true, _, rfl⟩
    · exact ⟨false, {}, rfl⟩
  · exact ⟨false, {}, rfl⟩

theorem Tidy.carryOut {s : System} (h : Tidy n ann s.disp) (hkeys : s.disp.keys.Nodup) {r : Request}
    (hhead : s.disp.emitted[n]? = some r) {ok : Bool}
    (hsound : ∀ key, r = .getMessageByClientId key → ok = true ∧ (s.row key).isSome ∧
      (key ∈ s.disp.resumePending → ∀ rt ∈ s.disp.entries, rt.key = key →
        rt.action ≠ .advanceStage)) :
    Tidy (n + 1) ann (s.carryOut cfg env ok r).disp := by
  cases r with
  | getMessageByClientId key =>
    obtain ⟨rfl, hfound, hadvance⟩ := hsound key rfl
    obtain ⟨row, hrow⟩ := Option.isSome_iff_exists.mp hfound
    obtain ⟨-, rfl, -⟩ := row_some hrow
    simp only [System.carryOut, hrow, if_pos]
    exact h.messageLoaded hkeys hhead hadvance
  | confirmTextSent key messageId createdAt =>
    have hnext := h.next hhead fun _ => Request.noConfusion
    obtain ⟨ok', dto, heq⟩ := transact_disp s key ok _ _ slotSendConfirmed
    exact heq ▸ hnext.closeEntry _ ok' dto
  | confirmResourceSent key path =>
    have hnext := h.next hhead fun _ => Request.noConfusion
    obtain ⟨ok', dto, heq⟩ := transact_disp s key ok _ _ slotResourceConfirmed
    exact heq ▸ hnext.resourceConfirmed ok' dto
  | markSendFailed key =>
    have hnext := h.next hhead fun _ => Request.noConfusion
    obtain ⟨ok', dto, heq⟩ := transact_disp s key ok _ _ slotSendFailedMarked
    exact heq ▸ hnext.closeEntry _ ok' dto
  | updateResourceStage key messageId =>
    have hnext := h.next hhead fun _ => Request.noConfusion
    obtain ⟨ok', dto, heq⟩ := transact_disp s key ok _ _ slotResourceStageUpdated
    exact heq ▸ hnext.resourceStageUpdated hkeys ok' dto
  | loadOutbox =>
    have hnext := h.next hhead fun _ => Request.noConfusion
    simp only [System.carryOut]
    split
    · exact hnext.outboxLoaded hkeys _
    · show Tidy (n + 1) ann (slotOutboxLoaded cfg env false [] s.disp)
      unfold slotOutboxLoaded
      split
      · exact hnext
      · exact hnext.flags (fun _ hx => hx) rfl (List.prefix_refl _)
  | updateResourceLocalPath messageId path ownerUid =>
    have hnext := h.next hhead fun _ => Request.noConfusion
    exact of_ite (R := fun _ => Tidy (n + 1) ann) (fun _ => hnext) hnext
  | textChatMsg | createResourceMsg | postStartUpload | archive =>
    exact h.next hhead fun _ => Request.noConfusion

/-- The events that are neither a request, a 1504 reply nor the end of the process. -/
theorem Tidy.step {s : System} (h : Tidy n ann s.disp) (hkeys : s.disp.keys.Nodup) (env : Env)
    {e : Event} (hrequest : ∀ r ok, e ≠ .request r ok)
    (hmeta : ∀ error key messageId, e ≠ .resourceMsgMetaRsp error key messageId)
    (hrestart : e ≠ .restart) : Tidy n ann (step cfg s (env, e)).disp := by
  have hflag : ∀ {d' : Dispatcher}, d'.entries = s.disp.entries →
      d'.resumePending = s.disp.resumePending → d'.emitted = s.disp.emitted → Tidy n ann d' :=
    fun hentries hpending hemitted =>
      h.flags (fun x hx => hentries ▸ hx) hpending (hemitted ▸ List.prefix_refl _)
  cases e with
  | start => exact h.start hkeys
  | scanTimeout =>
    show Tidy n ann (slotScanTimeout cfg env s.disp)
    unfold slotScanTimeout
    split
    · exact hflag rfl rfl rfl
    · refine Acts.tidy (dispatchDueEntries_acts _) h.requestRestore ?_
      rw [requestRestore_keys]
      exact hkeys
  | connectionClosed | resourceConnectionClosed => exact hflag rfl rfl rfl
  | resourceLoginSuccess =>
    have hready : Tidy n ann { s.disp with resourceReady := true } := hflag rfl rfl rfl
    have hacts : Acts {} env False { s.disp with resourceReady := true }
        (resumeUploadingEntries { s.disp with resourceReady := true }) :=
      resumeUploadingEntries_acts _
    exact hacts.tidy hready hkeys
  | dbOpened ok uid =>
    show Tidy n ann (slotDbOpened env ok uid s.disp)
    unfold slotDbOpened
    split
    · exact h.clear rfl rfl rfl
    split
    · exact h.requestRestore
    · have hclear : Tidy n ann { clearRegister s.disp uid true with
          generation := s.disp.generation + 1, scanning := true } := h.clear rfl rfl rfl
      exact hclear.requestRestore
  | dbClosed => exact h.clear rfl rfl rfl
  | enqueueSend operationId key operationType payloadJson resource ok =>
    exact of_ite (R := fun _ => Tidy n ann)
      (fun hcommit => h.sendEnqueued hkeys hcommit.2.2.2.2.2) h
  | textMsgRsp error key messageId createdAt =>
    exact of_ite (R := fun _ => Tidy n ann)
      (fun _ => h.textMsgRsp hkeys error key messageId createdAt) h
  | resourceMsgMetaRsp error key messageId => exact absurd rfl (hmeta error key messageId)
  | transferFinished snapshot => exact h.transferFinished hkeys snapshot
  | request r ok => exact absurd rfl (hrequest r ok)
  | archived messageId ownerUid generation path =>
    show Tidy n ann (finishArchive messageId ownerUid generation path s.disp)
    unfold finishArchive
    split
    · exact h
    · exact h.flags (fun _ hx => hx) rfl (List.prefix_append _ _)
  | restart => exact absurd rfl hrestart

/-- Every sound step keeps the books. -/
theorem Tidy.fifoStep {w : Fifo} (h : Tidy w.taken w.announced w.sys.disp)
    (hkeys : w.sys.disp.keys.Nodup) (e : Env × FifoEvent) (hsound : Sound w e.2) :
    Tidy (fifoStep cfg w e).taken (fifoStep cfg w e).announced (fifoStep cfg w e).sys.disp := by
  obtain ⟨env, event⟩ := e
  cases event with
  | deliver ok =>
    unfold Outbox.fifoStep
    simp only
    split
    · exact h
    · rename_i r hhead
      exact h.carryOut hkeys hhead fun key hkey => hsound key (hkey ▸ hhead)
  | event event =>
    cases event with
    | request r ok => exact h
    | restart =>
      refine ⟨Nat.le_refl _, fun k hk => ?_, fun x hx => ?_⟩
      · cases hk
      · cases hx
    | resourceMsgMetaRsp error key messageId =>
      unfold Outbox.fifoStep
      simp only
      split
      · exact h
      · rename_i hid
        have hdisp : (Outbox.step cfg w.sys (env, .resourceMsgMetaRsp error key messageId)).disp =
            if w.sys.disp.emitted.any (·.isResource key) then
              slotResourceMsgMetaRsp cfg env error key messageId w.sys.disp else w.sys.disp := by
          unfold Outbox.step
          simp only
          split <;> rfl
        simp only [hdisp]
        exact h.resourceMsgMetaRsp hkeys error key hid
    | _ =>
      exact h.step hkeys env (fun _ _ => Event.noConfusion) (fun _ _ _ => Event.noConfusion)
        Event.noConfusion

theorem tidy_run (es : List (Env × FifoEvent)) {w : Fifo}
    (hw : ∃ es, w.sys = run cfg {} es) (h : Tidy w.taken w.announced w.sys.disp)
    (hsound : SoundRun cfg w es) :
    Tidy (fifoRun cfg w es).taken (fifoRun cfg w es).announced (fifoRun cfg w es).sys.disp := by
  induction es generalizing w with
  | nil => exact h
  | cons e es ih =>
    obtain ⟨log, hlog⟩ := hw
    have hkeys : w.sys.disp.keys.Nodup := hlog ▸ (run_invariants cfg log).1.keys
    obtain ⟨more, hmore⟩ := fifoStep_run cfg w e
    refine ih ⟨log ++ more, ?_⟩ (h.fifoStep hkeys e hsound.1) hsound.2
    rw [hmore, hlog]
    exact (List.foldl_append ..).symm

/-- In a run in which no lookup fails and no result meets an entry whose upload is being recorded:
what the dispatcher waits for is under way, an upload is recorded with the id of the reply, and a
resource that has no file and no transaction before it is being looked up. -/
theorem resume_bookkeeping (cfg : RetryConfig) (es : List (Env × FifoEvent))
    (hsound : SoundRun cfg {} es) :
    let w := fifoRun cfg {} es
    (∀ k ∈ w.sys.disp.resumePending, .getMessageByClientId k ∈ w.queue) ∧
    (∀ rt ∈ w.sys.disp.entries, rt.action = .advanceStage →
      rt.messageId = w.announced rt.key ∧ 0 < rt.messageId) ∧
    ∀ rt ∈ w.sys.disp.entries, rt.entry.operationType = .sendResource → rt.action = .none →
      rt.resource.localMessageId ≤ 0 → .getMessageByClientId rt.key ∈ w.queue := by
  have h := tidy_run es (w := {}) ⟨[], rfl⟩ ⟨Nat.le_refl _, fun k hk => (nomatch hk),
    fun x hx => (nomatch hx)⟩ hsound
  refine ⟨h.looked, fun rt hrt => (h.entries rt hrt).advancing,
    fun rt hrt htype haction hread => ?_⟩
  exact h.looked rt.key ((h.entries rt hrt).unread htype (by rw [haction]; exact id) hread)

/-- A picture is enqueued, and the process ends; the next one restores it. -/
def restored : List (Env × FifoEvent) :=
  [.event (.dbOpened true 1),
    .event (.enqueueSend 1 "m1" .sendResource "p"
      { localMessageId := 1, localFilePath := "f", fileSizeBytes := 5 } true),
    .event .restart, .event (.dbOpened true 1), .event .start, .deliver true].map fun e =>
      (fileEnv 0, e)

theorem resume_bookkeeping_restored :
    SoundRun {} {} restored ∧ (fifoRun {} {} restored).sys.disp.resumePending = ["m1"] ∧
      ∀ k ∈ (fifoRun {} {} restored).sys.disp.resumePending,
        .getMessageByClientId k ∈ (fifoRun {} {} restored).queue := by
  have hsound : SoundRun {} {} restored := by
    refine ⟨trivial, trivial, trivial, trivial, trivial, fun key hkey => ?_, trivial⟩
    cases hkey
  exact ⟨hsound, by decide +kernel, (resume_bookkeeping {} restored hsound).1⟩

/-- The lookup of the restored picture fails. -/
def failedLookup : List (Env × FifoEvent) :=
  restored ++ [(fileEnv 0, .deliver false), (fileEnv 0, .event .resourceLoginSuccess),
    ({ fileEnv 0 with now := 100000 }, .event .scanTimeout)]

/-- A picture is enqueued before the register is restored; the 1504 reply comes before the result
of its lookup. -/
def earlyReply : List (Env × FifoEvent) :=
  [.event (.dbOpened true 1),
    .event (.enqueueSend 1 "m1" .sendResource "p"
      { localMessageId := 1, localFilePath := "f", fileSizeBytes := 5 } true),
    .event .start, .deliver true, .event (.resourceMsgMetaRsp .success "m1" 7),
    .deliver true].map fun e => (fileEnv 0, e)

/-- The failed lookup leaves the id in the set with nothing under way, and the picture is neither
sent nor marked.  The late result takes the id 7 away from the transaction. -/
theorem resume_bookkeeping_broken :
    ((fifoRun {} {} failedLookup).sys.disp.resumePending = ["m1"] ∧
      (fifoRun {} {} failedLookup).queue = [] ∧
      (fifoRun {} {} failedLookup).sys.disp.entries.map
        (fun rt => (rt.action, rt.resource.localMessageId)) = [(.none, 0)] ∧
      (fifoRun {} {} failedLookup).sys.disp.emitted.all (fun r => !r.isResource "m1") = true) ∧
    (fifoRun {} {} earlyReply).announced "m1" = 7 ∧
      (fifoRun {} {} earlyReply).sys.disp.entries.map (fun rt => (rt.action, rt.messageId)) =
        [(.advanceStage, 0)] := by
  decide +kernel

end LlfcChat.Outbox

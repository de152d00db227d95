/-
The acts of the outbox dispatcher.

The three loops over the register (`dispatchDueEntries`,
`dispatchRestoredFirstRound`, `resumeUploadingEntries`) do only six things, each
to one entry: send a text, send the metadata of a resource, give up a resource
whose file is gone, repeat a transaction, start an upload, read a message back.
`Act` lists them with what is known of the entry.  Whatever an act keeps, the
loops keep.
-/
import LlfcChat.Client.Outbox

namespace LlfcChat.Outbox

/-! ### Entries of the register -/

variable {s : Dispatcher} {rt : RuntimeEntry}

theorem find_some {key : String} (h : s.find key = some rt) : rt ∈ s.entries ∧ rt.key = key := by
  refine ⟨List.mem_of_find?_eq_some h, ?_⟩
  have hkey := List.find?_some h
  exact of_decide_eq_true hkey

theorem find_isSome {key : String} : (s.find key).isSome ↔ ∃ rt ∈ s.entries, rt.key = key := by
  rw [Dispatcher.find, List.find?_isSome]
  simp only [decide_eq_true_eq]

/-- The register holds one entry for a key. -/
theorem eq_of_key (h : s.keys.Nodup) {rt' : RuntimeEntry} (hrt : rt ∈ s.entries)
    (hrt' : rt' ∈ s.entries) (hkey : rt.key = rt'.key) : rt = rt' :=
  List.inj_on_of_nodup_map h hrt hrt' hkey

theorem find_of_mem (h : s.keys.Nodup) (hrt : rt ∈ s.entries) : s.find rt.key = some rt := by
  obtain ⟨rt', hfind⟩ := Option.isSome_iff_exists.mp (find_isSome.mpr ⟨rt, hrt, rfl⟩)
  obtain ⟨hrt', hkey⟩ := find_some hfind
  rw [hfind, eq_of_key h hrt' hrt hkey]

/-- After a change an entry is the changed one, or another that is as it was. -/
theorem mem_modify (h : s.keys.Nodup) (hrt : rt ∈ s.entries) {f : RuntimeEntry → RuntimeEntry}
    {x : RuntimeEntry} (hx : x ∈ (s.modify rt.key f).entries) :
    x = f rt ∨ x ∈ s.entries ∧ x.key ≠ rt.key := by
  obtain ⟨y, hy, rfl⟩ := Table.mem_update.mp hx
  unfold Table.updated
  split
  · rename_i hkey
    rw [eq_of_key h hy hrt hkey]
    exact .inl rfl
  · rename_i hkey
    exact .inr ⟨hy, hkey⟩

/-- What never changes of an entry. -/
def ident (e : OutboxEntryDTO) : Int × String × OutboxOperation :=
  (e.operationId, e.clientMessageId, e.operationType)

theorem ident_inj {e e' : OutboxEntryDTO} (h : ident e = ident e') :
    e.operationId = e'.operationId ∧ e.clientMessageId = e'.clientMessageId ∧
      e.operationType = e'.operationType := by
  simpa only [ident, Prod.mk.injEq] using h

theorem idents_modify (s : Dispatcher) (key : String) {f : RuntimeEntry → RuntimeEntry}
    (hf : ∀ rt, ident (f rt).entry = ident rt.entry) :
    (s.modify key f).entries.map (fun rt => ident rt.entry) =
      s.entries.map fun rt => ident rt.entry :=
  Table.map_update hf s.entries

theorem modify_keys (s : Dispatcher) (key : String) {f : RuntimeEntry → RuntimeEntry}
    (hf : ∀ rt, (f rt).key = rt.key) : (s.modify key f).keys = s.keys :=
  Table.map_update hf s.entries

theorem modify_nodup {key : String} {f : RuntimeEntry → RuntimeEntry}
    (hf : ∀ rt, (f rt).key = rt.key) (h : s.keys.Nodup) : (s.modify key f).keys.Nodup := by
  rw [modify_keys s key hf]
  exact h

theorem mem_modify_self {rt : RuntimeEntry} (hrt : rt ∈ s.entries)
    (f : RuntimeEntry → RuntimeEntry) : f rt ∈ (s.modify rt.key f).entries :=
  Table.mem_update.mpr
    ⟨rt, hrt, Table.updated_pos (p := fun x : RuntimeEntry => x.key = rt.key) rfl⟩

/-- The entry of a message that was announced. -/
def RuntimeEntry.advanced (messageId : Int) (rt : RuntimeEntry) : RuntimeEntry :=
  { rt with
    action := .none
    entry := { rt.entry with stage := .uploading }
    messageId := messageId
    retryCount := 0
    nextRetryAt := 0 }

theorem slotResourceStageUpdated_cases (ok : Bool) (dto : LocalMessageDTO) (s : Dispatcher) :
    slotResourceStageUpdated ok dto s = s ∨ ∃ rt ∈ s.entries, rt.key = dto.clientMessageId ∧
      rt.action = .advanceStage ∧ ok = true ∧
      (slotResourceStageUpdated ok dto s = s.modify rt.key (.advanced dto.messageId) ∨
        slotResourceStageUpdated ok dto s = startResourceUpload (rt.advanced dto.messageId)
          dto.messageId (s.modify rt.key (.advanced dto.messageId))) := by
  unfold slotResourceStageUpdated
  split
  · exact .inl rfl
  rename_i rt hfind
  obtain ⟨hrt, hkey⟩ := find_some hfind
  split
  · exact .inl rfl
  rename_i hguard
  rw [not_or, Decidable.not_not, Bool.not_eq_false] at hguard
  refine .inr ⟨rt, hrt, hkey, hguard.1, hguard.2, ?_⟩
  simp only
  split
  · exact .inr rfl
  · exact .inl rfl

/-- The keys are part of what never changes. -/
theorem keys_of_idents {t : Dispatcher}
    (h : t.entries.map (fun rt => ident rt.entry) = s.entries.map fun rt => ident rt.entry) :
    t.keys = s.keys := by
  have hkeys := congrArg (List.map fun i : Int × String × OutboxOperation => i.2.1) h
  rw [List.map_map, List.map_map] at hkeys
  exact hkeys

/-- An upload is started if the resource connection is up; the entry keeps the id
of its message in any case. -/
theorem startResourceUpload_eq (rt : RuntimeEntry) (messageId : Int) (s : Dispatcher) :
    startResourceUpload rt messageId s =
        (s.modify rt.key fun rt => { rt with messageId := messageId }) ∨
      startResourceUpload rt messageId s =
        { s.modify rt.key fun rt => { rt with messageId := messageId } with
          uploading := (messageId, rt.key) :: s.uploading.filter (·.1 ≠ messageId)
          emitted := s.emitted ++ [.postStartUpload messageId rt.resource.localFilePath
            rt.resource.fileSizeBytes rt.resource.sha256] } := by
  by_cases h : s.resourceReady = false
  · exact .inl (if_pos h)
  · exact .inr (if_neg h)

/-! ### Acts -/

section Acts

variable (cfg : RetryConfig) (env : Env) (P : Prop)

/-- What is done to one entry.  If `P` holds, texts are sent while the connection is up
only. -/
inductive Act : Dispatcher → Dispatcher → Prop
  | sendText {s : Dispatcher} {rt : RuntimeEntry} :
    rt ∈ s.entries → rt.entry.operationType = .sendText → rt.action = .none →
    (P → s.connected = true) → Act s (dispatchTextEntry cfg env rt s)
  | sendResource {s : Dispatcher} {rt : RuntimeEntry} :
    rt ∈ s.entries → rt.entry.operationType = .sendResource → rt.action = .none →
    env.fileExists rt.resource.localFilePath = true →
    Act s ((s.emit (.createResourceMsg s.activeUid rt.entry)).modify rt.key
      (scheduleRetry cfg env))
  | giveUp {s : Dispatcher} {rt : RuntimeEntry} :
    rt ∈ s.entries → rt.entry.operationType = .sendResource → rt.action = .none →
    Act s (beginAction cfg env id rt .markFailed s)
  | again {s : Dispatcher} {rt : RuntimeEntry} :
    rt ∈ s.entries → rt.action ≠ .none →
    Act s (issuePendingAction rt (s.modify rt.key (scheduleRetry cfg env)))
  | upload {s : Dispatcher} {rt : RuntimeEntry} :
    rt ∈ s.entries → rt.entry.operationType = .sendResource → rt.entry.stage = .uploading →
    rt.action = .none → 0 < rt.messageId →
    Act s (startResourceUpload rt rt.messageId s)
  | read {s : Dispatcher} {rt : RuntimeEntry} :
    rt ∈ s.entries → rt.entry.operationType = .sendResource →
    Act s (readBack rt.key s)

/-- Any number of acts. -/
def Acts : Dispatcher → Dispatcher → Prop := Relation.ReflTransGen (Act cfg env P)

variable {cfg env P}

theorem Acts.refl (s : Dispatcher) : Acts cfg env P s s := Relation.ReflTransGen.refl

variable {s t : Dispatcher}

theorem Acts.trans {u : Dispatcher} (h : Acts cfg env P s t) (h' : Acts cfg env P t u) :
    Acts cfg env P s u :=
  Relation.ReflTransGen.trans h h'

theorem Act.acts (h : Act cfg env P s t) : Acts cfg env P s t :=
  Relation.ReflTransGen.single h

theorem acts_foldl {α : Type} {f : Dispatcher → α → Dispatcher}
    (hf : ∀ s a, Acts cfg env P s (f s a)) (as : List α) (s : Dispatcher) :
    Acts cfg env P s (as.foldl f s) := by
  induction as generalizing s with
  | nil => exact Acts.refl s
  | cons a as ih => exact (hf s a).trans (ih (f s a))

theorem dispatchEntry_acts {rt : RuntimeEntry} (hrt : rt ∈ s.entries) (haction : rt.action = .none)
    (hup : P → s.connected = true) : Acts cfg env P s (dispatchEntry cfg env rt s) := by
  unfold dispatchEntry
  split
  · rename_i htype
    exact (Act.sendText hrt htype haction hup).acts
  · rename_i htype
    unfold dispatchResourceEntry
    split
    · exact Acts.refl s
    split
    · exact Acts.refl s
    split
    · exact (Act.giveUp hrt htype haction).acts
    · rename_i hfile
      exact (Act.sendResource hrt htype haction (Bool.not_eq_false _ ▸ hfile)).acts

theorem dispatchDue_acts (s : Dispatcher) (key : String) :
    Acts cfg env P s (dispatchDue cfg env s key) := by
  unfold dispatchDue
  split
  · exact Acts.refl s
  rename_i rt hfind
  obtain ⟨hrt, rfl⟩ := find_some hfind
  split
  · exact Acts.refl s
  split
  · rename_i haction
    exact (Act.again hrt haction).acts
  rename_i haction
  split
  · exact Acts.refl s
  · rename_i hup
    exact dispatchEntry_acts hrt (Decidable.not_not.mp haction) fun _ => Bool.not_eq_false _ ▸ hup

theorem dispatchDueEntries_acts (s : Dispatcher) :
    Acts cfg env P s (dispatchDueEntries cfg env s) := by
  unfold dispatchDueEntries
  split
  · exact Acts.refl s
  · exact acts_foldl dispatchDue_acts _ s

/-- The first round does not look at the connection. -/
theorem dispatchRestored_acts (s : Dispatcher) (entry : OutboxEntryDTO)
    (hup : P → s.connected = true) : Acts cfg env P s (dispatchRestored cfg env s entry) := by
  unfold dispatchRestored
  split
  · exact Acts.refl s
  rename_i rt hfind
  split
  · exact Acts.refl s
  · rename_i hfresh
    rw [not_or, not_ne_iff, not_ne_iff] at hfresh
    exact dispatchEntry_acts (find_some hfind).1 hfresh.2 hup

theorem resumeEntry_acts (s : Dispatcher) (key : String) :
    Acts cfg env P s (resumeEntry s key) := by
  unfold resumeEntry
  split
  · exact Acts.refl s
  rename_i rt hfind
  obtain ⟨hrt, rfl⟩ := find_some hfind
  split
  · exact Acts.refl s
  rename_i hguard
  simp only [not_or, not_ne_iff] at hguard
  obtain ⟨htype, hstage, haction⟩ := hguard
  split
  · split
    · exact Acts.refl s
    · exact (Act.read hrt htype).acts
  split
  · exact Acts.refl s
  split
  · rename_i hid
    exact (Act.upload hrt htype hstage haction hid).acts
  · exact (Act.read hrt htype).acts

theorem resumeUploadingEntries_acts (s : Dispatcher) :
    Acts cfg env P s (resumeUploadingEntries s) := by
  unfold resumeUploadingEntries
  split
  · exact Acts.refl s
  · exact acts_foldl resumeEntry_acts _ s

theorem Acts.connected (h : Acts cfg env P s t) : t.connected = s.connected := by
  induction h with
  | refl => rfl
  | tail _ hact ih =>
    refine Eq.trans ?_ ih
    cases hact with
    | upload =>
      rename_i rt _ _ _ _ _
      rcases startResourceUpload_eq rt rt.messageId _ with heq | heq <;> rw [heq] <;> rfl
    | sendText | sendResource | giveUp | again | read => rfl

theorem dispatchRestoredFirstRound_acts (es : List OutboxEntryDTO) (s : Dispatcher)
    (hup : P → es = [] ∨ s.connected = true) :
    Acts cfg env P s (dispatchRestoredFirstRound cfg env es s) := by
  induction es generalizing s with
  | nil => exact Acts.refl s
  | cons e es ih =>
    have hup : P → s.connected = true := fun hp => (hup hp).resolve_left (List.cons_ne_nil e es)
    have hfirst : Acts cfg env P s (dispatchRestored cfg env s e) := dispatchRestored_acts s e hup
    exact hfirst.trans (ih _ fun hp => .inr (hfirst.connected.trans (hup hp)))

/-- No act changes what an entry is. -/
theorem Act.idents (h : Act cfg env P s t) :
    t.entries.map (fun rt => ident rt.entry) = s.entries.map fun rt => ident rt.entry := by
  cases h with
  | sendText | sendResource => exact idents_modify (s.emit _) _ fun _ => rfl
  | giveUp | again => exact idents_modify s _ fun _ => rfl
  | upload =>
    rename_i rt _ _ _ _ _
    rcases startResourceUpload_eq rt rt.messageId s with heq | heq
    · rw [heq]
      exact idents_modify s _ fun _ => rfl
    · rw [heq]
      exact idents_modify s _ fun _ => rfl
  | read => rfl

theorem Acts.keys (h : Acts cfg env P s t) : t.keys = s.keys := by
  induction h with
  | refl => rfl
  | tail _ hact ih => exact (keys_of_idents hact.idents).trans ih

end Acts

end LlfcChat.Outbox

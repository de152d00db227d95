/-
How a message leaves the register.

The register loses an entry only to the transaction of the closing action that
is pending for it, or to a database that is closed or switched.  While an entry
stays, the closing action that was begun first is the only one: every slot that
begins one checks that none is pending, except `slot_message_loaded`, which
gives up a resource without looking.  That it never does so to a resource whose
confirmation is pending rests on the rows: whatever was uploaded has a file and
a message id in its row, and a read that succeeds reports the row.
-/
import LlfcChat.Client.OutboxRuns

namespace LlfcChat.Outbox

variable {cfg : RetryConfig} {env : Env} {rows : List Row} {d d' : Dispatcher}

/-! ### The invariant -/

/-- The message has a row with a file. -/
def Filed (rows : List Row) (key : String) : Prop :=
  ∃ r ∈ rows, r.key = key ∧ r.resource.localFilePath ≠ ""

/-- The message has a row whose upload was announced. -/
def Announced (rows : List Row) (key : String) : Prop :=
  ∃ r ∈ rows, r.key = key ∧ r.entry.stage = .uploading

/-- What an action needs of its message. -/
def Warranted (rows : List Row) (rt : RuntimeEntry) : PendingStoreAction → Prop
  | .advanceStage | .confirmResource => Filed rows rt.key
  | .confirmText => rt.entry.operationType = .sendText
  | .none | .markFailed => True

/-- What holds of an entry. -/
structure Fit (rows : List Row) (rt : RuntimeEntry) : Prop where
  path : rt.resource.localFilePath ≠ "" → Filed rows rt.key
  stage : rt.entry.stage = .uploading → Announced rows rt.key
  pending : Warranted rows rt rt.action
  begun : ∀ a ∈ rt.begun, a.Closing → rt.action = a

/-- What holds of a row. -/
structure Row.Fit (r : Row) : Prop where
  key : r.key ≠ ""
  resource : r.entry.operationType = .sendResource → 0 < r.resource.localMessageId
  stage : r.entry.stage = .uploading → 0 < r.messageId ∧ r.resource.localFilePath ≠ ""

/-- What is announced has a file. -/
def Request.Filed (rows : List Row) : Request → Prop
  | .createResourceMsg _ e => Outbox.Filed rows e.clientMessageId
  | .updateResourceStage key _ => Outbox.Filed rows key
  | _ => True

structure Kept (rows : List Row) (d : Dispatcher) : Prop where
  fit : ∀ r ∈ rows, r.Fit
  entries : ∀ rt ∈ d.entries, Fit rows rt
  uploading : ∀ x ∈ d.uploading, Filed rows x.2
  log : ∀ r ∈ d.emitted, r.Filed rows
  closed : d.dbReady = false → d.entries = []

/-- The row of a key is one. -/
theorem Known.filed (h : Known False rows d) {r : Row} (hr : r ∈ rows) (hfiled : Filed rows r.key) :
    r.resource.localFilePath ≠ "" := by
  obtain ⟨r', hr', hkey, hpath⟩ := hfiled
  rw [h.row_unique hr hr' hkey.symm]
  exact hpath

theorem Known.announced (h : Known False rows d) {r : Row} (hr : r ∈ rows)
    (hannounced : Announced rows r.key) : r.entry.stage = .uploading := by
  obtain ⟨r', hr', hkey, hstage⟩ := hannounced
  rw [h.row_unique hr hr' hkey.symm]
  exact hstage

theorem Kept.filed_of_announced (h : Kept rows d) {key : String} (hkey : Announced rows key) :
    Filed rows key := by
  obtain ⟨r, hr, rfl, hstage⟩ := hkey
  exact ⟨r, hr, rfl, ((h.fit r hr).stage hstage).2⟩

/-! ### Entries -/

/-- The fields that `Fit` is about stay. -/
theorem Fit.same {rt rt' : RuntimeEntry} (h : Fit rows rt) (hentry : rt'.entry = rt.entry)
    (hresource : rt'.resource = rt.resource) (haction : rt'.action = rt.action)
    (hbegun : rt'.begun = rt.begun) : Fit rows rt' := by
  have hkey : rt'.key = rt.key := congrArg OutboxEntryDTO.clientMessageId hentry
  refine ⟨?_, ?_, ?_, ?_⟩
  · rw [hresource, hkey]
    exact h.path
  · rw [hentry, hkey]
    exact h.stage
  · unfold Warranted
    rw [haction, hkey, hentry]
    exact h.pending
  · rw [haction, hbegun]
    exact h.begun

/-- A fresh entry. -/
theorem Fit.fresh {rt : RuntimeEntry} (hpath : rt.resource.localFilePath ≠ "" → Filed rows rt.key)
    (hstage : rt.entry.stage = .uploading → Announced rows rt.key) (haction : rt.action = .none)
    (hbegun : rt.begun = []) : Fit rows rt where
  path := hpath
  stage := hstage
  pending := by
    rw [haction]
    trivial
  begun a ha := by
    rw [hbegun] at ha
    cases ha

/-- An action is begun: no other closing action was. -/
theorem Fit.begin {rt : RuntimeEntry} (h : Fit rows rt) {action : PendingStoreAction}
    (hfree : ∀ a, a.Closing → rt.action = a → action = a) (hpending : Warranted rows rt action) :
    Fit rows (rt.begin cfg env action) where
  path := h.path
  stage := h.stage
  pending := hpending
  begun a ha hclosing := by
    rcases List.mem_append.mp ha with ha | ha
    · exact hfree a hclosing (h.begun a ha hclosing)
    · exact (List.mem_singleton.mp ha).symm

/-- Where no action is pending any may be begun. -/
theorem free_of_none {rt : RuntimeEntry} (h : rt.action = .none) (action a : PendingStoreAction)
    (hclosing : a.Closing) (ha : rt.action = a) : action = a := by
  rw [← ha, h] at hclosing
  exact hclosing.elim

/-! ### Work on the register -/

/-- One entry is changed and something is handed over. -/
theorem Kept.entry (h : Kept rows d) (hkeys : d.keys.Nodup) {rt : RuntimeEntry}
    (hrt : rt ∈ d.entries) {f : RuntimeEntry → RuntimeEntry} (hfit : Fit rows (f rt))
    (new : List Request) (hentries : d'.entries = (d.modify rt.key f).entries)
    (huploading : ∀ x ∈ d'.uploading, x ∈ d.uploading ∨ Filed rows x.2)
    (hemitted : d'.emitted = d.emitted ++ new) (hnew : ∀ r ∈ new, r.Filed rows)
    (hready : d'.dbReady = d.dbReady) : Kept rows d' where
  fit := h.fit
  entries x hx := by
    rw [hentries] at hx
    rcases mem_modify hkeys hrt hx with rfl | ⟨hx, -⟩
    · exact hfit
    · exact h.entries x hx
  uploading x hx := by
    rcases huploading x hx with hx | hx
    · exact h.uploading x hx
    · exact hx
  log r hr := by
    rw [hemitted] at hr
    rcases List.mem_append.mp hr with hr | hr
    · exact h.log r hr
    · exact hnew r hr
  closed hclosed := by
    rw [hready] at hclosed
    rw [h.closed hclosed] at hrt
    cases hrt

/-- Entries and uploads may go, and something may be handed over. -/
theorem Kept.shrink (h : Kept rows d) (hentries : ∀ rt ∈ d'.entries, rt ∈ d.entries)
    (huploading : ∀ x ∈ d'.uploading, x ∈ d.uploading) (new : List Request)
    (hemitted : d'.emitted = d.emitted ++ new) (hnew : ∀ r ∈ new, r.Filed rows)
    (hready : d'.dbReady = false → d.dbReady = false ∨ d'.entries = []) : Kept rows d' where
  fit := h.fit
  entries x hx := h.entries x (hentries x hx)
  uploading x hx := h.uploading x (huploading x hx)
  log r hr := by
    rw [hemitted] at hr
    rcases List.mem_append.mp hr with hr | hr
    · exact h.log r hr
    · exact hnew r hr
  closed hclosed := by
    rcases hready hclosed with hold | hnil
    · have hnone := h.closed hold
      exact List.eq_nil_iff_forall_not_mem.mpr fun x hx => by
        have hmem := hentries x hx
        rw [hnone] at hmem
        cases hmem
    · exact hnil

/-- Only flags change. -/
theorem Kept.flags (h : Kept rows d) (hentries : d'.entries = d.entries)
    (hup : d'.uploading = d.uploading) (hemitted : d'.emitted = d.emitted)
    (hready : d'.dbReady = d.dbReady) : Kept rows d' :=
  h.shrink (fun _ hx => hentries ▸ hx) (fun _ hx => hup ▸ hx) []
    (hemitted.trans (List.append_nil _).symm) (fun _ hr => absurd hr List.not_mem_nil)
    fun hno => .inl (hready ▸ hno)

theorem pendingRequest_filed {rt : RuntimeEntry} (h : Fit rows rt) {r : Request}
    (hr : r ∈ pendingRequest rt) : r.Filed rows := by
  unfold pendingRequest at hr
  split at hr
  · cases hr
  all_goals obtain rfl := List.mem_singleton.mp hr
  · trivial
  · trivial
  · trivial
  · rename_i haction
    have hpending := h.pending
    rw [haction] at hpending
    exact hpending

theorem Kept.beginAction (h : Kept rows d) (hkeys : d.keys.Nodup) {rt : RuntimeEntry}
    (hrt : rt ∈ d.entries) {set : RuntimeEntry → RuntimeEntry} {action : PendingStoreAction}
    (hset : Fit rows ((set rt).begin cfg env action)) :
    Kept rows (beginAction cfg env set rt action d) :=
  h.entry hkeys hrt (f := fun rt => (set rt).begin cfg env action) hset _ rfl
    (fun _ hx => .inl hx) rfl (fun _ hr => pendingRequest_filed hset hr) rfl

/-- An action is begun where none is pending. -/
theorem Kept.beginFirst (h : Kept rows d) (hkeys : d.keys.Nodup) {rt : RuntimeEntry}
    (hrt : rt ∈ d.entries) (haction : rt.action = .none) {set : RuntimeEntry → RuntimeEntry}
    {action : PendingStoreAction} (hset : (set rt).entry = rt.entry ∧
      (set rt).resource = rt.resource ∧ (set rt).action = rt.action ∧ (set rt).begun = rt.begun)
    (hpending : Warranted rows rt action) :
    Kept rows (Outbox.beginAction cfg env set rt action d) := by
  have hfit : Fit rows (set rt) :=
    (h.entries rt hrt).same hset.1 hset.2.1 hset.2.2.1 hset.2.2.2
  refine h.beginAction hkeys hrt (hfit.begin (free_of_none (hset.2.2.1.trans haction) action) ?_)
  unfold Warranted RuntimeEntry.key
  rw [hset.1]
  exact hpending

theorem Kept.startResourceUpload (h : Kept rows d) (hkeys : d.keys.Nodup) {rt rt' : RuntimeEntry}
    (hrt : rt ∈ d.entries) (hkey : rt'.key = rt.key) (hfiled : Filed rows rt.key)
    (messageId : Int) : Kept rows (startResourceUpload rt' messageId d) := by
  have hfit : Fit rows { rt with messageId := messageId } := (h.entries rt hrt).same rfl rfl rfl rfl
  rcases startResourceUpload_eq rt' messageId d with heq | heq <;> rw [heq, hkey]
  · exact h.entry hkeys hrt hfit [] rfl (fun _ hx => .inl hx) (List.append_nil _).symm
      (fun _ hr => absurd hr List.not_mem_nil) rfl
  · refine h.entry hkeys hrt hfit [_] rfl (fun x hx => ?_) rfl (fun r hr => ?_) rfl
    · rcases List.mem_cons.mp hx with rfl | hx
      · exact .inr hfiled
      · exact .inl (List.mem_of_mem_filter hx)
    · rw [List.mem_singleton.mp hr]
      trivial

theorem Act.kept (hact : Act cfg env False d d') (h : Kept rows d) (hkeys : d.keys.Nodup) :
    Kept rows d' := by
  cases hact with
  | @sendText rt hrt htype haction _ =>
    refine h.entry hkeys hrt (f := scheduleRetry cfg env) ((h.entries rt hrt).same rfl rfl rfl rfl)
      [_] rfl (fun _ hx => .inl hx) rfl (fun r hr => ?_) rfl
    rw [List.mem_singleton.mp hr]
    trivial
  | @sendResource rt hrt htype haction hfile =>
    refine h.entry hkeys hrt (f := scheduleRetry cfg env) ((h.entries rt hrt).same rfl rfl rfl rfl)
      [_] rfl (fun _ hx => .inl hx) rfl (fun r hr => ?_) rfl
    rw [List.mem_singleton.mp hr]
    -- a file that exists has a name
    refine (h.entries rt hrt).path fun hpath => ?_
    rw [hpath, env.fileExists_empty] at hfile
    cases hfile
  | @giveUp rt hrt htype haction =>
    exact h.beginFirst hkeys hrt haction ⟨rfl, rfl, rfl, rfl⟩ trivial
  | @again rt hrt haction =>
    exact h.entry hkeys hrt (f := scheduleRetry cfg env) ((h.entries rt hrt).same rfl rfl rfl rfl)
      _ rfl (fun _ hx => .inl hx) rfl (fun r hr => pendingRequest_filed (h.entries rt hrt) hr) rfl
  | @upload rt hrt htype hstage haction hid =>
    exact h.startResourceUpload hkeys hrt rfl
      (h.filed_of_announced ((h.entries rt hrt).stage hstage)) _
  | @read rt hrt htype =>
    refine h.shrink (fun _ hx => hx) (fun _ hx => hx) [_] rfl (fun r hr => ?_) .inl
    rw [List.mem_singleton.mp hr]
    trivial

theorem Acts.kept (hacts : Acts cfg env False d d') (h : Kept rows d) (hkeys : d.keys.Nodup) :
    Kept rows d' := by
  induction hacts with
  | refl => exact h
  | tail hfirst hact ih => exact hact.kept ih (Acts.keys hfirst ▸ hkeys)

theorem Kept.requestRestore (h : Kept rows d) : Kept rows (requestRestore env d) := by
  unfold Outbox.requestRestore
  split
  · exact h
  split
  · exact h
  · refine h.shrink (fun _ hx => hx) (fun _ hx => hx) [.loadOutbox] rfl (fun r hr => ?_) .inl
    rw [List.mem_singleton.mp hr]
    trivial

/-- A fresh entry comes into the register. -/
theorem Kept.register (h : Kept rows d) (hready : d.dbReady = true) {rt : RuntimeEntry}
    (hfit : Fit rows rt) : Kept rows (register rt d) := by
  unfold Outbox.register
  split
  · exact h
  · exact
      { h with
        entries := fun x hx => by
          rcases List.mem_cons.mp ((insertEntry_perm rt d.entries).mem_iff.mp hx) with rfl | hx
          · exact hfit
          · exact h.entries x hx
        closed := fun hclosed => by
          have hno : d.dbReady = false := hclosed
          rw [hready] at hno
          cases hno }

/-- The register is void. -/
theorem Kept.clear (h : Kept rows d) (hentries : d'.entries = []) (huploading : d'.uploading = [])
    (hemitted : d'.emitted = d.emitted) : Kept rows d' := by
  refine h.shrink (fun x hx => ?_) (fun x hx => ?_) [] ?_ (fun _ hr => absurd hr List.not_mem_nil)
    fun _ => .inr hentries
  · rw [hentries] at hx
    cases hx
  · rw [huploading] at hx
    cases hx
  · rw [hemitted]
    exact (List.append_nil _).symm

/-! ### The rows change -/

/-- Rows that are announced or have a file stay so. -/
theorem Kept.of_rows {rows' : List Row} (h : Kept rows d) (hfit : ∀ r ∈ rows', r.Fit)
    (hfiled : ∀ key, Filed rows key → Filed rows' key)
    (hannounced : ∀ key, Announced rows key → Announced rows' key) : Kept rows' d where
  fit := hfit
  entries rt hrt := by
    have hold := h.entries rt hrt
    refine ⟨fun hp => hfiled _ (hold.path hp), fun hs => hannounced _ (hold.stage hs), ?_,
      hold.begun⟩
    have hpending := hold.pending
    unfold Warranted at hpending ⊢
    split
    · rename_i haction
      rw [haction] at hpending
      exact hfiled _ hpending
    · rename_i haction
      rw [haction] at hpending
      exact hfiled _ hpending
    · rename_i haction
      rw [haction] at hpending
      exact hpending
    · trivial
    · trivial
  uploading x hx := hfiled _ (h.uploading x hx)
  log r hr := by
    have hold := h.log r hr
    unfold Request.Filed at hold ⊢
    split
    · exact hfiled _ hold
    · exact hfiled _ hold
    · trivial
  closed := h.closed

/-- The same for a change of some rows. -/
theorem Kept.update_rows (h : Kept rows d) {p : Row → Prop} [DecidablePred p] {f : Row → Row}
    (hkey : ∀ r, (f r).key = r.key) (hfit : ∀ r ∈ rows, p r → (f r).Fit)
    (hpath : ∀ r ∈ rows, p r → r.resource.localFilePath ≠ "" → (f r).resource.localFilePath ≠ "")
    (hstage : ∀ r, r.entry.stage = .uploading → (f r).entry.stage = .uploading) :
    Kept (Table.update p f rows) d := by
  refine h.of_rows (fun x hx => ?_) ?_ ?_
  · obtain ⟨r, hr, rfl⟩ := Table.mem_update.mp hx
    unfold Table.updated
    split
    · rename_i hp
      exact hfit r hr hp
    · exact h.fit r hr
  · rintro key ⟨r, hr, rfl, hfile⟩
    refine ⟨Table.updated p f r, Table.mem_update.mpr ⟨r, hr, rfl⟩, ?_⟩
    unfold Table.updated
    split
    · rename_i hp
      exact ⟨hkey r, hpath r hr hp hfile⟩
    · exact ⟨rfl, hfile⟩
  · rintro key ⟨r, hr, rfl, hup⟩
    refine ⟨Table.updated p f r, Table.mem_update.mpr ⟨r, hr, rfl⟩, ?_⟩
    unfold Table.updated
    split
    · exact ⟨hkey r, hstage r hup⟩
    · exact ⟨rfl, hup⟩

/-! ### The slots -/

/-- Waiting entries become due under their own keys. -/
theorem keys_due (entries : List RuntimeEntry) :
    (entries.map fun rt => if rt.action = .none then { rt with nextRetryAt := 0 } else rt).map
      (·.key) = entries.map (·.key) := by
  rw [List.map_map]
  refine List.map_congr_left fun rt _ => ?_
  show (if rt.action = .none then { rt with nextRetryAt := 0 } else rt).key = rt.key
  split <;> rfl

section

variable (h : Kept rows d)

include h

theorem Kept.start (hk : Known False rows d) : Kept rows (slotStart cfg env d) := by
  unfold slotStart
  simp only
  split
  · have hflag : Kept rows { d with connected := true, scanning := true } :=
      h.flags rfl rfl rfl rfl
    exact hflag.requestRestore
  · generalize hd : ({ d with
      connected := true, scanning := true, entries := d.entries.map fun rt =>
        if rt.action = .none then { rt with nextRetryAt := 0 } else rt } : Dispatcher) = d₁
    have hsame : d₁.keys = d.keys := hd ▸ keys_due d.entries
    have hkept : Kept rows d₁ := by
      rw [← hd]
      refine { h with entries := fun x hx => ?_, closed := fun hclosed => ?_ }
      · obtain ⟨rt, hrt, rfl⟩ := List.mem_map.mp hx
        split
        · exact (h.entries rt hrt).same rfl rfl rfl rfl
        · exact h.entries rt hrt
      · show d.entries.map _ = []
        rw [h.closed hclosed, List.map_nil]
    have hresume : Acts cfg env False d₁ (Outbox.resumeUploadingEntries d₁) :=
      resumeUploadingEntries_acts d₁
    have hall := hresume.trans (dispatchDueEntries_acts _)
    exact hall.kept hkept (hsame ▸ hk.keys)

theorem Kept.textMsgRsp (hk : Known False rows d) {key : String}
    (hany : d.emitted.any (·.isText key) = true) (error : ReplyError) (messageId : Int)
    (createdAt : Option Int) :
    Kept rows (slotTextMsgRsp cfg env error key messageId createdAt d) := by
  unfold slotTextMsgRsp
  split
  · exact h
  rename_i rt hfind
  obtain ⟨hrt, hkey⟩ := find_some hfind
  split
  · exact h
  rename_i haction
  rw [Decidable.not_not] at haction
  split
  · exact h.beginFirst hk.keys hrt haction ⟨rfl, rfl, rfl, rfl⟩ (hk.sent_of_isText hany hrt hkey).1
  · exact h.beginFirst hk.keys hrt haction ⟨rfl, rfl, rfl, rfl⟩ trivial
  · exact h

/-- What was announced with a 1503 has a file. -/
theorem Kept.filed_of_isResource {key : String} (hany : d.emitted.any (·.isResource key) = true) :
    Filed rows key := by
  obtain ⟨r, hr, hresource⟩ := List.any_eq_true.mp hany
  unfold Request.isResource at hresource
  split at hresource
  · rename_i u e
    rw [← of_decide_eq_true hresource]
    exact h.log _ hr
  · cases hresource

theorem Kept.resourceMsgMetaRsp (hk : Known False rows d) {key : String}
    (hany : d.emitted.any (·.isResource key) = true) (error : ReplyError) (messageId : Int) :
    Kept rows (slotResourceMsgMetaRsp cfg env error key messageId d) := by
  unfold slotResourceMsgMetaRsp
  split
  · exact h
  rename_i rt hfind
  obtain ⟨hrt, rfl⟩ := find_some hfind
  split
  · exact h
  rename_i haction
  rw [Decidable.not_not] at haction
  have hfail : Kept rows (Outbox.beginAction cfg env id rt .markFailed d) :=
    h.beginFirst hk.keys hrt haction ⟨rfl, rfl, rfl, rfl⟩ trivial
  split
  · exact hfail
  · exact hfail
  · exact hfail
  · exact h.beginFirst hk.keys hrt haction ⟨rfl, rfl, rfl, rfl⟩ (h.filed_of_isResource hany)
  · exact h

theorem Kept.transferFinished (hk : Known False rows d) (snapshot : TransferSnapshot) :
    Kept rows (slotTransferFinished cfg env snapshot d) := by
  unfold slotTransferFinished
  split
  · exact h
  split
  · unfold handleUploadFinished
    split
    · exact h
    rename_i m key hup
    split
    · exact h.shrink (fun _ hx => hx) (fun x hx => List.mem_of_mem_filter hx) []
        (List.append_nil _).symm (fun _ hr => absurd hr List.not_mem_nil) .inl
    rename_i rt hfind
    obtain ⟨hrt, rfl⟩ := find_some hfind
    split
    · exact h
    rename_i haction
    rw [Decidable.not_not] at haction
    split
    · exact h.beginFirst hk.keys hrt haction ⟨rfl, rfl, rfl, rfl⟩
        (h.uploading _ (List.mem_of_find?_eq_some hup))
    · exact h.beginFirst hk.keys hrt haction ⟨rfl, rfl, rfl, rfl⟩ trivial
    · exact h
  · exact h

theorem Kept.eraseEntry (key : String) : Kept rows (eraseEntry key d) :=
  h.shrink (fun _ hx => List.mem_of_mem_filter hx) (fun _ hx => List.mem_of_mem_filter hx) []
    (List.append_nil _).symm (fun _ hr => absurd hr List.not_mem_nil) .inl

theorem Kept.closeEntry (action : PendingStoreAction) (ok : Bool) (dto : LocalMessageDTO) :
    Kept rows (closeEntry action ok dto d) := by
  unfold Outbox.closeEntry
  split
  · exact h
  split
  · exact h
  split
  · exact h.eraseEntry _
  · exact h

theorem Kept.resourceConfirmed (ok : Bool) (dto : LocalMessageDTO) :
    Kept rows (slotResourceConfirmed ok dto d) := by
  unfold slotResourceConfirmed
  split
  · exact h
  split
  · exact h
  split
  · refine (h.eraseEntry _).shrink (fun _ hx => hx) (fun _ hx => hx) [_] rfl (fun r hr => ?_) .inl
    rw [List.mem_singleton.mp hr]
    trivial
  · exact h

theorem Kept.resourceStageUpdated (hnodup : d.keys.Nodup) (ok : Bool) (dto : LocalMessageDTO)
    (hstage : ok = true → Announced rows dto.clientMessageId) :
    Kept rows (slotResourceStageUpdated ok dto d) := by
  rcases slotResourceStageUpdated_cases ok dto d with he | ⟨rt, hrt, hkey, haction, hok, he⟩
  · rw [he]
    exact h
  have hfit := h.entries rt hrt
  -- the action that is done was not a closing one
  have hsetfit : Fit rows (rt.advanced dto.messageId) := by
    refine ⟨hfit.path, fun _ => ?_, trivial, fun a ha hclosing => ?_⟩
    · have hann := hstage hok
      rw [← hkey] at hann
      exact hann
    · have hpending := hfit.begun a ha hclosing
      rw [← hpending, haction] at hclosing
      exact hclosing.elim
  have hmodified : Kept rows (d.modify rt.key (.advanced dto.messageId)) :=
    h.entry hnodup hrt hsetfit [] rfl (fun _ hx => .inl hx) (List.append_nil _).symm
      (fun _ hr => absurd hr List.not_mem_nil) rfl
  have hfiled : Filed rows rt.key := by
    have hpending := hfit.pending
    rw [haction] at hpending
    exact hpending
  rcases he with he | he
  · rw [he]
    exact hmodified
  · rw [he]
    exact hmodified.startResourceUpload (modify_nodup (fun _ => rfl) hnodup)
      (mem_modify_self hrt _) rfl hfiled _

/-- A read that succeeded reports the row; one that failed reports no key. -/
theorem Kept.messageLoaded (hk : Known False rows d) {r : Row} (hr : r ∈ rows) :
    Kept rows (slotMessageLoaded cfg env true r.dto r.resource d) := by
  unfold slotMessageLoaded
  split
  · exact h
  rename_i hpending
  rw [Decidable.not_not] at hpending
  generalize hd : ({ d with
    resumePending := d.resumePending.filter (· ≠ r.dto.clientMessageId) } : Dispatcher) = d₁
  have hread : Kept rows d₁ := by
    rw [← hd]
    exact h.flags rfl rfl rfl rfl
  have hentries : d₁.entries = d.entries := by rw [← hd]
  have hkeys : d₁.keys.Nodup := by
    unfold Dispatcher.keys
    rw [hentries]
    exact hk.keys
  simp only
  split
  · exact hread
  rename_i rt hfind
  obtain ⟨hrt, hkey⟩ := find_some hfind
  have hkey' : r.key = rt.key := hkey.symm
  have hrt' : rt ∈ d.entries := hentries ▸ hrt
  have htype : rt.entry.operationType = .sendResource :=
    hk.tracked_resource hrt' (List.mem_append_left _ (hkey ▸ hpending))
  have hrtype : r.entry.operationType = .sendResource := by
    have hid := ident_inj ((hk.row_of_key hrt' hr hkey').2)
    exact hid.2.2.trans htype
  have hfit := hread.entries rt hrt
  split
  · -- the row has no file: it was never announced, and no confirmation can be pending
    rename_i hbad
    have hpath : r.resource.localFilePath = "" := by
      have hpos := (h.fit r hr).resource hrtype
      rcases hbad with hc | hc | hc
      · cases hc
      · omega
      · exact hc
    have hunfiled : ¬Filed rows rt.key := fun hf => hk.filed hr (hkey' ▸ hf) hpath
    refine hread.beginAction hkeys hrt (Fit.begin hfit (fun a hclosing ha => ?_) trivial)
    have hpending := hfit.pending
    rw [ha] at hpending
    cases a with
    | none | advanceStage => exact hclosing.elim
    | confirmText =>
      have htext : rt.entry.operationType = .sendText := hpending
      rw [htype] at htext
      cases htext
    | confirmResource => exact absurd hpending hunfiled
    | markFailed => rfl
  rename_i hgood
  simp only [not_or] at hgood
  have hfiled : Filed rows rt.key := ⟨r, hr, hkey', hgood.2.2⟩
  have hsetfit : Fit rows { rt with resource := r.resource, messageId := r.dto.messageId } :=
    { hfit with path := fun _ => hfiled }
  have hmodified : Kept rows (d₁.modify rt.key fun rt =>
      { rt with resource := r.resource, messageId := r.dto.messageId }) :=
    hread.entry hkeys hrt hsetfit [] rfl (fun _ hx => .inl hx) (List.append_nil _).symm
      (fun _ hr => absurd hr List.not_mem_nil) rfl
  have hmkeys : (d₁.modify rt.key fun rt =>
      { rt with resource := r.resource, messageId := r.dto.messageId }).keys.Nodup :=
    modify_nodup (fun _ => rfl) hkeys
  split
  · rename_i hstage
    split
    · -- an announced row has the id of its message
      rename_i hid
      have hup := hk.announced hr (hkey' ▸ hfit.stage hstage)
      have hpos := ((h.fit r hr).stage hup).1
      exact absurd hid (by show ¬r.messageId ≤ 0; omega)
    split
    · exact hmodified.startResourceUpload hmkeys (mem_modify_self hrt _) rfl hfiled _
    · exact hmodified
  · exact Acts.kept (dispatchDueEntries_acts _) hmodified hmkeys

theorem Kept.messageNotLoaded (hk : Known False rows d) :
    Kept rows (slotMessageLoaded cfg env false {} {} d) := by
  unfold slotMessageLoaded
  split
  · exact h
  simp only
  split
  · exact h.flags rfl rfl rfl rfl
  · -- no message has the empty key
    rename_i rt hfind
    obtain ⟨hrt, hkey⟩ := find_some hfind
    obtain ⟨r, hr, -, hid⟩ := hk.entries rt hrt
    have hid := ident_inj hid
    exact absurd (hid.2.1.trans hkey) (h.fit r hr).key

/-- A message is committed. -/
theorem Kept.sendEnqueued (hk : Known False rows d) {operationId : Int} {key : String}
    {operationType : OutboxOperation} {payloadJson : String} {resource : LocalMessageResourceDTO}
    (hadmits : System.Admits ⟨d, rows⟩ operationId key operationType resource) :
    Kept
      (rows ++ [{ uid := d.activeUid
                  entry := newEntry operationId key operationType payloadJson
                  resource := resource }])
      (slotSendEnqueued cfg env true resource
        (newEntry operationId key operationType payloadJson) d) := by
  obtain ⟨hready, hempty, -, -, hlocal⟩ := hadmits
  have hstage : (newEntry operationId key operationType payloadJson).stage ≠ .uploading := by
    unfold newEntry
    simp only
    split <;> exact ResourceStage.noConfusion
  generalize hrow : ({ uid := d.activeUid
                       entry := newEntry operationId key operationType payloadJson
                       resource := resource } : Row) = row
  have hkept : Kept (rows ++ [row]) d := by
    refine h.of_rows (fun r hr => ?_) ?_ ?_
    · rcases List.mem_append.mp hr with hr | hr
      · exact h.fit r hr
      · rw [List.mem_singleton.mp hr, ← hrow]
        exact ⟨hempty, hlocal, fun hs => absurd hs hstage⟩
    · rintro k ⟨r, hr, hrest⟩
      exact ⟨r, List.mem_append_left _ hr, hrest⟩
    · rintro k ⟨r, hr, hrest⟩
      exact ⟨r, List.mem_append_left _ hr, hrest⟩
  unfold slotSendEnqueued
  rw [if_neg (by decide)]
  split
  · exact hkept
  · refine Acts.kept (dispatchDueEntries_acts _) (hkept.register hready ?_)
      (nodup_register hk.keys _)
    refine Fit.fresh (fun hpath => ?_) (fun hs => absurd hs hstage) rfl rfl
    exact ⟨row, List.mem_append_right _ List.mem_cons_self, by rw [← hrow]; rfl,
      by rw [← hrow]; exact hpath⟩

/-- The register grows by what was loaded. -/
theorem Kept.registerAll (es : List OutboxEntryDTO) (hkeys : d.keys.Nodup)
    (hready : d.dbReady = true)
    (hes : ∀ e ∈ es, e.stage = .uploading → Announced rows e.clientMessageId) :
    Kept rows (es.foldl (fun s entry => Outbox.register { entry := entry } s) d) ∧
      (es.foldl (fun s entry => Outbox.register { entry := entry } s) d).keys.Nodup := by
  induction es generalizing d with
  | nil => exact ⟨h, hkeys⟩
  | cons e es ih =>
    have hfit : Fit rows { entry := e } :=
      Fit.fresh (fun hpath => absurd rfl hpath) (hes e List.mem_cons_self) rfl rfl
    have hready' : (Outbox.register { entry := e } d).dbReady = true := by
      unfold Outbox.register
      split
      · exact hready
      · exact hready
    exact ih (h.register hready hfit) (nodup_register hkeys _) hready'
      fun e' he' => hes e' (List.mem_cons_of_mem _ he')

theorem Kept.readBackRestored (es : List OutboxEntryDTO) :
    Kept rows (es.foldl Outbox.readBackRestored d) ∧
      (es.foldl Outbox.readBackRestored d).keys = d.keys := by
  induction es generalizing d with
  | nil => exact ⟨h, rfl⟩
  | cons e es ih =>
    rw [List.foldl_cons]
    have hone : Kept rows (Outbox.readBackRestored d e) ∧
        (Outbox.readBackRestored d e).keys = d.keys := by
      unfold Outbox.readBackRestored
      split
      · exact ⟨h, rfl⟩
      · refine ⟨h.shrink (fun _ hx => hx) (fun _ hx => hx) [_] rfl (fun r hr => ?_) .inl, rfl⟩
        rw [List.mem_singleton.mp hr]
        trivial
    obtain ⟨hkept, hkeys⟩ := ih hone.1
    exact ⟨hkept, hkeys.trans hone.2⟩

theorem Kept.outboxLoaded (hk : Known False rows d) (hready : d.dbReady = true)
    {es : List OutboxEntryDTO} (hes : es ⊆ System.outbox ⟨d, rows⟩) :
    Kept rows (slotOutboxLoaded cfg env true es d) := by
  unfold slotOutboxLoaded
  split
  · exact h
  simp only
  rw [if_neg (by decide)]
  have hflag : Kept rows { d with restoring := false, restoreRetryAt := 0, restored := true } :=
    h.flags rfl rfl rfl rfl
  obtain ⟨hkept, hkeys⟩ := hflag.registerAll es hk.keys hready
    fun e he hstage => by
      obtain ⟨r, hr, -, -, rfl⟩ := mem_outbox.mp (hes he)
      exact ⟨r, hr, rfl, hstage⟩
  obtain ⟨hread, hsame⟩ := hkept.readBackRestored es
  refine Acts.kept (Acts.trans ?_ (dispatchDueEntries_acts _)) hread (hsame ▸ hkeys)
  exact dispatchRestoredFirstRound_acts es _ False.elim

end

end LlfcChat.Outbox

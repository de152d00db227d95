/-
Durability of the outbox over whole runs.

A message is in the register until the store has carried out its own closing
transaction, or until the database is closed or switched.  The closing action of
a stay in the register is one: an entry whose confirmation was begun is not
marked failed while it stays, nor the other way round.  After the database was
closed with a confirmation not carried out the message comes back with the next
restore, and may end the other way then: the last theorem is such a run.
-/
import LlfcChat.Client.OutboxRegister

namespace LlfcChat.Outbox

variable {cfg : RetryConfig} {env : Env} {rows : List Row} {d d' : Dispatcher}

theorem requestRestore_keys (d : Dispatcher) : (requestRestore env d).keys = d.keys := by
  unfold requestRestore
  split
  · rfl
  split
  · rfl
  · rfl

/-! ### Transactions -/

variable {ok : Bool} {rt : RuntimeEntry} {s : System}

section

variable (h : Kept s.rows s.disp) (hk : Known False s.rows s.disp)

include h hk

theorem Kept.transact {key : String} {p : Row → Bool} {f : Row → Row}
    {slot : Bool → LocalMessageDTO → Dispatcher → Dispatcher} (hkey : ∀ r, (f r).key = r.key)
    (hfit : ∀ r ∈ s.rows, r.key = key → p r = true → (f r).Fit)
    (hpath : ∀ r, r.key = key → p r = true → r.resource.localFilePath ≠ "" →
      (f r).resource.localFilePath ≠ "")
    (hstage : ∀ r, r.entry.stage = .uploading → (f r).entry.stage = .uploading)
    (hfail : Kept s.rows (slot false {} s.disp))
    (hslot : ∀ rows, Kept rows s.disp → ∀ r, f r ∈ rows → r.key = key →
      Kept rows (slot true (f r).dto s.disp)) :
    Kept (s.transact key ok p f slot).rows (s.transact key ok p f slot).disp := by
  unfold System.transact
  split
  · rename_i r hrow
    split
    · rename_i hcommit
      rw [Bool.and_eq_true] at hcommit
      obtain ⟨hr, hmatch⟩ := row_some hrow
      -- client ids are unique, so only the row that met the condition is changed
      have honly : ∀ x ∈ s.rows, x.key = key ∧ x.uid = s.disp.activeUid → p x = true :=
        fun x hx hm => by
          rw [hk.row_unique hx hr (hm.1.trans hmatch.1.symm)]
          exact hcommit.2
      have hrows : Kept (s.update key f).rows s.disp :=
        h.update_rows hkey (fun x hx hm => hfit x hx hm.1 (honly x hx hm))
          (fun x hx hm => hpath x hm.1 (honly x hx hm)) hstage
      refine hslot _ hrows r ?_ hmatch.1
      exact Table.mem_update.mpr ⟨r, hr, Table.updated_pos
        (p := fun r : Row => r.key = key ∧ r.uid = s.disp.activeUid) hmatch⟩
    · exact hfail
  · exact hfail

theorem Kept.carryOut {r : Request} (hr : r ∈ s.disp.emitted) (ok : Bool) :
    Kept (s.carryOut cfg env ok r).rows (s.carryOut cfg env ok r).disp := by
  cases r with
  | confirmTextSent key messageId createdAt =>
    refine h.transact hk (fun _ => rfl) (fun x hx _ hp => ?_) (fun _ _ _ hpath => hpath)
      (fun _ hs => hs) (h.closeEntry _ _ _) fun rows hrows x _ _ => hrows.closeEntry _ _ _
    rw [Bool.and_eq_true, decide_eq_true_eq] at hp
    exact ⟨(h.fit x hx).key, (h.fit x hx).resource,
      fun hs => ⟨hp.1, ((h.fit x hx).stage hs).2⟩⟩
  | confirmResourceSent key path =>
    refine h.transact hk (fun _ => rfl) (fun x hx _ hp => ?_) (fun x _ hp _ => ?_)
      (fun _ hs => hs) (h.resourceConfirmed _ _) fun rows hrows x _ _ => hrows.resourceConfirmed _ _
    · rw [Bool.and_eq_true, Bool.and_eq_true, decide_eq_true_eq] at hp
      exact ⟨(h.fit x hx).key, (h.fit x hx).resource,
        fun hs => ⟨((h.fit x hx).stage hs).1, hp.1.1⟩⟩
    · rw [Bool.and_eq_true, Bool.and_eq_true, decide_eq_true_eq] at hp
      exact hp.1.1
  | markSendFailed key =>
    exact h.transact hk (fun _ => rfl)
      (fun x hx _ _ => ⟨(h.fit x hx).key, (h.fit x hx).resource, (h.fit x hx).stage⟩)
      (fun _ _ _ hpath => hpath) (fun _ hs => hs) (h.closeEntry _ _ _)
      fun rows hrows x _ _ => hrows.closeEntry _ _ _
  | updateResourceStage key messageId =>
    refine h.transact hk (fun _ => rfl) (fun x hx hkey hp => ?_) (fun _ _ _ hpath => hpath)
      (fun _ _ => rfl) (h.resourceStageUpdated hk.keys _ _ fun hok => by cases hok)
      fun rows hrows x hx hkey => ?_
    · -- the request was made for a message with a file
      rw [Bool.and_eq_true, Bool.and_eq_true, decide_eq_true_eq] at hp
      subst hkey
      have hfile := hk.filed hx (h.log _ hr)
      exact ⟨(h.fit x hx).key, (h.fit x hx).resource, fun _ => ⟨hp.1.1, hfile⟩⟩
    · exact hrows.resourceStageUpdated hk.keys _ _ fun _ => ⟨_, hx, rfl, rfl⟩
  | getMessageByClientId key =>
    unfold System.carryOut
    simp only
    split
    · rename_i x hrow
      split
      · exact h.messageLoaded hk (row_some hrow).1
      · exact h.messageNotLoaded hk
    · exact h.messageNotLoaded hk
  | loadOutbox =>
    unfold System.carryOut
    simp only
    split
    · rename_i hready
      refine h.outboxLoaded hk hready.2 ?_
      split
      · exact List.Subset.refl _
      · exact List.nil_subset _
    · show Kept s.rows (slotOutboxLoaded cfg env false [] s.disp)
      unfold slotOutboxLoaded
      split
      · exact h
      · exact h.flags rfl rfl rfl rfl
  | updateResourceLocalPath messageId path ownerUid =>
    refine of_ite (R := Kept) (fun hok => ?_) h
    refine h.update_rows (fun _ => rfl) (fun x hx _ => ?_) (fun _ _ _ _ => hok.2.2.2) fun _ hs => hs
    exact ⟨(h.fit x hx).key, (h.fit x hx).resource,
      fun hs => ⟨((h.fit x hx).stage hs).1, hok.2.2.2⟩⟩
  | textChatMsg | createResourceMsg | postStartUpload | archive => exact h

theorem Kept.step (e : Env × Event) : Kept (step cfg s e).rows (step cfg s e).disp := by
  obtain ⟨env, event⟩ := e
  cases event with
  | start => exact h.start hk
  | scanTimeout =>
    show Kept s.rows (slotScanTimeout cfg env s.disp)
    unfold slotScanTimeout
    split
    · exact h.flags rfl rfl rfl rfl
    · refine Acts.kept (dispatchDueEntries_acts _) h.requestRestore ?_
      rw [requestRestore_keys]
      exact hk.keys
  | connectionClosed | resourceConnectionClosed => exact h.flags rfl rfl rfl rfl
  | resourceLoginSuccess =>
    have hready : Kept s.rows { s.disp with resourceReady := true } := h.flags rfl rfl rfl rfl
    have hacts : Acts {} env False { s.disp with resourceReady := true }
        (resumeUploadingEntries { s.disp with resourceReady := true }) :=
      resumeUploadingEntries_acts _
    exact hacts.kept hready hk.keys
  | dbOpened ok uid =>
    show Kept s.rows (slotDbOpened env ok uid s.disp)
    unfold slotDbOpened
    split
    · exact h.clear rfl rfl rfl
    split
    · exact h.requestRestore
    · have hclear : Kept s.rows { clearRegister s.disp uid true with
          generation := s.disp.generation + 1, scanning := true } := h.clear rfl rfl rfl
      exact hclear.requestRestore
  | dbClosed | restart => exact h.clear rfl rfl rfl
  | enqueueSend operationId key operationType payloadJson resource ok =>
    refine of_ite (R := Kept) (fun hcommit => ?_) h
    obtain ⟨rfl, hadmits⟩ := hcommit
    exact h.sendEnqueued hk hadmits
  | textMsgRsp error key messageId createdAt =>
    exact of_ite (R := Kept) (fun hany => h.textMsgRsp hk hany error messageId createdAt) h
  | resourceMsgMetaRsp error key messageId =>
    exact of_ite (R := Kept) (fun hany => h.resourceMsgMetaRsp hk hany error messageId) h
  | transferFinished snapshot => exact h.transferFinished hk snapshot
  | request r ok => exact of_ite (R := Kept) (fun hr => h.carryOut hk hr ok) h
  | archived messageId ownerUid generation path =>
    show Kept s.rows (finishArchive messageId ownerUid generation path s.disp)
    unfold finishArchive
    split
    · exact h
    · refine h.shrink (fun _ hx => hx) (fun _ hx => hx) [_] rfl (fun r hr => ?_) .inl
      rw [List.mem_singleton.mp hr]
      trivial

end

/-- Both invariants hold in every run. -/
theorem run_invariants (cfg : RetryConfig) (es : List (Env × Event)) :
    Known False (run cfg {} es).rows (run cfg {} es).disp ∧
      Kept (run cfg {} es).rows (run cfg {} es).disp := by
  induction es using List.reverseRecOn with
  | nil =>
    have hinit : Ordered False (cfg.loadsFirst = true) [] {} := Ordered.initial
    refine ⟨hinit.known, ?_, ?_, ?_, ?_, fun _ => rfl⟩
    · exact fun _ h => absurd h List.not_mem_nil
    · exact fun _ h => absurd h List.not_mem_nil
    · exact fun _ h => absurd h List.not_mem_nil
    · exact fun _ h => absurd h List.not_mem_nil
  | append_singleton es e ih =>
    obtain ⟨hk, hkept⟩ := ih
    have hrun : run cfg {} (es ++ [e]) = step cfg (run cfg {} es) e :=
      List.foldl_concat _ _ _ _
    rw [hrun]
    have hordered : Ordered False (cfg.loadsFirst = true) (run cfg {} es).rows
        (run cfg {} es).disp := ⟨hk, False.elim, False.elim, False.elim⟩
    exact ⟨(hordered.step e False.elim).known, hkept.step hk e⟩

/-! ### What leaves the register -/

/-- No entry leaves. -/
def Keeps (d d' : Dispatcher) : Prop := ∀ k ∈ d.keys, k ∈ d'.keys

theorem Keeps.of_keys (h : d'.keys = d.keys) : Keeps d d' := fun k hk => by
  rw [h]
  exact hk

theorem Keeps.trans {d'' : Dispatcher} (h : Keeps d d') (h' : Keeps d' d'') : Keeps d d'' :=
  fun k hk => h' k (h k hk)

theorem beginAction_keys (d : Dispatcher) (rt : RuntimeEntry) {set : RuntimeEntry → RuntimeEntry}
    (hset : ∀ rt, (set rt).key = rt.key) (action : PendingStoreAction) :
    (beginAction cfg env set rt action d).keys = d.keys := by
  refine modify_keys d rt.key (f := fun rt => (set rt).begin cfg env action) fun x => ?_
  exact hset x

theorem startResourceUpload_keys (d : Dispatcher) (rt : RuntimeEntry) (messageId : Int) :
    (startResourceUpload rt messageId d).keys = d.keys := by
  rcases startResourceUpload_eq rt messageId d with heq | heq <;> rw [heq]
  · exact modify_keys d rt.key fun _ => rfl
  · exact modify_keys d rt.key fun _ => rfl

theorem dispatchDueEntries_keys (d : Dispatcher) :
    (dispatchDueEntries cfg env d).keys = d.keys := by
  have hacts : Acts cfg env False d (dispatchDueEntries cfg env d) := dispatchDueEntries_acts d
  exact hacts.keys

theorem resumeUploadingEntries_keys (d : Dispatcher) :
    (resumeUploadingEntries d).keys = d.keys := by
  have hacts : Acts {} ⟨0, fun _ => false, 0, rfl⟩ False d (resumeUploadingEntries d) :=
    resumeUploadingEntries_acts d
  exact hacts.keys

theorem register_keeps (rt : RuntimeEntry) (d : Dispatcher) : Keeps d (register rt d) := by
  unfold register
  split
  · exact .of_keys rfl
  · intro k hk
    have hperm := (insertEntry_perm rt d.entries).map (·.key)
    exact hperm.mem_iff.mpr (List.mem_cons_of_mem _ hk)

theorem start_keeps (d : Dispatcher) : Keeps d (slotStart cfg env d) := by
  unfold slotStart
  simp only
  split
  · exact .of_keys (requestRestore_keys _)
  · refine .of_keys ?_
    rw [dispatchDueEntries_keys, resumeUploadingEntries_keys]
    exact keys_due d.entries

theorem textMsgRsp_keeps (error : ReplyError) (key : String) (messageId : Int)
    (createdAt : Option Int) (d : Dispatcher) :
    Keeps d (slotTextMsgRsp cfg env error key messageId createdAt d) := by
  refine .of_keys ?_
  unfold slotTextMsgRsp
  split
  · rfl
  split
  · rfl
  split
  · apply beginAction_keys
    exact fun _ => rfl
  · apply beginAction_keys
    exact fun _ => rfl
  · rfl

theorem resourceMsgMetaRsp_keeps (error : ReplyError) (key : String) (messageId : Int)
    (d : Dispatcher) : Keeps d (slotResourceMsgMetaRsp cfg env error key messageId d) := by
  refine .of_keys ?_
  unfold slotResourceMsgMetaRsp
  split
  · rfl
  split
  · rfl
  split
  · apply beginAction_keys
    exact fun _ => rfl
  · apply beginAction_keys
    exact fun _ => rfl
  · apply beginAction_keys
    exact fun _ => rfl
  · apply beginAction_keys
    exact fun _ => rfl
  · rfl

theorem transferFinished_keeps (snapshot : TransferSnapshot) (d : Dispatcher) :
    Keeps d (slotTransferFinished cfg env snapshot d) := by
  refine .of_keys ?_
  unfold slotTransferFinished handleUploadFinished
  split
  · rfl
  split
  · split
    · rfl
    split
    · rfl
    split
    · rfl
    split
    · apply beginAction_keys
      exact fun _ => rfl
    · apply beginAction_keys
      exact fun _ => rfl
    · rfl
  · rfl

theorem resourceStageUpdated_keeps (ok : Bool) (dto : LocalMessageDTO) (d : Dispatcher) :
    Keeps d (slotResourceStageUpdated ok dto d) := by
  refine .of_keys ?_
  unfold slotResourceStageUpdated
  split
  · rfl
  split
  · rfl
  simp only
  split
  · rw [startResourceUpload_keys]
    exact modify_keys d _ fun _ => rfl
  · exact modify_keys d _ fun _ => rfl

theorem messageLoaded_keeps (ok : Bool) (dto : LocalMessageDTO) (resource : LocalMessageResourceDTO)
    (d : Dispatcher) : Keeps d (slotMessageLoaded cfg env ok dto resource d) := by
  refine .of_keys ?_
  unfold slotMessageLoaded
  split
  · rfl
  simp only
  split
  · rfl
  split
  · apply beginAction_keys
    exact fun _ => rfl
  split
  · split
    · refine (beginAction_keys _ _ ?_ _).trans (modify_keys _ _ fun _ => rfl)
      exact fun _ => rfl
    split
    · rw [startResourceUpload_keys]
      exact modify_keys _ _ fun _ => rfl
    · exact modify_keys _ _ fun _ => rfl
  · rw [dispatchDueEntries_keys]
    exact modify_keys _ _ fun _ => rfl

theorem foldl_keeps {α : Type} {f : Dispatcher → α → Dispatcher} (hf : ∀ s a, Keeps s (f s a))
    (as : List α) (d : Dispatcher) : Keeps d (as.foldl f d) := by
  induction as generalizing d with
  | nil => exact .of_keys rfl
  | cons a as ih => exact (hf d a).trans (ih (f d a))

theorem readBackRestored_keeps (d : Dispatcher) (e : OutboxEntryDTO) :
    Keeps d (readBackRestored d e) := by
  unfold readBackRestored
  split
  · exact .of_keys rfl
  · exact .of_keys rfl

theorem outboxLoaded_keeps (ok : Bool) (es : List OutboxEntryDTO) (d : Dispatcher) :
    Keeps d (slotOutboxLoaded cfg env ok es d) := by
  unfold slotOutboxLoaded
  split
  · exact .of_keys rfl
  simp only
  split
  · exact .of_keys rfl
  have hround : ∀ d₀ : Dispatcher, Keeps d₀ (dispatchRestoredFirstRound cfg env es d₀) := by
    intro d₀
    have hacts : Acts cfg env False d₀ (dispatchRestoredFirstRound cfg env es d₀) :=
      dispatchRestoredFirstRound_acts es d₀ False.elim
    exact .of_keys hacts.keys
  refine Keeps.trans (fun k hk => ?_) (.of_keys (dispatchDueEntries_keys _))
  exact hround _ k (foldl_keeps readBackRestored_keeps es _ k
    (foldl_keeps (fun s e => register_keeps { entry := e } s) es _ k hk))

/-- An entry that leaves with a transaction had that transaction pending. -/
theorem eraseEntry_leaves (hkeys : d.keys.Nodup) {rt' : RuntimeEntry} (hrt : rt ∈ d.entries)
    (hrt' : rt' ∈ d.entries) (hgone : rt.key ∉ (eraseEntry rt'.key d).keys) : rt = rt' := by
  by_contra hne
  refine hgone (List.mem_map_of_mem (List.mem_filter.mpr ⟨hrt, ?_⟩))
  exact decide_eq_true fun hkey => hne (eq_of_key hkeys hrt hrt' hkey)

theorem closeEntry_leaves (hkeys : d.keys.Nodup) (hrt : rt ∈ d.entries)
    {action : PendingStoreAction} {dto : LocalMessageDTO}
    (hgone : rt.key ∉ (closeEntry action ok dto d).keys) :
    ok = true ∧ dto.clientMessageId = rt.key ∧ rt.action = action := by
  have hstay : rt.key ∈ d.keys := List.mem_map_of_mem hrt
  unfold closeEntry at hgone
  split at hgone
  · exact absurd hstay hgone
  rename_i rt' hfind
  obtain ⟨hrt', hkey⟩ := find_some hfind
  split at hgone
  · exact absurd hstay hgone
  rename_i haction
  rw [Decidable.not_not] at haction
  split at hgone
  · rename_i hok
    rw [← hkey] at hgone
    rw [eraseEntry_leaves hkeys hrt hrt' hgone]
    exact ⟨hok, hkey.symm, haction⟩
  · exact absurd hstay hgone

/-- The archive changes nothing about who leaves. -/
theorem resourceConfirmed_keys (ok : Bool) (dto : LocalMessageDTO) (d : Dispatcher) :
    (slotResourceConfirmed ok dto d).keys = (closeEntry .confirmResource ok dto d).keys := by
  unfold slotResourceConfirmed closeEntry
  split
  · rfl
  split
  · rfl
  split
  · rfl
  · rfl

/-! ### Durability -/

/-- The closing action that a transaction carries out, with its message. -/
def Request.closing : Request → Option (String × PendingStoreAction)
  | .confirmTextSent key _ _ => some (key, .confirmText)
  | .confirmResourceSent key _ => some (key, .confirmResource)
  | .markSendFailed key => some (key, .markFailed)
  | _ => none

/-- The status that a closing action leaves in the row. -/
def PendingStoreAction.outcome : PendingStoreAction → Option SendStatus
  | .confirmText | .confirmResource => some .sent
  | .markFailed => some .failed
  | .none | .advanceStage => Option.none

/-- The store has carried out the transaction that was pending for the entry. -/
def Closes (s t : System) (rt : RuntimeEntry) (e : Event) : Prop :=
  ∃ r ∈ s.disp.emitted, e = .request r true ∧ r.closing = some (rt.key, rt.action) ∧
    ∃ row ∈ t.rows, row.key = rt.key ∧ row.queued = false ∧ some row.status = rt.action.outcome

/-- The database is closed, fails to open or is switched to another user, or the
client is started anew. -/
def Voids (d : Dispatcher) : Event → Prop
  | .dbOpened ok uid => ok = false ∨ uid ≠ d.activeUid
  | .dbClosed | .restart => True
  | _ => False

/-- An entry that leaves with a transaction: the transaction was carried out. -/
theorem transact_leaves {key : String} {p : Row → Bool} {f : Row → Row}
    {slot : Bool → LocalMessageDTO → Dispatcher → Dispatcher} {action : PendingStoreAction}
    (hgone : rt.key ∉ (s.transact key ok p f slot).disp.keys) (hkey : ∀ r, (f r).key = r.key)
    (hslot : ∀ ok dto, rt.key ∉ (slot ok dto s.disp).keys →
      ok = true ∧ dto.clientMessageId = rt.key ∧ rt.action = action) :
    ok = true ∧ key = rt.key ∧ rt.action = action ∧
      ∃ r, f r ∈ (s.transact key ok p f slot).rows ∧ (f r).key = rt.key := by
  unfold System.transact at hgone ⊢
  cases hrow : s.row key with
  | none =>
    rw [hrow] at hgone
    cases (hslot false {} hgone).1
  | some r =>
    rw [hrow] at hgone
    obtain ⟨hr, hmatch⟩ := row_some hrow
    simp only at hgone ⊢
    split at hgone
    · rename_i hcommit
      obtain ⟨-, hdto, haction⟩ := hslot true _ hgone
      have hrkey : (f r).key = rt.key := hdto
      rw [Bool.and_eq_true] at hcommit
      refine ⟨hcommit.1, ?_, haction, r, ?_, hrkey⟩
      · rw [← hmatch.1, ← hkey r]
        exact hrkey
      · rw [if_pos (by rw [hcommit.1, hcommit.2]; rfl)]
        exact Table.mem_update.mpr ⟨r, hr, Table.updated_pos
          (p := fun r : Row => r.key = key ∧ r.uid = s.disp.activeUid) hmatch⟩
    · cases (hslot false {} hgone).1

theorem carryOut_leaves (hkeys : s.disp.keys.Nodup) (hrt : rt ∈ s.disp.entries) {r : Request}
    (hr : r ∈ s.disp.emitted) (hgone : rt.key ∉ (s.carryOut cfg env ok r).disp.keys) :
    Closes s (s.carryOut cfg env ok r) rt (.request r ok) := by
  have hstay : rt.key ∈ s.disp.keys := List.mem_map_of_mem hrt
  cases r with
  | confirmTextSent key messageId createdAt | markSendFailed key =>
    unfold System.carryOut at hgone ⊢
    obtain ⟨rfl, rfl, haction, x, hx, hxkey⟩ := transact_leaves hgone (fun _ => rfl)
      fun _ _ => closeEntry_leaves hkeys hrt
    refine ⟨_, hr, rfl, ?_, _, hx, hxkey, rfl, ?_⟩ <;> rw [haction] <;> rfl
  | confirmResourceSent key path =>
    unfold System.carryOut at hgone ⊢
    obtain ⟨rfl, rfl, haction, x, hx, hxkey⟩ := transact_leaves hgone (fun _ => rfl)
      fun ok dto hgone => closeEntry_leaves hkeys hrt (by
        rw [← resourceConfirmed_keys]
        exact hgone)
    refine ⟨_, hr, rfl, ?_, _, hx, hxkey, rfl, ?_⟩ <;> rw [haction] <;> rfl
  | updateResourceStage key messageId =>
    -- this transaction closes nothing
    refine absurd hstay fun _ => hgone ?_
    unfold System.carryOut System.transact
    simp only
    split
    · split
      · exact resourceStageUpdated_keeps _ _ _ _ hstay
      · exact resourceStageUpdated_keeps _ _ _ _ hstay
    · exact resourceStageUpdated_keeps _ _ _ _ hstay
  | getMessageByClientId key =>
    refine absurd hstay fun _ => hgone ?_
    unfold System.carryOut
    simp only
    split
    · split
      · exact messageLoaded_keeps _ _ _ _ _ hstay
      · exact messageLoaded_keeps _ _ _ _ _ hstay
    · exact messageLoaded_keeps _ _ _ _ _ hstay
  | loadOutbox =>
    refine absurd hstay fun _ => hgone ?_
    unfold System.carryOut
    simp only
    split
    · exact outboxLoaded_keeps _ _ _ _ hstay
    · exact outboxLoaded_keeps _ _ _ _ hstay
  | updateResourceLocalPath messageId path ownerUid =>
    refine absurd hstay fun _ => hgone ?_
    unfold System.carryOut
    simp only
    split
    · exact hstay
    · exact hstay
  | textChatMsg | createResourceMsg | postStartUpload | archive => exact absurd hstay hgone

theorem scanTimeout_keeps (d : Dispatcher) : Keeps d (slotScanTimeout cfg env d) := by
  unfold slotScanTimeout
  split
  · exact .of_keys rfl
  · exact .of_keys ((dispatchDueEntries_keys _).trans (requestRestore_keys d))

theorem sendEnqueued_keeps (resource : LocalMessageResourceDTO) (entry : OutboxEntryDTO)
    (d : Dispatcher) : Keeps d (slotSendEnqueued cfg env true resource entry d) := by
  unfold slotSendEnqueued
  rw [if_neg Bool.noConfusion]
  split
  · exact .of_keys rfl
  · exact (register_keeps _ d).trans (.of_keys (dispatchDueEntries_keys _))

theorem finishArchive_keeps (messageId ownerUid : Int) (generation : Nat) (path : String)
    (d : Dispatcher) : Keeps d (finishArchive messageId ownerUid generation path d) := by
  unfold finishArchive
  split
  · exact .of_keys rfl
  · exact .of_keys rfl

/-- Opening the database that is open already keeps the register. -/
theorem dbOpened_leaves (hkept : Kept s.rows s.disp) (hrt : rt ∈ s.disp.entries) {uid : Int}
    (hgone : rt.key ∉ (slotDbOpened env ok uid s.disp).keys) :
    ok = false ∨ uid ≠ s.disp.activeUid := by
  by_cases hok : ok = false
  · exact .inl hok
  refine .inr fun huid => hgone ?_
  -- an entry is registered in an open database only
  have hready : s.disp.dbReady = true := by
    cases hdb : s.disp.dbReady with
    | true => rfl
    | false =>
      rw [hkept.closed hdb] at hrt
      cases hrt
  unfold slotDbOpened
  rw [if_neg hok, if_pos ⟨hready, huid.symm⟩, requestRestore_keys]
  exact List.mem_map_of_mem hrt

theorem request_leaves (hkeys : s.disp.keys.Nodup) (hrt : rt ∈ s.disp.entries) {r : Request}
    (hgone : rt.key ∉ (step cfg s (env, .request r ok)).disp.keys) :
    Closes s (step cfg s (env, .request r ok)) rt (.request r ok) := by
  unfold step at hgone ⊢
  simp only at hgone ⊢
  split at hgone
  · rename_i hr
    rw [if_pos hr]
    exact carryOut_leaves hkeys hrt hr hgone
  · exact absurd (List.mem_map_of_mem hrt) hgone

theorem step_leaves (hk : Known False s.rows s.disp) (hkept : Kept s.rows s.disp)
    (hrt : rt ∈ s.disp.entries) (e : Env × Event) (hgone : rt.key ∉ (step cfg s e).disp.keys) :
    Closes s (step cfg s e) rt e.2 ∨ Voids s.disp e.2 := by
  obtain ⟨env, event⟩ := e
  have hstay : rt.key ∈ s.disp.keys := List.mem_map_of_mem hrt
  cases event with
  | request r ok => exact .inl (request_leaves hk.keys hrt hgone)
  | dbOpened ok uid => exact .inr (dbOpened_leaves hkept hrt hgone)
  | dbClosed | restart => exact .inr trivial
  | connectionClosed | resourceConnectionClosed => exact absurd hstay hgone
  | start => exact absurd (start_keeps _ _ hstay) hgone
  | scanTimeout => exact absurd (scanTimeout_keeps _ _ hstay) hgone
  | resourceLoginSuccess =>
    refine absurd ?_ hgone
    show rt.key ∈ (resumeUploadingEntries { s.disp with resourceReady := true }).keys
    rw [resumeUploadingEntries_keys]
    exact hstay
  | enqueueSend =>
    exact absurd (of_ite (R := fun _ d => rt.key ∈ d.keys)
      (fun _ => sendEnqueued_keeps _ _ _ _ hstay) hstay) hgone
  | textMsgRsp =>
    exact absurd (of_ite (R := fun _ d => rt.key ∈ d.keys)
      (fun _ => textMsgRsp_keeps _ _ _ _ _ _ hstay) hstay) hgone
  | resourceMsgMetaRsp =>
    exact absurd (of_ite (R := fun _ d => rt.key ∈ d.keys)
      (fun _ => resourceMsgMetaRsp_keeps _ _ _ _ _ hstay) hstay) hgone
  | transferFinished snapshot => exact absurd (transferFinished_keeps _ _ _ hstay) hgone
  | archived => exact absurd (finishArchive_keeps _ _ _ _ _ _ hstay) hgone

/-- In every run an entry has at most one closing action begun while it stays in the
register, and it leaves only when the store has carried out that action, or with
the database. -/
theorem outbox_durable (cfg : RetryConfig) (es : List (Env × Event)) (e : Env × Event) :
    (∀ rt ∈ (run cfg {} es).disp.entries, ∀ a ∈ rt.begun, a.Closing → rt.action = a) ∧
      ∀ rt ∈ (run cfg {} es).disp.entries,
        rt.key ∉ (step cfg (run cfg {} es) e).disp.keys →
          Closes (run cfg {} es) (step cfg (run cfg {} es) e) rt e.2 ∨
            Voids (run cfg {} es).disp e.2 := by
  obtain ⟨hk, hkept⟩ := run_invariants cfg es
  refine ⟨fun rt hrt => (hkept.entries rt hrt).begun, fun rt hrt hgone => ?_⟩
  exact step_leaves hk hkept hrt e hgone

/-- **What leaves the outbox was sent.**  In every run a 1301 is about a stored text of
the user it is sent for, also one that is lost because the connection is down, and a text
is off the `outbox` only if it has been sent for this user while the connection was up. -/
theorem outbox_sends_stored (cfg : RetryConfig) (es : List (Env × Event)) :
    (∀ u e c, .textChatMsg u e c ∈ (run cfg {} es).disp.emitted →
      e.operationType = .sendText ∧
        ∃ r ∈ (run cfg {} es).rows, r.uid = u ∧ ident r.entry = ident e) ∧
      ∀ r ∈ (run cfg {} es).rows, r.entry.operationType = .sendText → r.queued = false →
        r.entry.operationId ∈ firstSends r.uid (run cfg {} es).disp.emitted := by
  obtain ⟨hk, -⟩ := run_invariants cfg es
  exact ⟨hk.texts, hk.queued⟩

/-- The file is there. -/
def fileEnv (loginGeneration : Nat) : Env := ⟨0, fun p => p = "f", loginGeneration, rfl⟩

/-- A resource is uploaded and its confirmation fails; the user logs out and in again,
the upload is repeated and fails. -/
def repeatedUpload : List (Env × Event) :=
  [.dbOpened true 7, .start, .request .loadOutbox true, .resourceLoginSuccess,
    .enqueueSend 1 "k" .sendResource "x" { localMessageId := 1, localFilePath := "f" } true,
    .resourceMsgMetaRsp .success "k" 5, .request (.updateResourceStage "k" 5) true,
    .transferFinished ⟨5, 7, 1, true, .completed⟩, .request (.confirmResourceSent "k" "f") false,
    .connectionClosed, .resourceConnectionClosed, .dbClosed].map (fileEnv 1, ·) ++
  [.dbOpened true 7, .start, .resourceLoginSuccess, .request .loadOutbox true,
    .request (.getMessageByClientId "k") true, .transferFinished ⟨5, 7, 2, true, .failed⟩,
    .request (.markSendFailed "k") true].map (fileEnv 2, ·)

/-- The confirmation of the message was begun, and the message is marked failed. -/
theorem confirmed_then_failed :
    .confirmResourceSent "k" "f" ∈ (run {} {} repeatedUpload).disp.emitted ∧
      ((run {} {} repeatedUpload).rows.map fun r => (r.key, r.status)) = [("k", .failed)] := by
  decide +kernel

end LlfcChat.Outbox

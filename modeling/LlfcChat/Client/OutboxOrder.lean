/-
The invariant behind the order of first sends, and the runs in which it holds.

`Known` ties the register and the log to the rows of the outbox: what is
registered, sent or tracked has its row, and a text that was touched or taken
out of the outbox has been sent.  `InOrder` is the order itself, together with
what makes the next send fit: a text that is still to be sent comes after all
that were.  `Settled` says that once the register is restored no text waits any
more; it is what a text committed offline breaks, and so the condition of the
result.  Where a restore brings no entries at all, no text may ever wait.
-/
import LlfcChat.Client.FirstSends

namespace LlfcChat.Outbox

variable {P L : Prop} {cfg : RetryConfig} {env : Env} {rows : List Row} {d d' : Dispatcher}

/-! ### The invariant -/

/-- What never changes of a row. -/
def Row.ident (r : Row) : Int × Int × String × OutboxOperation := (r.uid, Outbox.ident r.entry)

structure Known (P : Prop) (rows : List Row) (d : Dispatcher) : Prop where
  keys : d.keys.Nodup
  rowKeys : (rows.map (·.key)).Nodup
  sorted : rows.Pairwise fun r r' => r.uid = r'.uid → r.entry.operationId < r'.entry.operationId
  entries : ∀ rt ∈ d.entries, ∃ r ∈ rows, r.uid = d.activeUid ∧ ident r.entry = ident rt.entry
  tracked : ∀ k ∈ d.tracked, ∃ r ∈ rows, r.key = k ∧ r.entry.operationType = .sendResource
  texts : ∀ u e c, .textChatMsg u e c ∈ d.emitted → e.operationType = .sendText ∧
    ∃ r ∈ rows, r.uid = u ∧ ident r.entry = ident e
  creates : ∀ u e, .createResourceMsg u e ∈ d.emitted →
    ∃ r ∈ rows, r.key = e.clientMessageId ∧ r.entry.operationType = .sendResource
  marked : ∀ rt ∈ d.entries, rt.entry.operationType = .sendText → rt.Marked P →
    rt.entry.operationId ∈ firstSends d.activeUid d.emitted
  queued : ∀ r ∈ rows, r.entry.operationType = .sendText → r.queued = false →
    r.entry.operationId ∈ firstSends r.uid d.emitted
  unqueued : ∀ req ∈ d.emitted, ∀ k, req.unqueues = some k → ∃ r ∈ rows, r.key = k ∧
    (r.entry.operationType = .sendText → r.entry.operationId ∈ firstSends r.uid d.emitted)

/-- The first sends of each user are in order, and what is unsent comes later. -/
def InOrder (rows : List Row) (log : List Request) : Prop :=
  ∀ uid, (firstSends uid log).Pairwise (· < ·) ∧
    ∀ r ∈ rows, r.uid = uid → r.entry.operationType = .sendText →
      r.entry.operationId ∉ firstSends uid log → ∀ o ∈ firstSends uid log, o < r.entry.operationId

/-- No text of the user waits. -/
def AllSent (rows : List Row) (d : Dispatcher) : Prop :=
  ∀ r ∈ rows, r.uid = d.activeUid → r.entry.operationType = .sendText →
    r.entry.operationId ∈ firstSends d.activeUid d.emitted

/-- A restored register has no text that waits. -/
def Settled (rows : List Row) (d : Dispatcher) : Prop :=
  d.restored = true → d.restoring = false ∧ d.dbReady = true ∧ AllSent rows d

/-- All of it.  `P` says that the run was one of those in which the order holds, and `L`
that a restore loads the outbox; what is known of the rows is known in every run. -/
structure Ordered (P L : Prop) (rows : List Row) (d : Dispatcher) : Prop where
  known : Known P rows d
  inOrder : P → InOrder rows d.emitted
  settled : P → Settled rows d
  unloaded : P → L ∨ ∀ r ∈ rows, r.entry.operationType = .sendText →
    r.entry.operationId ∈ firstSends r.uid d.emitted

theorem Known.row_unique (h : Known P rows d) {r r' : Row} (hr : r ∈ rows) (hr' : r' ∈ rows)
    (hkey : r.key = r'.key) : r = r' :=
  List.inj_on_of_nodup_map h.rowKeys hr hr' hkey

variable {s : Dispatcher} {rt : RuntimeEntry} {key : String}

/-- The row of an entry is found by its key. -/
theorem Known.row_of_key (h : Known P rows d) (hrt : rt ∈ d.entries) {r : Row} (hr : r ∈ rows)
    (hkey : r.key = rt.key) :
    r.uid = d.activeUid ∧ ident r.entry = ident rt.entry := by
  obtain ⟨r', hr', huid, hid⟩ := h.entries rt hrt
  have hparts := ident_inj hid
  rw [h.row_unique hr hr' (hkey.trans hparts.2.1.symm)]
  exact ⟨huid, hid⟩

/-- A message that is to be read or uploaded is a resource. -/
theorem Known.tracked_resource (h : Known P rows d) (hrt : rt ∈ d.entries)
    (htracked : rt.key ∈ d.tracked) : rt.entry.operationType = .sendResource := by
  obtain ⟨r, hr, hkey, htype⟩ := h.tracked _ htracked
  have hid := ident_inj ((h.row_of_key hrt hr hkey).2)
  rw [← hid.2.2]
  exact htype

/-! ### Work on the register -/

theorem Known.works (h : Known P rows d) (hw : Works P d d') : Known P rows d' := by
  have huid := hw.activeUid
  obtain ⟨new, hnew, htexts, hcreates, hcloses⟩ := hw.log
  have htouched : ∀ e : OutboxEntryDTO, e.operationType = .sendText → Touched P d d' e →
      e.operationId ∈ firstSends d.activeUid d'.emitted := by
    rintro e htype (⟨rt, hrt, hid, hmarked⟩ | hsent)
    · have hid := ident_inj hid
      rw [← hid.1]
      exact hw.sent (h.marked rt hrt (hid.2.2.trans htype) hmarked)
    · exact hsent
  refine
    { keys := keys_of_idents hw.idents ▸ h.keys
      rowKeys := h.rowKeys
      sorted := h.sorted
      entries := fun rt hrt => ?_
      tracked := fun k hk => ?_
      texts := fun u e c he => ?_
      creates := fun u e he => ?_
      marked := fun rt hrt htype hmarked => ?_
      queued := fun r hr htype hq => hw.sent (h.queued r hr htype hq)
      unqueued := fun req hreq k hk => ?_ }
  · obtain ⟨rt', hrt', hid⟩ := hw.mem_ident hrt
    obtain ⟨r, hr, hru, hrid⟩ := h.entries rt' hrt'
    exact ⟨r, hr, hru.trans huid.symm, hrid.trans hid⟩
  · rcases hw.tracked k hk with hk | ⟨rt, hrt, hkey, htype⟩
    · exact h.tracked k hk
    · obtain ⟨r, hr, -, hid⟩ := h.entries rt hrt
      have hid := ident_inj hid
      exact ⟨r, hr, hid.2.1.trans hkey, hid.2.2.trans htype⟩
  · rw [hnew] at he
    rcases List.mem_append.mp he with he | he
    · exact h.texts u e c he
    · obtain ⟨rfl, htype, rt, hrt, hid⟩ := htexts u e c he
      obtain ⟨r, hr, hru, hrid⟩ := h.entries rt hrt
      exact ⟨htype, r, hr, hru, hrid.trans hid⟩
  · rw [hnew] at he
    rcases List.mem_append.mp he with he | he
    · exact h.creates u e he
    · obtain ⟨htype, rt, hrt, hid⟩ := hcreates u e he
      obtain ⟨r, hr, -, hrid⟩ := h.entries rt hrt
      have hparts := ident_inj (hrid.trans hid)
      exact ⟨r, hr, hparts.2.1, hparts.2.2.trans htype⟩
  · rw [huid]
    exact htouched rt.entry htype (hw.marked rt hrt htype hmarked)
  · rw [hnew] at hreq
    rcases List.mem_append.mp hreq with hreq | hreq
    · obtain ⟨r, hr, hkey, hsent⟩ := h.unqueued req hreq k hk
      exact ⟨r, hr, hkey, fun htype => hw.sent (hsent htype)⟩
    · obtain ⟨rt, hrt, hkey, hsent⟩ := hcloses req hreq k hk
      obtain ⟨r, hr, hru, hid⟩ := h.entries rt hrt
      have hid := ident_inj hid
      refine ⟨r, hr, hid.2.1.trans hkey, fun htype => ?_⟩
      have hrt_text := hid.2.2.symm.trans htype
      rw [hru, hid.1]
      exact htouched rt.entry hrt_text (hsent hrt_text)

/-- Nothing is sent for the first time. -/
def Quiet (d d' : Dispatcher) : Prop :=
  ∃ new, d'.emitted = d.emitted ++ new ∧
    ∀ u e, .textChatMsg u e true ∈ new → e.operationId ∈ firstSends u d.emitted

theorem Quiet.firstSends (h : Quiet d d') (uid : Int) :
    firstSends uid d'.emitted = firstSends uid d.emitted := by
  obtain ⟨new, hnew, htexts⟩ := h
  rw [hnew, firstSends_append]
  exact foldl_addFirst_of_sent new fun e he => htexts uid e he

section

variable (h : Ordered P L rows d)

include h

theorem Ordered.works (hw : Works P d d') (hquiet : P → Quiet d d') : Ordered P L rows d' where
  known := h.known.works hw
  inOrder hp uid := by
    rw [(hquiet hp).firstSends uid]
    exact h.inOrder hp uid
  settled hp hrestored := by
    have hflags := hw.flags
    simp only [Dispatcher.flags, Prod.mk.injEq] at hflags
    obtain ⟨-, hready, hrest, hrestoring, huid⟩ := hflags
    obtain ⟨hidle, hdb, hall⟩ := h.settled hp (hrest ▸ hrestored)
    refine ⟨hrestoring.trans hidle, hready.trans hdb, fun r hr hru htype => ?_⟩
    rw [huid]
    exact hw.sent (hall r hr (hru.trans huid) htype)
  unloaded hp := (h.unloaded hp).imp id fun hall r hr htype => hw.sent (hall r hr htype)

/-- In a register without waiting texts only known texts are sent. -/
theorem Ordered.quiet (hp : P) (hrestored : d.restored = true) (hw : Works P d d') :
    Quiet d d' := by
  obtain ⟨new, hnew, htexts, -⟩ := hw.log
  refine ⟨new, hnew, fun u e he => ?_⟩
  obtain ⟨rfl, htype, rt, hrt, hid⟩ := htexts u e true he
  obtain ⟨r, hr, hru, hrid⟩ := h.known.entries rt hrt
  have hparts := ident_inj (hrid.trans hid)
  rw [← hparts.1]
  exact (h.settled hp hrestored).2.2 r hr hru (hparts.2.2.trans htype)

theorem Ordered.dispatchDueEntries : Ordered P L rows (dispatchDueEntries cfg env d) := by
  by_cases hrestored : d.restored = true
  · have hacts : Acts cfg env P d (Outbox.dispatchDueEntries cfg env d) := dispatchDueEntries_acts d
    have hw := hacts.works h.known.keys
    exact h.works hw fun hp => h.quiet hp hrestored hw
  · unfold Outbox.dispatchDueEntries
    rw [if_pos (.inr (.inl (Bool.not_eq_true _ ▸ hrestored)))]
    exact h

theorem Ordered.resumeUploadingEntries : Ordered P L rows (resumeUploadingEntries d) := by
  by_cases hrestored : d.restored = true
  · -- an upload reads neither the configuration nor the clock
    have hacts : Acts {} ⟨0, fun _ => false, 0, rfl⟩ P d (Outbox.resumeUploadingEntries d) :=
      resumeUploadingEntries_acts d
    have hw := hacts.works h.known.keys
    exact h.works hw fun hp => h.quiet hp hrestored hw
  · unfold Outbox.resumeUploadingEntries
    rw [if_pos (.inr (.inl (Bool.not_eq_true _ ▸ hrestored)))]
    exact h

/-- Work that hands over no text. -/
theorem Ordered.work (hw : Works P d d') (new : List Request) (hnew : d'.emitted = d.emitted ++ new)
    (htexts : ∀ u e c, .textChatMsg u e c ∉ new) : Ordered P L rows d' :=
  h.works hw fun _ => ⟨new, hnew, fun u e he => absurd he (htexts u e true)⟩

theorem Ordered.beginAction (hrt : rt ∈ d.entries) {set : RuntimeEntry → RuntimeEntry}
    (hset : ∀ rt, (set rt).entry = rt.entry) (action : PendingStoreAction)
    (hsent : rt.entry.operationType = .sendText →
      rt.entry.operationId ∈ firstSends d.activeUid d.emitted) :
    Ordered P L rows (beginAction cfg env set rt action d) := by
  have hw : Works P d (Outbox.beginAction cfg env set rt action d) :=
    beginAction_works h.known.keys hrt hset action fun htype => .inr (hsent htype)
  exact h.work hw (pendingRequest ((set rt).begin cfg env action)) rfl
    fun u e c he => (pendingRequest_spec he).1 u e c rfl

theorem Ordered.startResourceUpload {rt' : RuntimeEntry} (hrt : rt ∈ d.entries)
    (htype : rt.entry.operationType = .sendResource) (hkey : rt'.key = rt.key) (messageId : Int) :
    Ordered P L rows (startResourceUpload rt' messageId d) := by
  have hw : Works P d (Outbox.startResourceUpload rt' messageId d) :=
    startResourceUpload_works h.known.keys hrt htype hkey messageId
  rcases startResourceUpload_eq rt' messageId d with heq | heq
  · refine h.work hw [] ?_ fun u e c he => absurd he List.not_mem_nil
    rw [heq]
    exact (List.append_nil _).symm
  · refine h.work hw [_] (by rw [heq]) fun u e c he => ?_
    cases List.mem_singleton.mp he

/-- An entry is changed and stays as touched as it was. -/
theorem Ordered.modify (hrt : rt ∈ d.entries) {f : RuntimeEntry → RuntimeEntry}
    (hf : ∀ rt, ident (f rt).entry = ident rt.entry)
    (hmarked : rt.entry.operationType = .sendText → (f rt).Marked P → rt.Marked P) :
    Ordered P L rows (d.modify rt.key f) := by
  refine h.work (works_entry h.known.keys hrt hf [] rfl rfl (List.append_nil _).symm
    (fun k hk => .inl hk) (fun htype hm => ?_) fun r hr => absurd hr List.not_mem_nil) []
    (List.append_nil _).symm fun u e c he => absurd he List.not_mem_nil
  rcases hm with hm | ⟨r, hr, -⟩
  · exact .inl (hmarked htype hm)
  · cases hr

end

theorem Quiet.refl (d : Dispatcher) : Quiet d d :=
  ⟨[], (List.append_nil _).symm, fun _ _ h => absurd h List.not_mem_nil⟩

theorem Quiet.trans {d'' : Dispatcher} (h : Quiet d d') (h' : Quiet d' d'') : Quiet d d'' := by
  have hsame := h.firstSends
  obtain ⟨new, hnew, htexts⟩ := h
  obtain ⟨new', hnew', htexts'⟩ := h'
  refine ⟨new ++ new', by rw [hnew', hnew, List.append_assoc], fun u e he => ?_⟩
  rcases List.mem_append.mp he with he | he
  · exact htexts u e he
  · rw [← hsame u]
    exact htexts' u e he

/-! ### The register is cleared, or grows -/

/-- Entries and tracked messages may go, and flags may change. -/
theorem Known.shrink (h : Known P rows d) (hentries : d'.entries.Sublist d.entries)
    (htracked : d'.tracked ⊆ d.tracked) (hemitted : d'.emitted = d.emitted)
    (huid : d'.entries = [] ∨ d'.activeUid = d.activeUid) : Known P rows d' where
  keys := h.keys.sublist (hentries.map _)
  rowKeys := h.rowKeys
  sorted := h.sorted
  entries rt hrt := by
    rcases huid with hnil | huid
    · rw [hnil] at hrt
      cases hrt
    · rw [huid]
      exact h.entries rt (hentries.subset hrt)
  tracked k hk := h.tracked k (htracked hk)
  texts := hemitted ▸ h.texts
  creates := hemitted ▸ h.creates
  marked rt hrt htype hmarked := by
    rcases huid with hnil | huid
    · rw [hnil] at hrt
      cases hrt
    · rw [huid, hemitted]
      exact h.marked rt (hentries.subset hrt) htype hmarked
  queued := hemitted ▸ h.queued
  unqueued := hemitted ▸ h.unqueued

/-- The register is void and waits for a restore. -/
theorem Ordered.clear (h : Ordered P L rows d) (hentries : d'.entries = [])
    (htracked : d'.tracked = []) (hrestored : d'.restored = false)
    (hemitted : d'.emitted = d.emitted) : Ordered P L rows d' where
  known := h.known.shrink (hentries ▸ List.nil_sublist _) (htracked ▸ List.nil_subset _) hemitted
    (.inl hentries)
  inOrder := hemitted ▸ h.inOrder
  settled _ hr := by
    rw [hrestored] at hr
    cases hr
  unloaded := hemitted ▸ h.unloaded

theorem Ordered.requestRestore (h : Ordered P L rows d) :
    Ordered P L rows (requestRestore env d) := by
  unfold Outbox.requestRestore
  split
  · exact h
  split
  · exact h
  rename_i hguard _
  simp only [not_or] at hguard
  obtain ⟨-, -, hrestored, -⟩ := hguard
  have hflag : Ordered P L rows { d with restoring := true } :=
    { known := h.known.shrink (List.Sublist.refl _) (List.Subset.refl _) rfl (.inr rfl)
      inOrder := h.inOrder
      settled := fun _ hr => absurd hr hrestored
      unloaded := h.unloaded }
  refine hflag.work (works_of_same rfl rfl (fun k hk => .inl hk) [.loadOutbox] rfl ?_ ?_ ?_)
    [.loadOutbox] rfl ?_
  · intro u e c he
    cases List.mem_singleton.mp he
  · intro u e he
    cases List.mem_singleton.mp he
  · intro r hr
    obtain rfl := List.mem_singleton.mp hr
    rfl
  · intro u e c he
    cases List.mem_singleton.mp he

theorem insertEntry_perm (rt : RuntimeEntry) (l : List RuntimeEntry) :
    (insertEntry rt l).Perm (rt :: l) := by
  induction l with
  | nil => exact List.Perm.refl _
  | cons e es ih =>
    unfold insertEntry
    split
    · exact List.Perm.refl _
    · exact (ih.cons e).trans (List.Perm.swap rt e es)

/-- The register holds one entry for a key, also after a new one came. -/
theorem nodup_register (h : d.keys.Nodup) (rt : RuntimeEntry) : (register rt d).keys.Nodup := by
  unfold Outbox.register
  split
  · exact h
  rename_i hnone
  rw [find_isSome] at hnone
  show ((insertEntry rt d.entries).map (·.key)).Nodup
  rw [((insertEntry_perm rt d.entries).map _).nodup_iff, List.map_cons, List.nodup_cons]
  refine ⟨fun hkey => hnone ?_, h⟩
  obtain ⟨x, hx, hxkey⟩ := List.mem_map.mp hkey
  exact ⟨x, hx, hxkey⟩

/-- A new entry with its row. -/
theorem Known.register (h : Known P rows d) (hfresh : ¬rt.Marked P) {r : Row} (hr : r ∈ rows)
    (hru : r.uid = d.activeUid) (hid : ident r.entry = ident rt.entry) :
    Known P rows (register rt d) := by
  have hkeys := nodup_register h.keys rt
  unfold Outbox.register at hkeys ⊢
  split
  · exact h
  rename_i hnone
  rw [if_neg hnone] at hkeys
  have hperm := insertEntry_perm rt d.entries
  have hmem : ∀ x ∈ insertEntry rt d.entries, x = rt ∨ x ∈ d.entries := fun x hx =>
    List.mem_cons.mp (hperm.mem_iff.mp hx)
  refine { h with keys := hkeys, entries := fun x hx => ?_, marked := fun x hx htype hmarked => ?_ }
  · rcases hmem x hx with rfl | hx
    · exact ⟨r, hr, hru, hid⟩
    · exact h.entries x hx
  · rcases hmem x hx with rfl | hx
    · exact absurd hmarked hfresh
    · exact h.marked x hx htype hmarked

/-! ### The rows change -/

/-- A transaction changes a row, which stays the row of the same message. -/
theorem mem_rows_of_same {rows rows' : List Row}
    (hsame : rows'.map Row.ident = rows.map Row.ident) {r' : Row} (hr' : r' ∈ rows') :
    ∃ r ∈ rows, r.ident = r'.ident := by
  have hmem : r'.ident ∈ rows.map Row.ident := hsame ▸ List.mem_map_of_mem hr'
  exact List.mem_map.mp hmem

theorem Ordered.of_rows {rows' : List Row} (h : Ordered P L rows d)
    (hsame : rows'.map Row.ident = rows.map Row.ident)
    (hqueued : ∀ r ∈ rows', r.entry.operationType = .sendText → r.queued = false →
      r.entry.operationId ∈ firstSends r.uid d.emitted) : Ordered P L rows' d := by
  -- every row of the one list has its like in the other
  have hto : ∀ r' ∈ rows', ∃ r ∈ rows, r.uid = r'.uid ∧ r.key = r'.key ∧
      r.entry.operationId = r'.entry.operationId ∧
      r.entry.operationType = r'.entry.operationType := fun r' hr' => by
    obtain ⟨r, hr, hid⟩ := mem_rows_of_same hsame hr'
    simp only [Row.ident, ident, Prod.mk.injEq] at hid
    exact ⟨r, hr, hid.1, hid.2.2.1, hid.2.1, hid.2.2.2⟩
  have hfrom : ∀ r ∈ rows, ∃ r' ∈ rows', r'.uid = r.uid ∧ ident r'.entry = ident r.entry :=
    fun r hr => by
    obtain ⟨r', hr', hid⟩ := mem_rows_of_same hsame.symm hr
    simp only [Row.ident, Prod.mk.injEq] at hid
    exact ⟨r', hr', hid⟩
  have hkind : ∀ {r' r : Row}, ident r'.entry = ident r.entry →
      r'.key = r.key ∧ r'.entry.operationType = r.entry.operationType := fun hid => by
    have hid := ident_inj hid
    exact hid.2
  refine ⟨{ keys := h.known.keys, rowKeys := ?_, sorted := ?_, entries := ?_, tracked := ?_,
            texts := ?_, creates := ?_, marked := h.known.marked, queued := hqueued,
            unqueued := ?_ }, fun hp uid => ⟨(h.inOrder hp uid).1, ?_⟩, fun hp hrestored => ?_,
    fun hp => (h.unloaded hp).imp id fun hall r' hr' htype => ?_⟩
  · have hkeys := congrArg (List.map fun i : Int × Int × String × OutboxOperation => i.2.2.1) hsame
    rw [List.map_map, List.map_map] at hkeys
    exact (congrArg List.Nodup hkeys).mpr h.known.rowKeys
  · have hpair : (rows.map Row.ident).Pairwise fun i j => i.1 = j.1 → i.2.1 < j.2.1 :=
      List.pairwise_map.mpr h.known.sorted
    rw [← hsame] at hpair
    exact List.pairwise_map.mp hpair
  · intro rt hrt
    obtain ⟨r, hr, hru, hid⟩ := h.known.entries rt hrt
    obtain ⟨r', hr', hru', hid'⟩ := hfrom r hr
    exact ⟨r', hr', hru'.trans hru, hid'.trans hid⟩
  · intro k hk
    obtain ⟨r, hr, hkey, htype⟩ := h.known.tracked k hk
    obtain ⟨r', hr', -, hid'⟩ := hfrom r hr
    exact ⟨r', hr', (hkind hid').1.trans hkey, (hkind hid').2.trans htype⟩
  · intro u e c he
    obtain ⟨htype, r, hr, hru, hid⟩ := h.known.texts u e c he
    obtain ⟨r', hr', hru', hid'⟩ := hfrom r hr
    exact ⟨htype, r', hr', hru'.trans hru, hid'.trans hid⟩
  · intro u e he
    obtain ⟨r, hr, hkey, htype⟩ := h.known.creates u e he
    obtain ⟨r', hr', -, hid'⟩ := hfrom r hr
    exact ⟨r', hr', (hkind hid').1.trans hkey, (hkind hid').2.trans htype⟩
  · intro req hreq k hk
    obtain ⟨r, hr, hkey, hsent⟩ := h.known.unqueued req hreq k hk
    obtain ⟨r', hr', hru', hid'⟩ := hfrom r hr
    have hkinds := hkind hid'
    refine ⟨r', hr', hkinds.1.trans hkey, fun htype => ?_⟩
    have hop : r'.entry.operationId = r.entry.operationId := congrArg Prod.fst hid'
    rw [hop, hru']
    exact hsent (hkinds.2.symm.trans htype)
  · intro r' hr' hru' htype hunsent
    obtain ⟨r, hr, hru, -, hop, hrtype⟩ := hto r' hr'
    rw [← hop] at hunsent ⊢
    exact (h.inOrder hp uid).2 r hr (hru.trans hru') (hrtype.trans htype) hunsent
  · obtain ⟨hidle, hdb, hall⟩ := h.settled hp hrestored
    refine ⟨hidle, hdb, fun r' hr' hru' htype => ?_⟩
    obtain ⟨r, hr, hru, -, hop, hrtype⟩ := hto r' hr'
    rw [← hop]
    exact hall r hr (hru.trans hru') (hrtype.trans htype)
  · obtain ⟨r, hr, hru, -, hop, hrtype⟩ := hto r' hr'
    rw [← hop, ← hru]
    exact hall r hr (hrtype.trans htype)

/-! ### A text is sent for the first time -/

/-- All new texts are one text, which goes to the end. -/
theorem foldl_addFirst_of_one (uid n : Int) (new : List Request) (ops : List Int)
    (h : ∀ e, .textChatMsg uid e true ∈ new → e.operationId ∈ ops ∨ e.operationId = n) :
    new.foldl (addFirst uid) ops = ops ∨ new.foldl (addFirst uid) ops = ops ++ [n] := by
  induction new with
  | nil => exact .inl rfl
  | cons r new ih =>
    have hrest : ∀ e, .textChatMsg uid e true ∈ new → e.operationId ∈ ops ∨ e.operationId = n :=
      fun e he => h e (List.mem_cons_of_mem _ he)
    have hr : addFirst uid ops r = ops ∨ addFirst uid ops r = ops ++ [n] := by
      unfold addFirst
      split
      · rename_i u e
        split
        · rename_i hc
          obtain ⟨rfl, hout⟩ := hc
          rcases h e List.mem_cons_self with hin | rfl
          · exact absurd hin hout
          · exact .inr rfl
        · exact .inl rfl
      · exact .inl rfl
    rw [List.foldl_cons]
    rcases hr with hr | hr
    · rw [hr]
      exact ih hrest
    · rw [hr]
      refine .inr (foldl_addFirst_of_sent new fun e he => ?_)
      rcases hrest e he with hin | rfl
      · exact List.mem_append_left _ hin
      · exact List.mem_append_right _ List.mem_cons_self

/-- The first of the waiting texts may be sent. -/
theorem InOrder.send {log new : List Request} (h : InOrder rows log) {v n : Int}
    (hnew : ∀ u e, .textChatMsg u e true ∈ new →
      e.operationId ∈ firstSends u log ∨ u = v ∧ e.operationId = n)
    (hlast : ∀ o ∈ firstSends v log, o < n)
    (hfirst : ∀ r ∈ rows, r.uid = v → r.entry.operationType = .sendText →
      r.entry.operationId ∉ firstSends v log → n ≤ r.entry.operationId) :
    InOrder rows (log ++ new) := by
  intro uid
  rw [firstSends_append]
  by_cases huid : uid = v
  · subst huid
    have hone := foldl_addFirst_of_one uid n new (firstSends uid log) fun e he =>
      (hnew uid e he).imp id And.right
    rcases hone with heq | heq
    · rw [heq]
      exact h uid
    · rw [heq]
      refine ⟨?_, fun r hr hru htype hunsent o ho => ?_⟩
      · rw [List.pairwise_append]
        refine ⟨(h uid).1, List.pairwise_singleton _ _, fun o ho n' hn' => ?_⟩
        rw [List.mem_singleton.mp hn']
        exact hlast o ho
      · rw [List.mem_append, List.mem_singleton, not_or] at hunsent
        obtain ⟨hunsent, hne⟩ := hunsent
        rcases List.mem_append.mp ho with ho | ho
        · exact (h uid).2 r hr hru htype hunsent o ho
        · have hle := hfirst r hr hru htype hunsent
          rw [List.mem_singleton.mp ho]
          omega
  · have hquiet : new.foldl (addFirst uid) (firstSends uid log) = firstSends uid log := by
      refine foldl_addFirst_of_sent new fun e he => ?_
      rcases hnew uid e he with hin | ⟨hu, -⟩
      · exact hin
      · exact absurd hu huid
    rw [hquiet]
    exact h uid

/-! ### A text that is due is sent -/

theorem find_modify_ne (s : Dispatcher) {key' : String} (hne : key ≠ key')
    {f : RuntimeEntry → RuntimeEntry} (hf : ∀ rt, (f rt).key = rt.key) :
    (s.modify key f).find key' = s.find key' := by
  unfold Dispatcher.find Dispatcher.modify
  simp only [Table.update]
  induction s.entries with
  | nil => rfl
  | cons rt l ih =>
    rw [List.map_cons, List.find?_cons, List.find?_cons]
    by_cases hkey : rt.key = key
    · have hother : ¬rt.key = key' := fun h => hne (hkey.symm.trans h)
      rw [if_pos hkey, hf rt, decide_eq_false hother]
      exact ih
    · rw [if_neg hkey]
      cases decide (rt.key = key') with
      | true => rfl
      | false => exact ih

/-- An entry is not touched by the work on another. -/
theorem dispatchEntry_find_ne (hne : rt.key ≠ key) :
    (dispatchEntry cfg env rt s).find key = s.find key := by
  unfold dispatchEntry
  split
  · exact find_modify_ne (s.emit _) hne fun _ => rfl
  · unfold dispatchResourceEntry
    split
    · rfl
    split
    · rfl
    split
    · exact find_modify_ne s hne fun _ => rfl
    · exact find_modify_ne (s.emit _) hne fun _ => rfl

theorem dispatchDue_find_ne {key' : String} (hne : key ≠ key') :
    (dispatchDue cfg env s key).find key' = s.find key' := by
  unfold dispatchDue
  split
  · rfl
  rename_i rt hfind
  obtain ⟨-, rfl⟩ := find_some hfind
  split
  · rfl
  split
  · exact find_modify_ne s hne fun _ => rfl
  split
  · rfl
  · exact dispatchEntry_find_ne hne

/-- A text entry that is sent is among the first sends. -/
theorem dispatchEntry_sends (htype : rt.entry.operationType = .sendText)
    (hconnected : s.connected = true) :
    rt.entry.operationId ∈ firstSends s.activeUid (dispatchEntry cfg env rt s).emitted := by
  unfold dispatchEntry
  rw [htype]
  refine mem_firstSends (List.mem_append_right _ ?_)
  exact List.mem_singleton.mpr (by rw [hconnected])

theorem dispatchDue_loop (keys : List String) (hnodup : s.keys.Nodup)
    (hfind : s.find rt.key = some rt) (hin : rt.key ∈ keys)
    (htype : rt.entry.operationType = .sendText)
    (hfresh : rt.nextRetryAt = 0 ∧ rt.action = .none)
    (hconnected : s.connected = true) :
    rt.entry.operationId ∈
      firstSends s.activeUid (keys.foldl (dispatchDue cfg env) s).emitted := by
  induction keys generalizing s with
  | nil => cases hin
  | cons key keys ih =>
    have hacts : Acts cfg env False s (dispatchDue cfg env s key) := dispatchDue_acts s key
    have hw := hacts.works hnodup
    have hnodup' : (dispatchDue cfg env s key).keys.Nodup := hacts.keys ▸ hnodup
    rw [List.foldl_cons]
    by_cases hkey : key = rt.key
    · -- its turn: it is sent, and the rest of the loop keeps the log
      subst hkey
      have hrest : Acts cfg env False (dispatchDue cfg env s rt.key)
          (keys.foldl (dispatchDue cfg env) (dispatchDue cfg env s rt.key)) :=
        acts_foldl dispatchDue_acts keys _
      refine (hrest.works hnodup').sent ?_
      have hturn : dispatchDue cfg env s rt.key = dispatchEntry cfg env rt s := by
        unfold dispatchDue
        rw [hfind]
        show (if env.now < rt.nextRetryAt then _ else _) = _
        rw [hfresh.1, if_neg (Nat.not_lt_zero _), if_neg (not_not_intro hfresh.2),
          if_neg (by rw [hconnected]; exact Bool.noConfusion)]
      rw [hturn]
      exact dispatchEntry_sends htype hconnected
    · rcases List.mem_cons.mp hin with heq | hin
      · exact absurd heq.symm hkey
      have hflags := hw.flags
      simp only [Dispatcher.flags, Prod.mk.injEq] at hflags
      have hlater := ih hnodup' ((dispatchDue_find_ne hkey).trans hfind) hin
        (hflags.1.trans hconnected)
      rw [hflags.2.2.2.2] at hlater
      exact hlater

theorem dispatchDueEntries_sends (hnodup : s.keys.Nodup) (hrt : rt ∈ s.entries)
    (htype : rt.entry.operationType = .sendText)
    (hfresh : rt.nextRetryAt = 0 ∧ rt.action = .none)
    (hconnected : s.connected = true) (hready : s.dbReady = true) (hrestored : s.restored = true)
    (hidle : s.restoring = false) :
    rt.entry.operationId ∈ firstSends s.activeUid (dispatchDueEntries cfg env s).emitted := by
  unfold dispatchDueEntries
  rw [if_neg (by rw [hready, hrestored, hidle]; decide)]
  exact dispatchDue_loop s.keys hnodup (find_of_mem hnodup hrt) (List.mem_map_of_mem hrt) htype
    hfresh hconnected

end LlfcChat.Outbox

/-
First sends over whole runs of the outbox.

Every event keeps `Ordered`.  Two of them send texts for the first time: the
commit of a text, which in a restored register with the connection up is the
only text that waits, and the result of `loadOutbox`, whose first round sends
what waits in the order of the operations.
-/
import LlfcChat.Client.OutboxOrder

namespace LlfcChat.Outbox

variable {P L : Prop} {cfg : RetryConfig} {env : Env} {rows : List Row} {d d' : Dispatcher}

/-! ### A message is committed -/

theorem Known.add_row (h : Known P rows d) {row : Row} (hkey : ∀ r ∈ rows, r.key ≠ row.key)
    (hop : ∀ r ∈ rows, r.uid = row.uid → r.entry.operationId < row.entry.operationId)
    (hqueued : row.queued = true) : Known P (rows ++ [row]) d where
  keys := h.keys
  rowKeys := Table.nodup_concat h.rowKeys hkey
  sorted := by
    rw [List.pairwise_append]
    refine ⟨h.sorted, List.pairwise_singleton _ _, fun r hr r' hr' => ?_⟩
    obtain rfl := List.mem_singleton.mp hr'
    exact hop r hr
  entries rt hrt := by
    obtain ⟨r, hr, hrow⟩ := h.entries rt hrt
    exact ⟨r, List.mem_append_left _ hr, hrow⟩
  tracked k hk := by
    obtain ⟨r, hr, hrow⟩ := h.tracked k hk
    exact ⟨r, List.mem_append_left _ hr, hrow⟩
  texts u e c he := by
    obtain ⟨htype, r, hr, hrow⟩ := h.texts u e c he
    exact ⟨htype, r, List.mem_append_left _ hr, hrow⟩
  creates u e he := by
    obtain ⟨r, hr, hrow⟩ := h.creates u e he
    exact ⟨r, List.mem_append_left _ hr, hrow⟩
  marked := h.marked
  queued r hr htype hq := by
    rcases List.mem_append.mp hr with hr | hr
    · exact h.queued r hr htype hq
    · rw [List.mem_singleton.mp hr, hqueued] at hq
      cases hq
  unqueued req hreq k hk := by
    obtain ⟨r, hr, hrow⟩ := h.unqueued req hreq k hk
    exact ⟨r, List.mem_append_left _ hr, hrow⟩

/-- Everything sent for a user has a smaller id than the next operation. -/
theorem Known.sent_lt (h : Known P rows d) {uid n : Int}
    (hop : ∀ r ∈ rows, r.uid = uid → r.entry.operationId < n) {o : Int}
    (ho : o ∈ firstSends uid d.emitted) : o < n := by
  obtain ⟨e, he, rfl⟩ := of_mem_firstSends ho
  obtain ⟨-, r, hr, hru, hid⟩ := h.texts uid e true he
  have hopid : r.entry.operationId = e.operationId := congrArg Prod.fst hid
  rw [← hopid]
  exact hop r hr hru

theorem InOrder.add_row (hknown : Known P rows d) (h : InOrder rows d.emitted) {row : Row}
    (hop : ∀ r ∈ rows, r.uid = row.uid → r.entry.operationId < row.entry.operationId) :
    InOrder (rows ++ [row]) d.emitted := by
  refine fun uid => ⟨(h uid).1, fun r hr hru htype hunsent o ho => ?_⟩
  rcases List.mem_append.mp hr with hr | hr
  · exact (h uid).2 r hr hru htype hunsent o ho
  · obtain rfl := List.mem_singleton.mp hr
    subst hru
    exact hknown.sent_lt hop ho

variable {e : OutboxEntryDTO} {rt : RuntimeEntry} {key : String} {s : System}

theorem register_new (hnone : ¬(d.find rt.key).isSome) :
    register rt d = { d with entries := insertEntry rt d.entries } := if_neg hnone

/-- The row of a message that the user has just written, and the entry registered for it. -/
structure NewRow (rows : List Row) (d : Dispatcher) (row : Row) (rt : RuntimeEntry) : Prop where
  uid : row.uid = d.activeUid
  entry : row.entry = rt.entry
  key : ∀ r ∈ rows, r.key ≠ row.key
  later : ∀ r ∈ rows, r.uid = row.uid → r.entry.operationId < row.entry.operationId
  queued : row.queued = true
  fresh : rt.nextRetryAt = 0 ∧ rt.action = .none

section

variable {row : Row} (hn : NewRow rows d row rt)

include hn

/-- The key is new to the register too. -/
theorem NewRow.unregistered (h : Known P rows d) : ¬(d.find rt.key).isSome := by
  rw [find_isSome]
  rintro ⟨x, hx, hxkey⟩
  obtain ⟨r, hr, -, hid⟩ := h.entries x hx
  have hid := ident_inj hid
  refine hn.key r hr (hid.2.1.trans (hxkey.trans ?_))
  exact congrArg OutboxEntryDTO.clientMessageId hn.entry.symm

theorem Known.add_entry (h : Known P rows d) :
    Known P (rows ++ [row]) { d with entries := insertEntry rt d.entries } := by
  have hfresh : ¬rt.Marked P := by
    rintro (⟨-, hc⟩ | hc)
    · exact hc hn.fresh.1
    · exact hc hn.fresh.2
  have hreg := (h.add_row hn.key hn.later hn.queued).register hfresh
    (List.mem_append_right _ List.mem_cons_self) hn.uid (congrArg ident hn.entry)
  rw [register_new (hn.unregistered h)] at hreg
  exact hreg

/-- A new row leaves the texts of a list sent if it is no text or sent itself. -/
theorem NewRow.all_sent {log : List Request} {uid : Int}
    (hold : ∀ r ∈ rows, r.uid = uid → r.entry.operationType = .sendText →
      r.entry.operationId ∈ firstSends uid log)
    (hnew : rt.entry.operationType = .sendText → row.uid = uid →
      rt.entry.operationId ∈ firstSends uid log) :
    ∀ r ∈ rows ++ [row], r.uid = uid → r.entry.operationType = .sendText →
      r.entry.operationId ∈ firstSends uid log := by
  intro r hr hru htype
  rcases List.mem_append.mp hr with hr | hr
  · exact hold r hr hru htype
  · obtain rfl := List.mem_singleton.mp hr
    rw [hn.entry] at htype ⊢
    exact hnew htype hru

variable (h : Ordered P L rows d)

include h

/-- Before the restore nothing is sent. -/
theorem Ordered.enqueue_unrestored (hrestored : d.restored = false) (hloads : P → L) :
    Ordered P L (rows ++ [row]) { d with entries := insertEntry rt d.entries } where
  known := h.known.add_entry hn
  inOrder hp := (h.inOrder hp).add_row h.known hn.later
  settled _ hr := by
    rw [hrestored] at hr
    cases hr
  unloaded hp := .inl (hloads hp)

/-- No text is added. -/
theorem Ordered.enqueue_resource (htype : rt.entry.operationType = .sendResource) :
    Ordered P L (rows ++ [row]) { d with entries := insertEntry rt d.entries } := by
  have hno : ¬rt.entry.operationType = .sendText := by
    rw [htype]
    exact OutboxOperation.noConfusion
  refine ⟨h.known.add_entry hn, fun hp => (h.inOrder hp).add_row h.known hn.later,
    fun hp hrestored => ?_, fun hp => (h.unloaded hp).imp id fun hall r hr hrtype => ?_⟩
  · obtain ⟨hidle, hready, hall⟩ := h.settled hp hrestored
    exact ⟨hidle, hready, hn.all_sent hall fun ht => absurd ht hno⟩
  · refine hn.all_sent (fun r' hr' hru ht => ?_) (fun ht => absurd ht hno) r hr rfl hrtype
    rw [← hru]
    exact hall r' hr' ht

/-- A text that is committed while the connection of a restored register is up is the
only one that waits, and it is sent at once. -/
theorem Ordered.enqueue_text (htype : rt.entry.operationType = .sendText)
    (hup : P → d.restored = true ∧ d.connected = true) :
    Ordered P L (rows ++ [row])
      (Outbox.dispatchDueEntries cfg env { d with entries := insertEntry rt d.entries }) := by
  have hknown := h.known.add_entry hn
  have hperm := insertEntry_perm rt d.entries
  have hw : Works P { d with entries := insertEntry rt d.entries }
      (Outbox.dispatchDueEntries cfg env { d with entries := insertEntry rt d.entries }) :=
    (dispatchDueEntries_acts _).works hknown.keys
  have hall : P → AllSent rows d := fun hp => (h.settled hp (hup hp).1).2.2
  have hsent : P → rt.entry.operationId ∈ firstSends d.activeUid
      (Outbox.dispatchDueEntries cfg env
        { d with entries := insertEntry rt d.entries }).emitted := fun hp => by
    obtain ⟨hrestored, hconnected⟩ := hup hp
    obtain ⟨hidle, hready, -⟩ := h.settled hp hrestored
    exact dispatchDueEntries_sends hknown.keys (hperm.mem_iff.mpr List.mem_cons_self) htype
      hn.fresh hconnected hready hrestored hidle
  obtain ⟨new, hnew, htexts, -⟩ := hw.log
  refine ⟨hknown.works hw, fun hp => ?_, fun hp _ => ?_,
    fun hp => (h.unloaded hp).imp id fun hsentAll r hr hrtype => ?_⟩
  · rw [hnew]
    have horder : InOrder (rows ++ [row]) d.emitted := (h.inOrder hp).add_row h.known hn.later
    refine horder.send (v := d.activeUid) (n := rt.entry.operationId) (fun u e he => ?_)
      (fun o ho => ?_) fun r hr hru hrtype hunsent => ?_
    · obtain ⟨rfl, hetype, x, hx, hid⟩ := htexts u e true he
      have hparts := ident_inj hid
      rcases List.mem_cons.mp (hperm.mem_iff.mp hx) with rfl | hx
      · exact .inr ⟨rfl, hparts.1.symm⟩
      · obtain ⟨r, hr, hru, hrid⟩ := h.known.entries x hx
        have hrid := ident_inj hrid
        rw [← hparts.1, ← hrid.1]
        exact .inl (hall hp r hr hru (hrid.2.2.trans (hparts.2.2.trans hetype)))
    · rw [← hn.entry]
      exact h.known.sent_lt (fun r hr hru => hn.later r hr (hru.trans hn.uid.symm)) ho
    · rcases List.mem_append.mp hr with hr | hr
      · exact absurd (hall hp r hr hru hrtype) hunsent
      · exact Int.le_of_eq (by rw [List.mem_singleton.mp hr, hn.entry])
  · obtain ⟨hidle, hready, -⟩ := h.settled hp (hup hp).1
    have hflags := hw.flags
    simp only [Dispatcher.flags, Prod.mk.injEq] at hflags
    obtain ⟨-, hready', -, hidle', huid'⟩ := hflags
    refine ⟨hidle'.trans hidle, hready'.trans hready, ?_⟩
    unfold AllSent
    rw [huid']
    exact hn.all_sent (fun r hr hru ht => hw.sent (hall hp r hr hru ht)) fun _ _ => hsent hp
  · refine hn.all_sent (fun r' hr' hru ht => ?_) (fun _ hru => ?_) r hr rfl hrtype
    · rw [← hru]
      exact hw.sent (hsentAll r' hr' ht)
    · rw [← hru, hn.uid]
      exact hsent hp

end

theorem Ordered.sendEnqueued (h : Ordered P L rows d) {operationId : Int}
    {operationType : OutboxOperation} {payloadJson : String} {resource : LocalMessageResourceDTO}
    (hadmits : System.Admits ⟨d, rows⟩ operationId key operationType resource)
    (hprompt : P → operationType = .sendText →
      d.restored = true ∧ d.connected = true ∨ d.restored = false ∧ L) :
    Ordered P L
      (rows ++ [{ uid := d.activeUid
                  entry := newEntry operationId key operationType payloadJson
                  resource := resource }])
      (slotSendEnqueued cfg env true resource
        (newEntry operationId key operationType payloadJson) d) := by
  obtain ⟨-, -, hkey, hop, -⟩ := hadmits
  have hn : NewRow rows d
      { uid := d.activeUid
        entry := newEntry operationId key operationType payloadJson
        resource := resource }
      { entry := newEntry operationId key operationType payloadJson, resource := resource } :=
    ⟨rfl, rfl, hkey, hop, rfl, rfl, rfl⟩
  have hnone := hn.unregistered h.known
  unfold slotSendEnqueued
  rw [if_neg Bool.noConfusion,
    if_neg (show ¬(d.find (newEntry _ _ _ _).clientMessageId).isSome from hnone),
    register_new hnone]
  cases htype : operationType with
  | sendResource =>
    subst htype
    exact (h.enqueue_resource hn rfl).dispatchDueEntries
  | sendText =>
    subst htype
    by_cases hrestored : d.restored = false
    · refine (h.enqueue_unrestored hn hrestored fun hp => ?_).dispatchDueEntries
      rcases hprompt hp rfl with ⟨hyes, -⟩ | ⟨-, hloads⟩
      · rw [hrestored] at hyes
        cases hyes
      · exact hloads
    · exact h.enqueue_text hn rfl fun hp =>
        (hprompt hp rfl).resolve_right fun hno => hrestored hno.1

/-! ### A restore -/

/-- The first loop of `slot_outbox_loaded`. -/
theorem registerAll (es : List OutboxEntryDTO) (h : Known P rows d)
    (hes : ∀ e ∈ es, ∃ r ∈ rows, r.uid = d.activeUid ∧ ident r.entry = ident e) :
    Known P rows (es.foldl (fun s entry => register { entry := entry } s) d) ∧
      (es.foldl (fun s entry => register { entry := entry } s) d).flags = d.flags ∧
      (es.foldl (fun s entry => register { entry := entry } s) d).emitted = d.emitted ∧
      (∀ rt ∈ d.entries, rt ∈ (es.foldl (fun s entry => register { entry := entry } s) d).entries) ∧
      ∀ e ∈ es, ∃ rt ∈ (es.foldl (fun s entry => register { entry := entry } s) d).entries,
        rt.key = e.clientMessageId := by
  induction es generalizing d with
  | nil => exact ⟨h, rfl, rfl, fun _ h => h, fun _ h => absurd h List.not_mem_nil⟩
  | cons e es ih =>
    obtain ⟨r, hr, hru, hid⟩ := hes e List.mem_cons_self
    have hfresh : ¬({ entry := e } : RuntimeEntry).Marked P := by
      rintro (⟨-, hc⟩ | hc) <;> exact hc rfl
    have hone : (register { entry := e } d).flags = d.flags ∧
        (register { entry := e } d).emitted = d.emitted ∧
        (∀ rt ∈ d.entries, rt ∈ (register { entry := e } d).entries) ∧
        ∃ rt ∈ (register { entry := e } d).entries, rt.key = e.clientMessageId := by
      unfold register
      split
      · rename_i hsome
        exact ⟨rfl, rfl, fun _ h => h, find_isSome.mp hsome⟩
      · have hperm := insertEntry_perm { entry := e } d.entries
        exact ⟨rfl, rfl, fun rt hrt => hperm.mem_iff.mpr (List.mem_cons_of_mem _ hrt),
          { entry := e }, hperm.mem_iff.mpr List.mem_cons_self, rfl⟩
    obtain ⟨hflags, hemitted, hkeep, hin⟩ := hone
    have huid : (register { entry := e } d).activeUid = d.activeUid := by
      simp only [Dispatcher.flags, Prod.mk.injEq] at hflags
      exact hflags.2.2.2.2
    obtain ⟨hknown, hflags', hemitted', hkeep', hall⟩ := ih (h.register hfresh hr hru hid)
      fun e' he' => by
        rw [huid]
        exact hes e' (List.mem_cons_of_mem _ he')
    refine ⟨hknown, hflags'.trans hflags, hemitted'.trans hemitted,
      fun rt hrt => hkeep' rt (hkeep rt hrt), fun e' he' => ?_⟩
    rcases List.mem_cons.mp he' with rfl | he'
    · obtain ⟨rt, hrt, hkey⟩ := hin
      exact ⟨rt, hkeep' rt hrt, hkey⟩
    · exact hall e' he'

/-- The entry that is registered for a loaded row is that row's. -/
theorem Known.registered (h : Known P rows d)
    (hrow : ∃ r ∈ rows, r.uid = d.activeUid ∧ ident r.entry = ident e)
    (hreg : ∃ rt ∈ d.entries, rt.key = e.clientMessageId) :
    ∃ rt ∈ d.entries, ident rt.entry = ident e := by
  obtain ⟨r, hr, -, hid⟩ := hrow
  obtain ⟨rt, hrt, hkey⟩ := hreg
  have hparts := ident_inj hid
  refine ⟨rt, hrt, ?_⟩
  rw [← (h.row_of_key hrt hr (hparts.2.1.trans hkey.symm)).2]
  exact hid

/-- Entries are found again after work on the register. -/
theorem Works.registered (hw : Works P d d') (h : ∃ rt ∈ d.entries, ident rt.entry = ident e) :
    ∃ rt ∈ d'.entries, ident rt.entry = ident e := by
  obtain ⟨rt, hrt, hid⟩ := h
  have hmem : ident rt.entry ∈ d'.entries.map fun rt => ident rt.entry := by
    rw [hw.idents]
    exact List.mem_map_of_mem hrt
  obtain ⟨rt', hrt', hid'⟩ := List.mem_map.mp hmem
  exact ⟨rt', hrt', hid'.trans hid⟩

/-- The second loop of `slot_outbox_loaded`. -/
theorem readBackRestored_works (es : List OutboxEntryDTO)
    (hes : ∀ e ∈ es, ∃ rt ∈ d.entries, ident rt.entry = ident e) :
    Works P d (es.foldl readBackRestored d) ∧ Quiet d (es.foldl readBackRestored d) := by
  induction es generalizing d with
  | nil => exact ⟨Works.refl d, Quiet.refl d⟩
  | cons e es ih =>
    have hone : Works P d (readBackRestored d e) ∧ Quiet d (readBackRestored d e) := by
      unfold readBackRestored
      split
      · exact ⟨Works.refl d, Quiet.refl d⟩
      rename_i hguard
      rw [not_or, not_ne_iff] at hguard
      obtain ⟨rt, hrt, hid⟩ := hes e List.mem_cons_self
      have hid := ident_inj hid
      rw [← hid.2.1]
      refine ⟨readBack_works hrt (hid.2.2.trans hguard.1), [.getMessageByClientId _], rfl,
        fun u e' he' => ?_⟩
      cases List.mem_singleton.mp he'
    obtain ⟨hw, hquiet⟩ := ih fun e' he' => hone.1.registered (hes e' (List.mem_cons_of_mem _ he'))
    exact ⟨hone.1.trans hw, hone.2.trans hquiet⟩

/-- One turn of the first round: the text of the entry has been sent after it, and
no other is sent. -/
theorem dispatchRestored_spec (cfg : RetryConfig) (env : Env) (h : Known P rows d) (hp : P)
    (hup : d.connected = true)
    (hreg : ∃ rt ∈ d.entries, ident rt.entry = ident e) :
    (e.operationType = .sendText →
      e.operationId ∈ firstSends d.activeUid (dispatchRestored cfg env d e).emitted) ∧
    ∃ new, (dispatchRestored cfg env d e).emitted = d.emitted ++ new ∧
      ∀ u e' c, .textChatMsg u e' c ∈ new →
        u = d.activeUid ∧ e'.operationId = e.operationId ∧ e.operationType = .sendText := by
  obtain ⟨rt, hrt, hid⟩ := hreg
  have hparts := ident_inj hid
  have hfind : d.find e.clientMessageId = some rt := by
    rw [← hparts.2.1]
    exact find_of_mem h.keys hrt
  have hturn : dispatchRestored cfg env d e =
      if rt.nextRetryAt ≠ 0 ∨ rt.action ≠ .none then d else dispatchEntry cfg env rt d := by
    unfold dispatchRestored
    rw [hfind]
  rw [hturn]
  by_cases hmarked : rt.nextRetryAt ≠ 0 ∨ rt.action ≠ .none
  · rw [if_pos hmarked]
    refine ⟨fun htype => ?_, [], (List.append_nil _).symm, fun _ _ _ h => absurd h List.not_mem_nil⟩
    rw [← hparts.1]
    exact h.marked rt hrt (hparts.2.2.trans htype) (hmarked.imp (⟨hp, ·⟩) id)
  · rw [if_neg hmarked]
    refine ⟨fun htype => ?_, ?_⟩
    · rw [← hparts.1]
      exact dispatchEntry_sends (hparts.2.2.trans htype) hup
    · unfold dispatchEntry
      split
      · rename_i htype
        refine ⟨[.textChatMsg d.activeUid rt.entry d.connected], rfl, fun u e' c he' => ?_⟩
        cases List.mem_singleton.mp he'
        exact ⟨rfl, hparts.1, hparts.2.2.symm.trans htype⟩
      · unfold dispatchResourceEntry
        split
        · exact ⟨[], (List.append_nil _).symm, fun _ _ _ h => absurd h List.not_mem_nil⟩
        split
        · exact ⟨[], (List.append_nil _).symm, fun _ _ _ h => absurd h List.not_mem_nil⟩
        split
        · refine ⟨pendingRequest _, rfl, fun u e' c he' => ?_⟩
          exact absurd rfl ((pendingRequest_spec he').1 u e' c)
        · refine ⟨[.createResourceMsg d.activeUid rt.entry], rfl, fun u e' c he' => ?_⟩
          cases List.mem_singleton.mp he'

theorem dispatchRestoredFirstRound_spec (cfg : RetryConfig) (env : Env)
    (es : List OutboxEntryDTO) (h : Known P rows d) (hp : P) (hup : es = [] ∨ d.connected = true)
    (horder : InOrder rows d.emitted)
    (hsorted : es.Pairwise fun e e' => e.operationId < e'.operationId)
    (hrows : ∀ e ∈ es, ∃ r ∈ rows, r.uid = d.activeUid ∧ ident r.entry = ident e)
    (hreg : ∀ e ∈ es, ∃ rt ∈ d.entries, ident rt.entry = ident e)
    (hwait : ∀ r ∈ rows, r.uid = d.activeUid → r.entry.operationType = .sendText →
      r.entry.operationId ∈ firstSends d.activeUid d.emitted ∨
        ∃ e ∈ es, ident r.entry = ident e) :
    InOrder rows (dispatchRestoredFirstRound cfg env es d).emitted ∧
      AllSent rows (dispatchRestoredFirstRound cfg env es d) := by
  -- the texts that wait are those of the entries to come, in their order
  induction es generalizing d with
  | nil =>
    refine ⟨horder, fun r hr hru htype => ?_⟩
    rcases hwait r hr hru htype with hsent | ⟨e, he, -⟩
    · exact hsent
    · cases he
  | cons e es ih =>
    obtain ⟨hfirst, hrest⟩ := List.pairwise_cons.mp hsorted
    have hup : d.connected = true := hup.resolve_left (List.cons_ne_nil e es)
    have hw : Works P d (dispatchRestored cfg env d e) :=
      (dispatchRestored_acts d e fun _ => hup).works h.keys
    obtain ⟨hsent, new, hnew, htexts⟩ := dispatchRestored_spec cfg env h hp hup
      (hreg e List.mem_cons_self)
    have horder' : InOrder rows (dispatchRestored cfg env d e).emitted := by
      by_cases hold : e.operationId ∈ firstSends d.activeUid d.emitted
      · have hquiet : Quiet d (dispatchRestored cfg env d e) := by
          refine ⟨new, hnew, fun u e' he' => ?_⟩
          obtain ⟨rfl, hop, -⟩ := htexts u e' true he'
          rw [hop]
          exact hold
        intro uid
        rw [hquiet.firstSends uid]
        exact horder uid
      · by_cases htype : e.operationType = .sendText
        · rw [hnew]
          refine horder.send (v := d.activeUid) (n := e.operationId) (fun u e' he' => ?_) ?_ ?_
          · obtain ⟨hu, hop, -⟩ := htexts u e' true he'
            exact .inr ⟨hu, hop⟩
          · obtain ⟨r, hr, hru, hid⟩ := hrows e List.mem_cons_self
            have hid := ident_inj hid
            intro o ho
            rw [← hid.1] at hold ⊢
            exact (horder d.activeUid).2 r hr hru (hid.2.2.trans htype) hold o ho
          · intro r hr hru hrtype hunsent
            rcases hwait r hr hru hrtype with hin | ⟨e', he', hid⟩
            · exact absurd hin hunsent
            · have hop : r.entry.operationId = e'.operationId := congrArg Prod.fst hid
              rw [hop]
              rcases List.mem_cons.mp he' with rfl | he'
              · exact Int.le_refl _
              · exact Int.le_of_lt (hfirst e' he')
        · have hquiet : Quiet d (dispatchRestored cfg env d e) :=
            ⟨new, hnew, fun u e' he' => absurd (htexts u e' true he').2.2 htype⟩
          intro uid
          rw [hquiet.firstSends uid]
          exact horder uid
    have hup' : (dispatchRestored cfg env d e).connected = true :=
      (congrArg Prod.fst hw.flags).trans hup
    exact ih (h.works hw) (.inr hup') horder' hrest
      (fun e' he' => by
        rw [hw.activeUid]
        exact hrows e' (List.mem_cons_of_mem _ he'))
      (fun e' he' => hw.registered (hreg e' (List.mem_cons_of_mem _ he')))
      (fun r hr hru hrtype => by
        rw [hw.activeUid] at hru ⊢
        rcases hwait r hr hru hrtype with hin | ⟨e', he', hid⟩
        · exact .inl (hw.sent hin)
        · rcases List.mem_cons.mp he' with rfl | he'
          · have hparts := ident_inj hid
            rw [hparts.1]
            exact .inl (hsent (hparts.2.2.symm.trans hrtype))
          · exact .inr ⟨e', he', hid⟩)

theorem mem_outbox :
    e ∈ s.outbox ↔ ∃ r ∈ s.rows, r.uid = s.disp.activeUid ∧ r.queued = true ∧ r.entry = e := by
  unfold System.outbox
  simp only [List.mem_map, List.mem_filter, decide_eq_true_eq, and_assoc]

/-- `loadOutbox` reads the operations in their order. -/
theorem Known.outbox_sorted (h : Known P rows d) :
    (System.outbox ⟨d, rows⟩).Pairwise fun e e' => e.operationId < e'.operationId := by
  refine List.pairwise_map.mpr (List.Pairwise.imp_of_mem ?_ (h.sorted.filter _))
  intro r r' hr hr' hlt
  have hru := of_decide_eq_true (List.mem_filter.mp hr).2
  have hru' := of_decide_eq_true (List.mem_filter.mp hr').2
  exact hlt (hru.1.trans hru'.1.symm)

/-- The result of `loadOutbox`: the outbox or, where nothing is loaded, a part of it. -/
theorem Ordered.outboxLoaded (h : Ordered P L rows d) (hready : d.dbReady = true)
    {es : List OutboxEntryDTO} (hes : es.Sublist (System.outbox ⟨d, rows⟩))
    (hloads : L → es = System.outbox ⟨d, rows⟩)
    (hup : P → d.restoring = true → es = [] ∨ d.connected = true) :
    Ordered P L rows (slotOutboxLoaded cfg env true es d) := by
  by_cases hrestoring : d.restoring = false
  · rw [slotOutboxLoaded, if_pos hrestoring]
    exact h
  have hrows : ∀ e ∈ es, ∃ r ∈ rows, r.uid = d.activeUid ∧ ident r.entry = ident e := by
    intro e he
    obtain ⟨r, hr, hru, -, rfl⟩ := mem_outbox.mp (hes.subset he)
    exact ⟨r, hr, hru, rfl⟩
  have hsorted := h.known.outbox_sorted.sublist hes
  rw [slotOutboxLoaded, if_neg hrestoring]
  generalize hd₀ : ({ d with restoring := false, restoreRetryAt := 0, restored := true } :
    Dispatcher) = d₀
  have hknown₀ : Known P rows d₀ := by
    rw [← hd₀]
    exact h.known.shrink (List.Sublist.refl _) (List.Subset.refl _) rfl (.inr rfl)
  have huid₀ : d₀.activeUid = d.activeUid := by rw [← hd₀]
  obtain ⟨hknown₁, hflags₁, hemitted₁, -, hin₁⟩ := registerAll es hknown₀ (by
    rw [huid₀]
    exact hrows)
  show Ordered P L rows (Outbox.dispatchDueEntries cfg env
    (dispatchRestoredFirstRound cfg env es (es.foldl readBackRestored
      (es.foldl (fun s entry => register { entry := entry } s) { d with
        restoring := false, restoreRetryAt := 0, restored := true }))))
  rw [hd₀]
  generalize es.foldl (fun s entry => register { entry := entry } s) d₀ = d₁ at *
  have hflags : d₁.flags = (d.connected, true, true, false, d.activeUid) := by
    rw [hflags₁, ← hd₀, ← hready]
    rfl
  simp only [Dispatcher.flags, Prod.mk.injEq] at hflags
  obtain ⟨hconn₁, hready₁, -, hidle₁, huid₁⟩ := hflags
  have hreg₁ : ∀ e ∈ es, ∃ rt ∈ d₁.entries, ident rt.entry = ident e := fun e he =>
    hknown₁.registered (huid₁ ▸ hrows e he) (hin₁ e he)
  obtain ⟨hw₂, hquiet₂⟩ := readBackRestored_works (P := P) es hreg₁
  generalize es.foldl readBackRestored d₁ = d₂ at *
  have huid₂ : d₂.activeUid = d.activeUid := hw₂.activeUid.trans huid₁
  have hemitted₀ : d₁.emitted = d.emitted := by rw [hemitted₁, ← hd₀]
  have hknown₂ := hknown₁.works hw₂
  have hsent₂ : ∀ uid, firstSends uid d₂.emitted = firstSends uid d.emitted := fun uid => by
    rw [hquiet₂.firstSends uid, hemitted₀]
  have hup₂ : P → es = [] ∨ d₂.connected = true := fun hp =>
    (hup hp (Bool.not_eq_false _ ▸ hrestoring)).imp id
      ((congrArg Prod.fst hw₂.flags).trans hconn₁).trans
  have hacts₃ : Acts cfg env P d₂ (dispatchRestoredFirstRound cfg env es d₂) :=
    dispatchRestoredFirstRound_acts es d₂ hup₂
  have hw₃ := hacts₃.works hknown₂.keys
  have hround : P → _ := fun hp => dispatchRestoredFirstRound_spec cfg env es hknown₂ hp (hup₂ hp)
    (fun uid => by
      rw [hsent₂ uid]
      exact h.inOrder hp uid)
    hsorted
    (by
      rw [huid₂]
      exact hrows)
    (fun e he => hw₂.registered (hreg₁ e he))
    (fun r hr hru htype => by
      rcases h.unloaded hp with hl | hall
      · -- a text that was never sent is still in the outbox
        cases hq : r.queued with
        | false =>
          rw [← hru]
          exact .inl (hknown₂.queued r hr htype hq)
        | true =>
          refine .inr ⟨r.entry, ?_, rfl⟩
          rw [hloads hl]
          exact mem_outbox.mpr ⟨r, hr, hru.trans huid₂, hq, rfl⟩
      · rw [← hru, hsent₂]
        exact .inl (hall r hr htype))
  refine Ordered.dispatchDueEntries ⟨hknown₂.works hw₃, fun hp => (hround hp).1, fun hp _ => ?_,
    fun hp => (h.unloaded hp).imp id fun hall r hr htype => ?_⟩
  swap
  · refine hw₃.sent ?_
    rw [hsent₂]
    exact hall r hr htype
  have hflags₃ := (hw₂.trans hw₃).flags
  simp only [Dispatcher.flags, Prod.mk.injEq] at hflags₃
  exact ⟨hflags₃.2.2.2.1.trans hidle₁, hflags₃.2.1.trans hready₁, (hround hp).2⟩

/-! ### The other slots -/

/-- Flags change, and entries and tracked messages may go. -/
theorem Ordered.shrink (h : Ordered P L rows d) (hentries : d'.entries.Sublist d.entries)
    (htracked : d'.tracked ⊆ d.tracked) (hemitted : d'.emitted = d.emitted)
    (huid : d'.activeUid = d.activeUid)
    (hflags : d'.restored = true → d.restored = true ∧ d'.dbReady = d.dbReady ∧
      (d.restoring = false → d'.restoring = false)) : Ordered P L rows d' where
  known := h.known.shrink hentries htracked hemitted (.inr huid)
  inOrder := hemitted ▸ h.inOrder
  settled hp hrestored := by
    obtain ⟨hrest, hready, hidle⟩ := hflags hrestored
    obtain ⟨hold, hdb, hall⟩ := h.settled hp hrest
    refine ⟨hidle hold, hready.trans hdb, fun r hr hru htype => ?_⟩
    rw [huid, hemitted]
    exact hall r hr (hru.trans huid) htype
  unloaded := hemitted ▸ h.unloaded

theorem Ordered.start (h : Ordered P L rows d) : Ordered P L rows (slotStart cfg env d) := by
  unfold slotStart
  simp only
  have hflag : Ordered P L rows { d with connected := true, scanning := true } :=
    h.shrink (List.Sublist.refl _) (List.Subset.refl _) rfl rfl fun hr => ⟨hr, rfl, id⟩
  split
  · exact hflag.requestRestore
  · refine Ordered.dispatchDueEntries (Ordered.resumeUploadingEntries ?_)
    -- the back-off of all entries ends; none is touched by it
    have hmarked : ∀ rt : RuntimeEntry,
        RuntimeEntry.Marked P (if rt.action = .none then { rt with nextRetryAt := 0 } else rt) →
          rt.Marked P := by
      intro rt hm
      split at hm
      · rename_i haction
        rcases hm with ⟨-, hm⟩ | hm
        · exact absurd rfl hm
        · exact absurd haction hm
      · exact hm
    have hident : ∀ rt : RuntimeEntry,
        ident (if rt.action = .none then { rt with nextRetryAt := 0 } else rt).entry =
          ident rt.entry := by
      intro rt
      split <;> rfl
    refine hflag.work ⟨rfl, ?_, fun k hk => .inl hk, ?_, [], (List.append_nil _).symm,
      fun _ _ _ h => absurd h List.not_mem_nil, fun _ _ h => absurd h List.not_mem_nil,
      fun _ h => absurd h List.not_mem_nil⟩ [] (List.append_nil _).symm
      fun _ _ _ h => absurd h List.not_mem_nil
    · rw [List.map_map]
      exact List.map_congr_left fun rt _ => hident rt
    · intro x hx _ hm
      obtain ⟨rt, hrt, rfl⟩ := List.mem_map.mp hx
      exact .inl ⟨rt, hrt, (hident rt).symm, hmarked rt hm⟩

theorem Ordered.dbOpened (h : Ordered P L rows d) (ok : Bool) (uid : Int) :
    Ordered P L rows (slotDbOpened env ok uid d) := by
  unfold slotDbOpened
  split
  · exact h.clear rfl rfl rfl rfl
  split
  · exact h.requestRestore
  · have hclear : Ordered P L rows
        { clearRegister d uid true with generation := d.generation + 1, scanning := true } :=
      h.clear rfl rfl rfl rfl
    exact hclear.requestRestore

/-- A text whose 1301 was sent. -/
theorem Known.sent_of_isText (h : Known P rows d) (hany : d.emitted.any (·.isText key) = true)
    (hrt : rt ∈ d.entries) (hkey : rt.key = key) : rt.entry.operationType = .sendText ∧
      rt.entry.operationId ∈ firstSends d.activeUid d.emitted := by
  obtain ⟨r, hr, htext⟩ := List.any_eq_true.mp hany
  unfold Request.isText at htext
  split at htext
  · rename_i u e
    have hekey := of_decide_eq_true htext
    obtain ⟨htype, row, hrow, hru, hid⟩ := h.texts u e true hr
    have hparts := ident_inj hid
    obtain ⟨huid, hident⟩ := h.row_of_key hrt hrow
      (hparts.2.1.trans (hekey.trans hkey.symm))
    have hsame := ident_inj (hid.symm.trans hident)
    rw [← hsame.1, ← hsame.2.2, ← huid, hru]
    exact ⟨htype, mem_firstSends hr⟩
  · cases htext

/-- A message whose 1503 was sent is a resource. -/
theorem Known.resource_of_isResource (h : Known P rows d)
    (hany : d.emitted.any (·.isResource key) = true) (hrt : rt ∈ d.entries) (hkey : rt.key = key) :
    rt.entry.operationType = .sendResource := by
  obtain ⟨r, hr, hresource⟩ := List.any_eq_true.mp hany
  unfold Request.isResource at hresource
  split at hresource
  · rename_i u e
    have hekey := of_decide_eq_true hresource
    obtain ⟨row, hrow, hrkey, htype⟩ := h.creates u e hr
    have hid := ident_inj ((h.row_of_key hrt hrow (hrkey.trans (hekey.trans hkey.symm))).2)
    exact hid.2.2.symm.trans htype
  · cases hresource

/-- A transaction begins for a resource. -/
theorem Ordered.beginResource (h : Ordered P L rows d) (hrt : rt ∈ d.entries)
    (htype : rt.entry.operationType = .sendResource) {set : RuntimeEntry → RuntimeEntry}
    (hset : ∀ rt, (set rt).entry = rt.entry) (action : PendingStoreAction) :
    Ordered P L rows (Outbox.beginAction cfg env set rt action d) := by
  refine h.beginAction hrt hset action fun htext => ?_
  rw [htype] at htext
  cases htext

theorem Ordered.textMsgRsp (h : Ordered P L rows d) (hany : d.emitted.any (·.isText key) = true)
    (error : ReplyError) (messageId : Int) (createdAt : Option Int) :
    Ordered P L rows (slotTextMsgRsp cfg env error key messageId createdAt d) := by
  unfold slotTextMsgRsp
  split
  · exact h
  rename_i rt hfind
  obtain ⟨hrt, hkey⟩ := find_some hfind
  have hsent := (h.known.sent_of_isText hany hrt hkey).2
  split
  · exact h
  split
  · refine h.beginAction hrt ?_ .confirmText fun _ => hsent
    exact fun _ => rfl
  · exact h.beginAction hrt (fun _ => rfl) .markFailed fun _ => hsent
  · exact h

theorem Ordered.resourceMsgMetaRsp (h : Ordered P L rows d)
    (hany : d.emitted.any (·.isResource key) = true) (error : ReplyError) (messageId : Int) :
    Ordered P L rows (slotResourceMsgMetaRsp cfg env error key messageId d) := by
  unfold slotResourceMsgMetaRsp
  split
  · exact h
  rename_i rt hfind
  obtain ⟨hrt, hkey⟩ := find_some hfind
  have htype := h.known.resource_of_isResource hany hrt hkey
  split
  · exact h
  split
  · exact h.beginResource hrt htype (fun _ => rfl) .markFailed
  · exact h.beginResource hrt htype (fun _ => rfl) .markFailed
  · exact h.beginResource hrt htype (fun _ => rfl) .markFailed
  · refine h.beginResource hrt htype ?_ .advanceStage
    exact fun _ => rfl
  · exact h

theorem tracked_of_uploading {d : Dispatcher} {mid m : Int}
    (h : d.uploading.find? (·.1 = mid) = some (m, key)) : key ∈ d.tracked :=
  List.mem_append_right _ (List.mem_map_of_mem (f := Prod.snd) (List.mem_of_find?_eq_some h))

section

variable (h : Ordered P L rows d)

include h

theorem Ordered.transferFinished (snapshot : TransferSnapshot) :
    Ordered P L rows (slotTransferFinished cfg env snapshot d) := by
  unfold slotTransferFinished
  split
  · exact h
  split
  · unfold handleUploadFinished
    split
    · exact h
    rename_i m key hup
    split
    · refine h.shrink (List.Sublist.refl _) (List.append_subset.mpr ⟨?_, ?_⟩) rfl rfl
        fun hr => ⟨hr, rfl, id⟩
      · exact List.subset_append_left _ _
      · exact fun k hk => List.mem_append_right _ ((List.filter_sublist.map _).subset hk)
    rename_i rt hfind
    obtain ⟨hrt, rfl⟩ := find_some hfind
    have htype := h.known.tracked_resource hrt (tracked_of_uploading hup)
    split
    · exact h
    split
    · refine h.beginResource hrt htype ?_ .confirmResource
      exact fun _ => rfl
    · exact h.beginResource hrt htype (fun _ => rfl) .markFailed
    · exact h
  · exact h

theorem Ordered.eraseEntry (key : String) : Ordered P L rows (eraseEntry key d) := by
  refine h.shrink List.filter_sublist (List.append_subset.mpr ⟨?_, ?_⟩) rfl rfl
    fun hr => ⟨hr, rfl, id⟩
  · exact List.subset_append_left _ _
  · exact fun k hk => List.mem_append_right _ ((List.filter_sublist.map _).subset hk)

theorem Ordered.closeEntry (action : PendingStoreAction) (ok : Bool) (dto : LocalMessageDTO) :
    Ordered P L rows (closeEntry action ok dto d) := by
  unfold Outbox.closeEntry
  split
  · exact h
  split
  · exact h
  split
  · exact h.eraseEntry _
  · exact h

/-- Something that is not a text is handed over. -/
theorem Ordered.emit {r : Request} (htext : ∀ u e c, r ≠ .textChatMsg u e c)
    (hcreate : ∀ u e, r ≠ .createResourceMsg u e) (hclose : r.unqueues = none) :
    Ordered P L rows (d.emit r) := by
  refine h.work (works_of_same rfl rfl (fun k hk => .inl hk) [r] rfl (fun u e c he => ?_)
    (fun u e he => ?_) fun x hx => ?_) [r] rfl fun u e c he => ?_
  · exact htext u e c (List.mem_singleton.mp he).symm
  · exact hcreate u e (List.mem_singleton.mp he).symm
  · rw [List.mem_singleton.mp hx]
    exact hclose
  · exact htext u e c (List.mem_singleton.mp he).symm

theorem Ordered.resourceConfirmed (ok : Bool) (dto : LocalMessageDTO) :
    Ordered P L rows (slotResourceConfirmed ok dto d) := by
  unfold slotResourceConfirmed
  split
  · exact h
  split
  · exact h
  split
  · exact (h.eraseEntry _).emit (fun _ _ _ => Request.noConfusion)
      (fun _ _ => Request.noConfusion) rfl
  · exact h

theorem Ordered.resourceStageUpdated (ok : Bool) (dto : LocalMessageDTO)
    (hresource : ok = true → ∃ r ∈ rows, r.key = dto.clientMessageId ∧
      r.entry.operationType = .sendResource) :
    Ordered P L rows (slotResourceStageUpdated ok dto d) := by
  rcases slotResourceStageUpdated_cases ok dto d with he | ⟨rt, hrt, hkey, -, hok, he⟩
  · rw [he]
    exact h
  obtain ⟨r, hr, hrkey, htype⟩ := hresource hok
  have hid := ident_inj ((h.known.row_of_key hrt hr (hrkey.trans hkey.symm)).2)
  have hset := h.modify hrt (f := .advanced dto.messageId) (fun _ => rfl) fun _ hm => by
    rcases hm with ⟨-, hm⟩ | hm <;> exact absurd rfl hm
  rcases he with he | he
  · rw [he]
    exact hset
  · rw [he]
    exact hset.startResourceUpload (mem_modify_self hrt _) (hid.2.2.symm.trans htype) rfl _

theorem Ordered.messageLoaded (ok : Bool) (dto : LocalMessageDTO)
    (resource : LocalMessageResourceDTO) :
    Ordered P L rows (slotMessageLoaded cfg env ok dto resource d) := by
  unfold slotMessageLoaded
  split
  · exact h
  rename_i hpending
  rw [Decidable.not_not] at hpending
  have hread : Ordered P L rows
      { d with resumePending := d.resumePending.filter (· ≠ dto.clientMessageId) } :=
    h.shrink (List.Sublist.refl _)
      (List.append_subset.mpr ⟨fun k hk => List.mem_append_left _ (List.filter_sublist.subset hk),
        List.subset_append_right _ _⟩) rfl rfl fun hr => ⟨hr, rfl, id⟩
  simp only
  split
  · exact hread
  rename_i rt hfind
  obtain ⟨hrt, hkey⟩ := find_some hfind
  -- what was to be read back is a resource
  have htype : rt.entry.operationType = .sendResource :=
    h.known.tracked_resource hrt (List.mem_append_left _ (hkey ▸ hpending))
  split
  · exact hread.beginResource hrt htype (fun _ => rfl) .markFailed
  have hset := hread.modify hrt
    (f := fun rt => { rt with resource := resource, messageId := dto.messageId }) (fun _ => rfl)
    fun _ hm => hm
  have hmem := mem_modify_self (s := { d with
    resumePending := d.resumePending.filter (· ≠ dto.clientMessageId) }) hrt
    fun rt => { rt with resource := resource, messageId := dto.messageId }
  split
  · split
    · exact hset.beginResource hmem htype (fun _ => rfl) .markFailed
    split
    · exact hset.startResourceUpload hmem htype rfl _
    · exact hset
  · exact hset.dispatchDueEntries

end

/-! ### Transactions -/

theorem row_some {r : Row} (h : s.row key = some r) :
    r ∈ s.rows ∧ r.key = key ∧ r.uid = s.disp.activeUid := by
  unfold System.row at h
  split at h
  · refine ⟨List.mem_of_find?_eq_some h, ?_⟩
    have hfound := List.find?_some h
    exact of_decide_eq_true hfound
  · cases h

/-- A change of rows that takes no unsent text out of the outbox. -/
theorem Ordered.update_rows (h : Ordered P L rows d) {p : Row → Prop} [DecidablePred p]
    {f : Row → Row} (hident : ∀ r, (f r).ident = r.ident)
    (hqueued : ∀ r ∈ rows, p r → r.entry.operationType = .sendText → (f r).queued = false →
      r.entry.operationId ∈ firstSends r.uid d.emitted) :
    Ordered P L (Table.update p f rows) d := by
  refine h.of_rows (Table.map_update hident rows) fun x hx htype hq => ?_
  obtain ⟨y, hy, rfl⟩ := Table.mem_update.mp hx
  by_cases hp : p y
  · rw [Table.updated_pos hp] at htype hq ⊢
    have hy' := hident y
    simp only [Row.ident, ident, Prod.mk.injEq] at hy'
    rw [hy'.2.2.2] at htype
    rw [hy'.1, hy'.2.1]
    exact hqueued y hy hp htype hq
  · rw [Table.updated_neg hp] at htype hq ⊢
    exact h.known.queued y hy htype hq

/-- A transaction on a row keeps the invariant if it takes no unsent text out of the
outbox, and its slot does. -/
theorem Ordered.transact (h : Ordered P L s.rows s.disp) {ok : Bool} {p : Row → Bool}
    {f : Row → Row} {slot : Bool → LocalMessageDTO → Dispatcher → Dispatcher}
    (hident : ∀ r, (f r).ident = r.ident)
    (hqueued : ∀ r ∈ s.rows, r.key = key → p r = true → r.entry.operationType = .sendText →
      (f r).queued = false → r.entry.operationId ∈ firstSends r.uid s.disp.emitted)
    (hfail : Ordered P L s.rows (slot false {} s.disp))
    (hslot : ∀ rows, Ordered P L rows s.disp → ∀ r ∈ rows, r.key = key →
      (∃ r' : Row, p r' = true ∧ r.entry.operationType = r'.entry.operationType) →
      Ordered P L rows (slot true r.dto s.disp)) :
    Ordered P L (s.transact key ok p f slot).rows (s.transact key ok p f slot).disp := by
  unfold System.transact
  split
  · rename_i r hrow
    split
    · rename_i hcommit
      rw [Bool.and_eq_true] at hcommit
      obtain ⟨hr, hmatch⟩ := row_some hrow
      have hrows : Ordered P L (s.update key f).rows s.disp := by
        refine h.update_rows hident fun y hy hm => hqueued y hy hm.1 ?_
        -- client ids are unique, so this is the row that met the condition
        rw [h.known.row_unique hy hr (hm.1.trans hmatch.1.symm)]
        exact hcommit.2
      have hmem : f r ∈ (s.update key f).rows :=
        Table.mem_update.mpr ⟨r, hr, Table.updated_pos
          (p := fun r : Row => r.key = key ∧ r.uid = s.disp.activeUid) hmatch⟩
      have hparts := hident r
      simp only [Row.ident, ident, Prod.mk.injEq] at hparts
      exact hslot _ hrows (f r) hmem (hparts.2.2.1.trans hmatch.1) ⟨r, hcommit.2, hparts.2.2.2⟩
    · exact hfail
  · exact hfail

/-- What a transaction for a text asked for takes out of the outbox was sent. -/
theorem Known.sent_of_unqueues (h : Known P rows d) {req : Request} (hreq : req ∈ d.emitted)
    {r : Row} (hr : r ∈ rows) (hkey : req.unqueues = some r.key)
    (htype : r.entry.operationType = .sendText) :
    r.entry.operationId ∈ firstSends r.uid d.emitted := by
  obtain ⟨r', hr', hkey', hsent⟩ := h.unqueued req hreq _ hkey
  rw [h.row_unique hr' hr hkey'] at hsent
  exact hsent htype

/-- A text is committed only while the connection of the restored register is up or, if
`loadOutbox` delivers what it reads, before the register is restored; and what it reads
comes while the connection is up. -/
def prompt (cfg : RetryConfig) (s : System) : Event → Bool
  | .enqueueSend operationId key .sendText _ resource true =>
    !decide (s.Admits operationId key .sendText resource) ||
      (s.disp.restored && s.disp.connected || !s.disp.restored && cfg.loadsFirst)
  | .request .loadOutbox true => !cfg.loadsFirst || !s.disp.restoring || s.disp.connected
  | _ => true

theorem Ordered.carryOut (h : Ordered P (cfg.loadsFirst = true) s.rows s.disp) {r : Request}
    (hr : r ∈ s.disp.emitted) (ok : Bool) (hprompt : P → prompt cfg s (.request r ok) = true) :
    Ordered P (cfg.loadsFirst = true) (s.carryOut cfg env ok r).rows
      (s.carryOut cfg env ok r).disp := by
  cases r with
  | confirmTextSent key messageId createdAt | markSendFailed key =>
    refine h.transact (fun _ => rfl) (fun x hx hkey _ htype _ => ?_) (h.closeEntry _ _ _)
      fun rows hrows x _ _ _ => hrows.closeEntry _ _ _
    exact h.known.sent_of_unqueues hr hx (congrArg some hkey.symm) htype
  | confirmResourceSent key path =>
    refine h.transact (fun _ => rfl) (fun x hx hkey hp htype _ => ?_) (h.resourceConfirmed _ _)
      fun rows hrows x _ _ _ => hrows.resourceConfirmed _ _
    rw [Bool.and_eq_true, Bool.and_eq_true, decide_eq_true_eq, htype] at hp
    cases hp.1.2
  | updateResourceStage key messageId =>
    refine h.transact (fun _ => rfl) (fun x hx hkey _ htype hq => h.known.queued x hx htype hq)
      (h.resourceStageUpdated _ _ fun hok => by cases hok) fun rows hrows x hx _ hp => ?_
    obtain ⟨x', hp, htype⟩ := hp
    refine hrows.resourceStageUpdated _ _ fun _ => ⟨x, hx, rfl, htype.trans ?_⟩
    rw [Bool.and_eq_true, decide_eq_true_eq] at hp
    exact hp.2
  | getMessageByClientId key =>
    unfold System.carryOut
    dsimp only
    cases s.row key with
    | none => exact h.messageLoaded _ _ _
    | some x =>
      cases ok with
      | true | false => exact h.messageLoaded _ _ _
  | loadOutbox =>
    unfold System.carryOut
    simp only
    split
    · rename_i hready
      obtain ⟨rfl, hready⟩ := hready
      refine h.outboxLoaded hready ?_ (fun hl => if_pos hl) fun hp hrestoring => ?_
      · split
        · exact List.Sublist.refl _
        · exact List.nil_sublist _
      · have hcond := hprompt hp
        simp only [prompt, hrestoring, Bool.not_true, Bool.or_false, Bool.or_eq_true,
          Bool.not_eq_true'] at hcond
        exact hcond.imp (fun hno => if_neg (hno ▸ Bool.noConfusion)) id
    · show Ordered P (cfg.loadsFirst = true) s.rows (slotOutboxLoaded cfg env false [] s.disp)
      unfold slotOutboxLoaded
      split
      · exact h
      · exact h.shrink (List.Sublist.refl _) (List.Subset.refl _) rfl rfl fun hr =>
          ⟨hr, rfl, fun _ => rfl⟩
  | updateResourceLocalPath messageId path ownerUid =>
    refine of_ite (R := Ordered P (cfg.loadsFirst = true)) (fun _ => ?_) h
    exact h.update_rows (fun _ => rfl) fun r hr _ htype hq => h.known.queued r hr htype hq
  | textChatMsg | createResourceMsg | postStartUpload | archive => exact h

/-! ### Runs -/

/-- All events of a run are prompt. -/
def Prompt (cfg : RetryConfig) : System → List (Env × Event) → Prop
  | _, [] => True
  | s, e :: es => prompt cfg s e.2 = true ∧ Prompt cfg (step cfg s e) es

theorem Ordered.step (h : Ordered P (cfg.loadsFirst = true) s.rows s.disp) (e : Env × Event)
    (hprompt : P → prompt cfg s e.2 = true) :
    Ordered P (cfg.loadsFirst = true) (step cfg s e).rows (step cfg s e).disp := by
  obtain ⟨env, event⟩ := e
  cases event with
  | start => exact h.start
  | scanTimeout =>
    show Ordered P (cfg.loadsFirst = true) s.rows (slotScanTimeout cfg env s.disp)
    unfold slotScanTimeout
    split
    · exact h.shrink (List.Sublist.refl _) (List.Subset.refl _) rfl rfl fun hr => ⟨hr, rfl, id⟩
    · exact h.requestRestore.dispatchDueEntries
  | connectionClosed | resourceConnectionClosed =>
    exact h.shrink (List.Sublist.refl _) (List.Subset.refl _) rfl rfl fun hr => ⟨hr, rfl, id⟩
  | resourceLoginSuccess =>
    have hflag : Ordered P (cfg.loadsFirst = true) s.rows { s.disp with resourceReady := true } :=
      h.shrink (List.Sublist.refl _) (List.Subset.refl _) rfl rfl fun hr => ⟨hr, rfl, id⟩
    exact hflag.resumeUploadingEntries
  | dbOpened ok uid => exact h.dbOpened ok uid
  | dbClosed | restart => exact h.clear rfl rfl rfl rfl
  | enqueueSend operationId key operationType payloadJson resource ok =>
    refine of_ite (R := Ordered P (cfg.loadsFirst = true)) (fun hcommit => ?_) h
    obtain ⟨rfl, hadmits⟩ := hcommit
    refine h.sendEnqueued hadmits fun hp htype => ?_
    subst htype
    have hcond := hprompt hp
    simp only [prompt, decide_eq_true hadmits, Bool.not_true, Bool.false_or, Bool.or_eq_true,
      Bool.and_eq_true, Bool.not_eq_true'] at hcond
    exact hcond
  | textMsgRsp error key messageId createdAt =>
    exact of_ite (R := Ordered P (cfg.loadsFirst = true))
      (fun hany => h.textMsgRsp hany error messageId createdAt) h
  | resourceMsgMetaRsp error key messageId =>
    exact of_ite (R := Ordered P (cfg.loadsFirst = true))
      (fun hany => h.resourceMsgMetaRsp hany error messageId) h
  | transferFinished snapshot => exact h.transferFinished snapshot
  | request r ok =>
    exact of_ite (R := Ordered P (cfg.loadsFirst = true)) (fun hr => h.carryOut hr ok hprompt) h
  | archived messageId ownerUid generation path =>
    show Ordered P (cfg.loadsFirst = true) s.rows
      (finishArchive messageId ownerUid generation path s.disp)
    unfold finishArchive
    split
    · exact h
    · exact h.emit (fun _ _ _ => Request.noConfusion) (fun _ _ => Request.noConfusion) rfl

theorem Ordered.initial : Ordered P (cfg.loadsFirst = true) [] {} where
  known :=
    { keys := List.nodup_nil
      rowKeys := List.nodup_nil
      sorted := List.Pairwise.nil
      entries := fun _ h => absurd h List.not_mem_nil
      tracked := fun _ h => absurd h List.not_mem_nil
      texts := fun _ _ _ h => absurd h List.not_mem_nil
      creates := fun _ _ h => absurd h List.not_mem_nil
      marked := fun _ h => absurd h List.not_mem_nil
      queued := fun _ h => absurd h List.not_mem_nil
      unqueued := fun _ h => absurd h List.not_mem_nil }
  inOrder _ _ := ⟨List.Pairwise.nil, fun _ h => absurd h List.not_mem_nil⟩
  settled _ h := by cases h
  unloaded _ := .inr fun _ h => absurd h List.not_mem_nil

theorem Ordered.run (h : Ordered P (cfg.loadsFirst = true) s.rows s.disp) (es : List (Env × Event))
    (hprompt : P → Prompt cfg s es) :
    Ordered P (cfg.loadsFirst = true) (run cfg s es).rows (run cfg s es).disp := by
  induction es generalizing s with
  | nil => exact h
  | cons e es ih => exact ih (h.step e fun hp => (hprompt hp).1) fun hp => (hprompt hp).2

/-- In every run that commits no text while a restored register is offline and loads no
outbox offline, the first sends of each user are in the order of the operations. -/
theorem firstSends_sorted (cfg : RetryConfig) (es : List (Env × Event)) (h : Prompt cfg {} es)
    (uid : Int) : (firstSends uid (run cfg {} es).disp.emitted).Pairwise (· < ·) :=
  ((Ordered.initial.run es fun _ => h).inOrder trivial uid).1

/-- Nothing is read from outside but a clock that stands still. -/
def quietEnv : Env := ⟨0, fun _ => false, 0, rfl⟩

/-- Two texts are committed offline, before the restore. -/
def beforeRestore : List (Env × Event) :=
  [.dbOpened true 7, .enqueueSend 1 "b" .sendText "x" {} true,
    .enqueueSend 2 "a" .sendText "y" {} true, .start, .request .loadOutbox true].map
    (quietEnv, ·)

theorem firstSends_before_restore :
    Prompt {} {} beforeRestore ∧ firstSends 7 (run {} {} beforeRestore).disp.emitted = [1, 2] ∧
      (firstSends 7 (run {} {} beforeRestore).disp.emitted).Pairwise (· < ·) := by
  have hprompt : Prompt {} {} beforeRestore := by
    refine ⟨?_, ?_, ?_, ?_, ?_, trivial⟩ <;> decide +kernel
  exact ⟨hprompt, by decide +kernel, firstSends_sorted {} beforeRestore hprompt 7⟩

/-- The same two texts go out in the order of their client ids if they are committed
offline after the restore, if the restore comes offline, or if `loadOutbox` delivers an
empty list. -/
theorem firstSends_disordered :
    firstSends 7 (run {} {} ([.dbOpened true 7, .start, .request .loadOutbox true,
      .connectionClosed, .enqueueSend 1 "b" .sendText "x" {} true,
      .enqueueSend 2 "a" .sendText "y" {} true, .start].map (quietEnv, ·))).disp.emitted =
      [2, 1] ∧
    firstSends 7 (run {} {} ([.dbOpened true 7, .enqueueSend 1 "b" .sendText "x" {} true,
      .enqueueSend 2 "a" .sendText "y" {} true, .start, .connectionClosed,
      .request .loadOutbox true, .start].map (quietEnv, ·))).disp.emitted = [2, 1] ∧
    firstSends 7 (run { loadsFirst := false } {} beforeRestore).disp.emitted = [2, 1] := by
  decide +kernel

end LlfcChat.Outbox

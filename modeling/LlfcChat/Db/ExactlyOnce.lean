/-
A message is stored once, however often it is sent.

Clients resend a message under the same client id until they get an answer,
and `AddChatMsg` itself retries after a deadlock.  `Sys.Ok` says what may be
concluded from the answers given so far: an answer `Stored` or `Duplicate`
reports what the tables hold (`Db.Reports`), there was at most one `Stored`
for a sender and a client id, and every live delivery belongs to one.  The
reports stay true because messages and events are never taken back.
-/
import LlfcChat.Db.Published

namespace LlfcChat

open Txn

/-! ### Reports stay true -/

variable {c : Call} {m o stored : ChatMessage} {db db' : Db} {sender : Int} {r : SaveMessageResult}
  {key : String} {s s' : Sys}

theorem Changes.keepsEvent (h : Changes db db') {e : UserEventRow} (he : e ∈ db.userEvents) :
    e ∈ db'.userEvents := by
  induction h with
  | refl => exact he
  | tail _ hc ih =>
    rcases hc.logs with hsame | ⟨r, row, happ⟩
    · rw [hsame.1]
      exact ih
    · rw [happ.userEvents]
      exact List.mem_append_left _ ih

theorem Db.Reports.changes (h : db.Reports o) (hc : Changes db db') : db'.Reports o := by
  obtain ⟨n, hn, hsender, hkey, hid, hpub⟩ := h
  obtain ⟨st, hst, hfinal⟩ := hc.keepsMessage hn
  refine ⟨_, hst, hsender, hkey, hid, fun hs => ?_⟩
  obtain ⟨hns, e, he, heid, heseq⟩ := hpub hs
  exact ⟨(hfinal (by rw [hns]; decide)).trans hns, e, hc.keepsEvent he, heid, heseq⟩

/-- Two reports on one client id agree. -/
theorem Db.Reports.agree (hdb : db.Consistent) {o' : ChatMessage} (h : db.Reports o)
    (h' : db.Reports o') (hsender : o'.senderUserId = o.senderUserId)
    (hkey : o'.clientMessageId = o.clientMessageId) :
    o'.messageId = o.messageId ∧
      (o.status = .published → o'.status = .published → o'.eventSeq = o.eventSeq) := by
  obtain ⟨n, hn, hns, hnk, hnid, hpub⟩ := h
  obtain ⟨n', hn', hns', hnk', hnid', hpub'⟩ := h'
  obtain rfl : n' = n := List.inj_on_of_nodup_map hdb.clientIds hn' hn
    (by rw [hns', hnk', hsender, hkey, hns, hnk])
  refine ⟨hnid'.symm.trans hnid, fun hs hs' => ?_⟩
  obtain ⟨hst, e, he, heid, heseq⟩ := hpub hs
  obtain ⟨-, e', he', heid', heseq'⟩ := hpub' hs'
  -- both events are about the message, and there is only one such event
  obtain ⟨pc, -, hlog⟩ := hdb.logged n' hn
  rw [if_pos hst] at hlog
  obtain ⟨e₀, he₀, -⟩ := hlog
  have hmem : e ∈ db.eventsAbout n'.messageId := List.mem_filter.mpr ⟨he, decide_eq_true heid⟩
  have hmem' : e' ∈ db.eventsAbout n'.messageId := List.mem_filter.mpr ⟨he', decide_eq_true heid'⟩
  rw [he₀, List.mem_singleton] at hmem hmem'
  rw [← heseq, ← heseq', hmem, hmem']

/-- A duplicate is answered with what the tables hold. -/
theorem reports_withEventSeq (hdb : db.Consistent)
    (h : db.messageByClientId sender key = some stored) :
    db.Reports (db.withEventSeq stored) := by
  obtain ⟨n, hn, hns, hnk, pc, hpc, rfl⟩ := messageByClientId_eq_some h
  unfold Db.withEventSeq
  split
  · rename_i hs
    have hns' : n.status = .published := hs
    obtain ⟨pc', hpc', hlog⟩ := hdb.logged n hn
    rw [hpc'.1] at hpc
    cases hpc
    rw [if_pos hns'] at hlog
    obtain ⟨e, he, hrec, htype⟩ := hlog
    obtain ⟨heev, heid⟩ := List.mem_filter.mp (he ▸ List.mem_singleton_self e :
      e ∈ db.eventsAbout n.messageId)
    obtain ⟨e', he'⟩ : ∃ e', db.messageEvent (pc.other n.senderUserId) n.messageType n.messageId =
        some e' := by
      refine Option.isSome_iff_exists.mp (List.find?_isSome.mpr ⟨e, heev, ?_⟩)
      simpa using ⟨hrec, htype, of_decide_eq_true heid⟩
    have hprop := List.find?_some he'
    simp only [decide_eq_true_eq] at hprop
    refine ⟨n, hn, rfl, rfl, rfl, fun _ =>
      ⟨hns', e', List.mem_of_find?_eq_some he', hprop.2.2, ?_⟩⟩
    show e'.eventSeq = (db.messageEvent (pc.other n.senderUserId) n.messageType n.messageId).elim
      0 (·.eventSeq)
    rw [he', Option.elim_some]
  · exact ⟨n, hn, rfl, rfl, rfl, fun hs => absurd hs ‹_›⟩

/-! ### Turns of `AddChatMsg` and of other calls -/

/-- The turn ends with a result of `AddChatMsg`, or goes on with the same
request. -/
theorem turn_saves (db : Db) (caller : SaveCaller) (retries attempt : Nat)
    (faults : Option (List (Fault SqlError))) (m : ChatMessage) :
    ∃ s out, (Call.addChatMsg caller retries m).turn attempt faults db = (s, out) ∧
      ((∃ r o, out = .returned (.saved r o) ∧ SaveTurnEnds db m (.returned r) s o) ∨
        ∃ o, out = .retry (.addChatMsg caller retries o) ∧ SaveTurnEnds db m .retry s o) := by
  rw [turn_addChatMsg]
  split
  · exact ⟨_, _, rfl, .inl ⟨_, _, rfl, .inr ⟨rfl, .refl m, .inl rfl⟩⟩⟩
  · obtain ⟨s, out, e, h⟩ := perform_spec Result.saved (Call.addChatMsg caller retries)
      (wp_addChatMsgTurn retries attempt (faults.getD []))
    refine ⟨s, out, e, ?_⟩
    rcases h with h | h | ⟨o, -, h⟩
    · exact .inl h
    · exact .inr h
    · exact h.elim

def Call.IsAddChatMsg : Call → Prop
  | .addChatMsg .. => True
  | _ => False

/-- The outcomes of the other calls are not results of `AddChatMsg`. -/
def Outcome.Foreign (c : Call) : Outcome → Prop
  | .returned (.saved ..) => False
  | .returned _ => True
  | .retry c' => c' = c
  | .threw => True

theorem perform_foreign {μ ρ : Type} (m : Sql μ (Turn ρ)) (o : μ) (fs : List (Fault SqlError))
    (db : Db) {ret : ρ → μ → Result} (hret : ∀ r o', (Outcome.returned (ret r o')).Foreign c) :
    (perform m o fs db ret fun _ => c).2.Foreign c := by
  unfold perform
  rcases m (Conn.start db o fs) with ⟨e | t, c'⟩
  · trivial
  · cases t with
    | returned r => exact hret r c'.out
    | retry => exact rfl

theorem withConnection_foreign {faults : Option (List (Fault SqlError))} {failure : Result}
    {run : List (Fault SqlError) → Db × Outcome} (hf : (Outcome.returned failure).Foreign c)
    (h : ∀ fs, (run fs).2.Foreign c) :
    (withConnection faults db failure run).2.Foreign c := by
  cases faults with
  | none => exact hf
  | some fs => exact h fs

theorem turn_foreign (db : Db) (hc : ¬c.IsAddChatMsg) (attempt : Nat)
    (faults : Option (List (Fault SqlError))) : (c.turn attempt faults db).2.Foreign c := by
  cases c
  case addChatMsg => exact absurd trivial hc
  all_goals
    exact withConnection_foreign trivial fun _ => perform_foreign _ _ _ _ fun _ _ => trivial

/-! ### What the answers say -/

/-- The answer says `Stored` to a call with this sender and client id. -/
def isStoredFor (sender : Int) (key : String) : Call × Result → Bool
  | (.addChatMsg _ _ m, .saved .stored _) => m.senderUserId = sender ∧ m.clientMessageId = key
  | _ => false

def Sys.storedAnswers (s : Sys) (sender : Int) (key : String) : List (Call × Result) :=
  s.log.filter (isStoredFor sender key)

/-- The live deliveries of messages with this sender and client id. -/
def Sys.deliveredFor (s : Sys) (sender : Int) (key : String) : List ChatMessage :=
  s.delivered.filter fun m => m.senderUserId = sender ∧ m.clientMessageId = key

/-- The tables bear the answer out. -/
def Db.Confirms (db : Db) : Call × Result → Prop
  | (.addChatMsg _ _ m, .saved .stored o) => SameRequest m o ∧ db.Reports o
  | (.addChatMsg _ _ m, .saved .duplicate o) => SameRequest m o ∧ db.Reports o
  | _ => True

theorem Db.Confirms.changes (hc : Changes db db') {p : Call × Result} (h : db.Confirms p) :
    db'.Confirms p := by
  unfold Db.Confirms at h ⊢
  split
  · exact ⟨h.1, h.2.changes hc⟩
  · exact ⟨h.1, h.2.changes hc⟩
  · trivial

theorem confirms_foreign (db : Db) (hc : ¬c.IsAddChatMsg) (r : Result) : db.Confirms (c, r) := by
  cases c
  case addChatMsg => exact absurd trivial hc
  all_goals trivial

/-- An active call has its original form, or is an `AddChatMsg` that goes on
with the same request. -/
def Active.Ok (a : Active) : Prop :=
  (¬a.origin.IsAddChatMsg ∧ a.current = a.origin) ∨
    ∃ caller retries m m', a.origin = .addChatMsg caller retries m ∧
      a.current = .addChatMsg caller retries m' ∧ SameRequest m m'

theorem active_ok_call (c : Call) : Active.Ok ⟨c, c, 0⟩ := by
  cases c
  case addChatMsg caller retries m => exact .inr ⟨caller, retries, m, m, rfl, rfl, .refl m⟩
  all_goals exact .inl ⟨id, rfl⟩

structure Sys.Ok (s : Sys) : Prop where
  consistent : s.db.Consistent
  active : ∀ a ∈ s.active, a.Ok
  confirms : ∀ p ∈ s.log, s.db.Confirms p
  once : ∀ sender key, (s.storedAnswers sender key).length ≤ 1
  delivered : ∀ sender key,
    (s.deliveredFor sender key).length ≤ (s.storedAnswers sender key).length

theorem sys_ok_empty : Sys.Ok {} where
  consistent := consistent_empty
  active _ h := absurd h List.not_mem_nil
  confirms _ h := absurd h List.not_mem_nil
  once _ _ := Nat.zero_le 1
  delivered _ _ := Nat.le_refl 0

/-- The first `Stored` for a client id finds no earlier one. -/
theorem Sys.Ok.storedAnswers_eq_nil (h : s.Ok) (hfree : s.db.NoMessage sender key) :
    s.storedAnswers sender key = [] := by
  refine List.filter_eq_nil_iff.mpr fun p hp hst => ?_
  have hconf := h.confirms p hp
  unfold isStoredFor at hst
  split at hst
  · obtain ⟨hsender, hkey⟩ := of_decide_eq_true hst
    obtain ⟨hreq, n, hn, hns, hnk, -⟩ := hconf
    exact hfree n hn ⟨hns.trans (hreq.senderUserId.trans hsender), hnk.trans (hreq.1.trans hkey)⟩
  · cases hst

/-- A step that gives no answer of `AddChatMsg`. -/
theorem Sys.Ok.quiet (h : s.Ok) (hc : Changes s.db s'.db)
    (hactive : ∀ a ∈ s'.active, a ∈ s.active ∨ a.Ok)
    (hlog : s'.log = s.log ∨ ∃ c r, ¬c.IsAddChatMsg ∧ s'.log = s.log ++ [(c, r)])
    (hdel : s'.delivered = s.delivered) : s'.Ok := by
  have hst : ∀ sender key, s'.storedAnswers sender key = s.storedAnswers sender key := by
    intro sender key
    rcases hlog with hlog | ⟨c, r, hfor, hlog⟩
    · rw [Sys.storedAnswers, hlog, Sys.storedAnswers]
    · have hno : isStoredFor sender key (c, r) = false := by
        cases c
        case addChatMsg => exact absurd trivial hfor
        all_goals rfl
      rw [Sys.storedAnswers, hlog, List.filter_append, List.filter_singleton, hno]
      exact List.append_nil _
  constructor
  · exact hc.invariant (fun _ _ => Db.Consistent.change) h.consistent
  · exact fun a ha => (hactive a ha).elim (h.active a) id
  · intro p hp
    rcases hlog with hlog | ⟨c, r, hfor, hlog⟩
    · exact (h.confirms p (hlog ▸ hp)).changes hc
    · rw [hlog, List.mem_append, List.mem_singleton] at hp
      rcases hp with hp | rfl
      · exact (h.confirms p hp).changes hc
      · exact confirms_foreign _ hfor r
  · exact fun sender key => hst sender key ▸ h.once sender key
  · intro sender key
    rw [hst, Sys.deliveredFor, hdel]
    exact h.delivered sender key

/-- What an answer of `AddChatMsg` may be based on. -/
theorem SaveTurnEnds.answer {s : Db} (hdb : db.Consistent)
    (h : SaveTurnEnds db m (.returned r) s o) :
    SameRequest m o ∧ (r = .stored ∨ r = .duplicate → s.Reports o) ∧
      (r = .stored → db.NoMessage m.senderUserId m.clientMessageId) := by
  rcases h with ⟨hreq, -, h⟩ | ⟨rfl, hreq, -⟩
  · refine ⟨hreq, fun hr => ?_, ?_⟩
    · rcases hr with rfl | rfl
      · exact h.2.2
      · obtain ⟨rfl, stored, hst, -, rfl⟩ := h
        exact reports_withEventSeq hdb hst
    · rintro rfl
      exact h.2.1
  · exact ⟨hreq, nofun, nofun⟩

theorem Sys.Ok.answers (h : s.Ok) (caller : SaveCaller) (retries : Nat) {m' : ChatMessage}
    (hreq : SameRequest m m') (hturn : SaveTurnEnds s.db m' (.returned r) s'.db o)
    (hactive : ∀ a ∈ s'.active, a ∈ s.active)
    (hlog : s'.log = s.log ++ [(.addChatMsg caller retries m, .saved r o)]) (hdel : s'.delivered =
      s.delivered ++ deliveries (.addChatMsg caller retries m) (.saved r o)) : s'.Ok := by
  have hc : Changes s.db s'.db := hturn.changes
  obtain ⟨hreq', hrep, hfree⟩ := hturn.answer h.consistent
  have hmo : SameRequest m o := hreq.trans hreq'
  have hst : ∀ sender key, s'.storedAnswers sender key = s.storedAnswers sender key ++
      if r = .stored ∧ m.senderUserId = sender ∧ m.clientMessageId = key then
        [(.addChatMsg caller retries m, .saved r o)] else [] := by
    intro sender key
    rw [Sys.storedAnswers, hlog, List.filter_append, List.filter_singleton]
    congr 1
    cases r <;> simp [isStoredFor]
  have hdl : ∀ sender key, (s'.deliveredFor sender key).length ≤
      (s.deliveredFor sender key).length +
        if r = .stored ∧ m.senderUserId = sender ∧ m.clientMessageId = key then 1 else 0 := by
    intro sender key
    rw [Sys.deliveredFor, hdel, List.filter_append, List.length_append]
    refine Nat.add_le_add_left ?_ _
    unfold deliveries
    split
    · rename_i heq heq'
      cases heq'
      rw [List.filter_singleton, ← hmo.senderUserId, ← hmo.1]
      simp only [true_and, Bool.cond_decide]
      split
      · exact Nat.le_refl 1
      · exact Nat.le_refl 0
    · exact Nat.zero_le _
  constructor
  · exact hc.invariant (fun _ _ => Db.Consistent.change) h.consistent
  · exact fun a ha => h.active a (hactive a ha)
  · intro p hp
    rw [hlog, List.mem_append, List.mem_singleton] at hp
    rcases hp with hp | rfl
    · exact (h.confirms p hp).changes hc
    · cases r with
      | stored => exact ⟨hmo, hrep (.inl rfl)⟩
      | duplicate => exact ⟨hmo, hrep (.inr rfl)⟩
      | conflict | failed => trivial
  · intro sender key
    rw [hst]
    split
    · rename_i hcase
      obtain ⟨hr, rfl, rfl⟩ := hcase
      have hnone := hfree hr
      rw [hreq.senderUserId, hreq.1] at hnone
      rw [h.storedAnswers_eq_nil hnone]
      exact Nat.le_refl 1
    · rw [List.append_nil]
      exact h.once sender key
  · intro sender key
    have hle := h.delivered sender key
    have hle' := hdl sender key
    split at hle' <;> simp_all <;> omega

/-- **Every step keeps the answers true.** -/
theorem Sys.Ok.step (h : s.Ok) (hstep : Step s s') : s'.Ok := by
  have hc := hstep.changes
  cases hstep with
  | skipIds u t m r => exact h.quiet hc (fun a ha => .inl ha) (.inl rfl) rfl
  | call c =>
    refine h.quiet hc (fun a ha => ?_) (.inl rfl) rfl
    rcases List.mem_append.mp ha with ha | ha
    · exact .inl ha
    · exact .inr (List.mem_singleton.mp ha ▸ active_ok_call c)
  | turn l a r hact faults =>
    have hrest : ∀ b ∈ l ++ r, b ∈ s.active := by
      intro b hb
      rw [hact]
      rcases List.mem_append.mp hb with hb | hb
      · exact List.mem_append_left _ hb
      · exact List.mem_append_right _ (List.mem_cons_of_mem _ hb)
    have hgoes : ∀ b b', b' ∈ l ++ b :: r → b.Ok → b' ∈ s.active ∨ b'.Ok := by
      intro b b' hb' hb
      rcases List.mem_append.mp hb' with hl | hr
      · exact .inl (hrest b' (List.mem_append_left _ hl))
      · rcases List.mem_cons.mp hr with rfl | hr
        · exact .inr hb
        · exact .inl (hrest b' (List.mem_append_right _ hr))
    rcases h.active a (hact ▸ List.mem_append_right _ List.mem_cons_self) with
      ⟨hfor, hcur⟩ | ⟨caller, retries, m, m', horig, hcur, hreq⟩
    · -- another call: whatever it ends with, it is no answer of `AddChatMsg`
      have hout := turn_foreign s.db (hcur ▸ hfor) a.attempt faults
      rcases e : a.current.turn a.attempt faults s.db with ⟨db', res | c | -⟩ <;>
        rw [e] at hout hc
      · refine h.quiet hc (fun b hb => .inl (hrest b hb)) (.inr ⟨_, _, hfor, rfl⟩) ?_
        show s.delivered ++ deliveries a.origin res = s.delivered
        cases horig : a.origin
        case addChatMsg => exact absurd (horig ▸ trivial) hfor
        all_goals exact List.append_nil _
      · refine h.quiet hc (fun b hb => hgoes _ b hb ?_) (.inl rfl) rfl
        exact .inl ⟨hfor, (show c = a.current from hout).trans hcur⟩
      · exact h.quiet hc (fun b hb => .inl (hrest b hb)) (.inl rfl) rfl
    · -- `AddChatMsg` answers or tries again
      obtain ⟨db', out, e, hend⟩ := turn_saves s.db caller retries a.attempt faults m'
      rw [← hcur] at e
      rw [e] at hc ⊢
      rcases hend with ⟨res, o, rfl, hend⟩ | ⟨o, rfl, hend⟩
      · exact h.answers caller retries hreq hend hrest (horig ▸ rfl) (horig ▸ rfl)
      · refine h.quiet hc (fun b hb => hgoes _ b hb ?_) (.inl rfl) rfl
        exact .inr ⟨caller, retries, m, o, horig, rfl, hreq.trans hend.1⟩

theorem Reachable.ok (h : Reachable s) : s.Ok := by
  induction h with
  | refl => exact sys_ok_empty
  | tail _ hstep ih => exact ih.step hstep

/-! ### A client id that is used for something else -/

/-- The statements of this turn go through: the pool has a connection and the
transaction does not throw. -/
def Undisturbed (db : Db) (m : ChatMessage) (attempt : Nat)
    (faults : Option (List (Fault SqlError))) : Prop :=
  (faults = none → attempt ≠ 0) ∧
    ∃ r, (addChatMsgTransaction (Conn.start db m (faults.getD []))).1 = .ok r

/-- A turn for the message commits nothing and reports no success.  It reports
a conflict if the sender belongs to the thread and nothing is in the way. -/
structure Refuses (db : Db) (m : ChatMessage) (attempt : Nat)
    (faults : Option (List (Fault SqlError))) (after : Db) (out : Outcome) : Prop where
  unchanged : after = db
  refused : (∃ c, out = .retry c) ∨ (∃ o, out = .returned (.saved .conflict o)) ∨
    ∃ o, out = .returned (.saved .failed o)
  conflict : AddChatMsgArgs m → db.IsMember m → Undisturbed db m attempt faults →
    ∃ o, out = .returned (.saved .conflict o)
  notMember : ¬db.IsMember m → Undisturbed db m attempt faults →
    ∃ o, out = .returned (.saved .failed o)

/-- The end of a transaction for a client id that is used for something else. -/
theorem SaveEnds.of_differs {s : Db} (h : SaveEnds db m r s o)
    (hst : db.messageByClientId m.senderUserId m.clientMessageId = some stored)
    (hdiff : stored.content ≠ m.content) :
    s = db ∧ (r = .conflict ∧ db.IsMember m ∨ r = .failed ∧ ¬db.IsMember m) := by
  obtain ⟨-, hmem, h⟩ := h
  cases r with
  | stored =>
    obtain ⟨n, hn, hns, hnk, -⟩ := messageByClientId_eq_some hst
    exact absurd ⟨hns, hnk⟩ (h.2.1 n hn)
  | duplicate =>
    obtain ⟨-, stored', hst', hsame, -⟩ := h
    rw [hst] at hst'
    cases hst'
    exact absurd hsame hdiff
  | conflict => exact ⟨h.1, .inl ⟨rfl, hmem nofun⟩⟩
  | failed =>
    refine ⟨h.1, .inr ⟨rfl, h.2.resolve_left ?_⟩⟩
    rw [hst]
    nofun

theorem SaveThrows.of_differs {s : Db} (h : SaveThrows db m s o)
    (hst : db.messageByClientId m.senderUserId m.clientMessageId = some stored) : s = db := by
  refine h.2.resolve_right ?_
  rw [hst]
  rintro ⟨hnone, -⟩
  cases hnone

theorem turn_refuses (hst : db.messageByClientId m.senderUserId m.clientMessageId = some stored)
    (hdiff : stored.content ≠ m.content) (caller : SaveCaller) (retries attempt : Nat)
    (faults : Option (List (Fault SqlError))) :
    Refuses db m attempt faults ((Call.addChatMsg caller retries m).turn attempt faults db).1
      ((Call.addChatMsg caller retries m).turn attempt faults db).2 := by
  obtain ⟨s, out, e, hend⟩ := turn_saves db caller retries attempt faults m
  rw [e]
  -- what an undisturbed turn returns
  have hcalm : Undisturbed db m attempt faults →
      ∃ r o, out = .returned (.saved r o) ∧
        (r = .conflict ∧ db.IsMember m ∨ r = .failed ∧ (¬db.IsMember m ∨ ¬AddChatMsgArgs m)) := by
    rintro ⟨hconn, r, hr⟩
    rw [turn_addChatMsg] at e
    split at e
    · rename_i hargs
      cases e
      have hbad : ¬AddChatMsgArgs m := hargs.resolve_right fun h => hconn h.1 h.2
      exact ⟨_, _, rfl, .inr ⟨rfl, .inr hbad⟩⟩
    · rcases ht : addChatMsgTransaction (Conn.start db m (faults.getD [])) with ⟨r', c⟩
      rw [ht] at hr
      cases hr
      have hends := (wp_addChatMsgTransaction (.refl m)).of_ok ht
      unfold perform at e
      rw [addChatMsgTurn_of_ok ht] at e
      cases e
      exact ⟨_, _, rfl, (hends.of_differs hst hdiff).2.imp id fun h => ⟨h.1, .inl h.2⟩⟩
  refine ⟨?_, ?_, fun hargs hmem hu => ?_, fun hmem hu => ?_⟩
  · rcases hend with ⟨r, o, -, h | h⟩ | ⟨o, -, h⟩
    · exact (h.of_differs hst hdiff).1
    · exact h.2.of_differs hst
    · exact SaveThrows.of_differs h hst
  · rcases hend with ⟨r, o, rfl, h | ⟨rfl, -⟩⟩ | ⟨o, rfl, -⟩
    · rcases (h.of_differs hst hdiff).2 with ⟨rfl, -⟩ | ⟨rfl, -⟩
      · exact .inr (.inl ⟨o, rfl⟩)
      · exact .inr (.inr ⟨o, rfl⟩)
    · exact .inr (.inr ⟨o, rfl⟩)
    · exact .inl ⟨_, rfl⟩
  · obtain ⟨r, o, rfl, ⟨rfl, -⟩ | ⟨-, hno | hno⟩⟩ := hcalm hu
    · exact ⟨o, rfl⟩
    · exact absurd hmem hno
    · exact absurd hargs hno
  · obtain ⟨r, o, rfl, ⟨-, hyes⟩ | ⟨rfl, -⟩⟩ := hcalm hu
    · exact absurd hyes hmem
    · exact ⟨o, rfl⟩

/-! ### The main result -/

/-- A call with this sender and client id was answered with `Stored` or
`Duplicate` and the message `o`. -/
def Sys.Answered (s : Sys) (sender : Int) (key : String) (o : ChatMessage) : Prop :=
  ∃ caller retries m r, (Call.addChatMsg caller retries m, Result.saved r o) ∈ s.log ∧
    m.senderUserId = sender ∧ m.clientMessageId = key ∧ (r = .stored ∨ r = .duplicate)

theorem Sys.Ok.answered (h : s.Ok) (ho : s.Answered sender key o) :
    s.db.Reports o ∧ o.senderUserId = sender ∧ o.clientMessageId = key := by
  obtain ⟨caller, retries, m, r, hlog, rfl, rfl, hr⟩ := ho
  have hconf := h.confirms _ hlog
  have : SameRequest m o ∧ s.db.Reports o := by
    rcases hr with rfl | rfl
    · exact hconf
    · exact hconf
  exact ⟨this.2, this.1.senderUserId, this.1.1⟩

/-- **Exactly-once storage.**  For a sender and a client id, in every state
the servers can reach: there is at most one row; the answers `Stored` and
`Duplicate` agree on the message id and, once the message is published, on the
number of the event; at most one answer is `Stored`; a call that uses the
client id for something else is refused and changes nothing; at most one live
delivery was started. -/
theorem saved_exactly_once {s : Sys} (h : Reachable s) (sender : Int) (key : String) :
    (s.db.chatMessages.filter fun m =>
        m.senderUserId = sender ∧ m.clientMessageId = key).length ≤ 1 ∧
      (∀ o o', s.Answered sender key o → s.Answered sender key o' →
        o'.messageId = o.messageId ∧
          (o.status = .published → o'.status = .published → o'.eventSeq = o.eventSeq)) ∧
      (s.storedAnswers sender key).length ≤ 1 ∧
      (∀ m stored, m.senderUserId = sender → m.clientMessageId = key →
        s.db.messageByClientId sender key = some stored → stored.content ≠ m.content →
        ∀ caller retries attempt faults,
          Refuses s.db m attempt faults
            ((Call.addChatMsg caller retries m).turn attempt faults s.db).1
            ((Call.addChatMsg caller retries m).turn attempt faults s.db).2) ∧
      (s.deliveredFor sender key).length ≤ 1 := by
  have hok := h.ok
  refine ⟨?_, fun o o' ho ho' => ?_, hok.once sender key, ?_,
    Nat.le_trans (hok.delivered sender key) (hok.once sender key)⟩
  · refine Table.length_filter_key_le_one (k := (sender, key)) hok.consistent.clientIds
      fun m hm => ?_
    obtain ⟨hs, hk⟩ := of_decide_eq_true hm
    rw [hs, hk]
  · obtain ⟨hrep, hs, hk⟩ := hok.answered ho
    obtain ⟨hrep', hs', hk'⟩ := hok.answered ho'
    exact hrep.agree hok.consistent hrep' (hs'.trans hs.symm) (hk'.trans hk.symm)
  · rintro m stored rfl rfl hst hdiff caller retries attempt faults
    exact turn_refuses hst hdiff caller retries attempt faults

/-- The text of `textSent` again, under the same client id, for a thread that
does not exist. -/
def otherThread : ChatMessage :=
  { threadId := 99, senderUserId := 1, clientMessageId := "k1", textContent := "hi",
    createdAt := "2026-08-30 12:00:00" }

/-- The membership check stands before the comparison with the stored row, so
a differing call can fail without being told about the conflict. -/
theorem differing_call_not_conflict :
    Reachable textSent ∧
      (∃ stored, textSent.db.messageByClientId 1 "k1" = some stored ∧
        stored.threadId ≠ otherThread.threadId) ∧
      (Call.addChatMsg .dealChatTextMsg 2 otherThread).turn 0 (some []) textSent.db =
        (textSent.db, .returned (.saved .failed otherThread)) :=
  ⟨reachable_serve .refl _, by decide, by decide⟩

theorem saved_exactly_once_textSent :
    (textSent.deliveredFor 1 "k1").length = 1 ∧
      (textSent.storedAnswers 1 "k1").length = 1 := by
  have h := saved_exactly_once (reachable_serve .refl _ : Reachable textSent) 1 "k1"
  have hone : 1 ≤ (textSent.deliveredFor 1 "k1").length ∧
      1 ≤ (textSent.storedAnswers 1 "k1").length := by decide
  exact ⟨Nat.le_antisymm h.2.2.2.2 hone.1, Nat.le_antisymm h.2.2.1 hone.2⟩

end LlfcChat

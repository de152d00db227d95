/-
The instant proof is sound: the workers of ResourceServer together.

A publication that `HandleInstantProof` starts is licensed by a challenge of the
same connection; a challenge is compared at most once, and a session has at most
one comparison that fails.  Requests of other users than the sender leave the
files and the sessions alone, but for the age of sessions: a 1505 of anybody
refreshes the session of its message and drops the sessions that are idle.
-/
import LlfcChat.Resource.ChallengeHandlers
import LlfcChat.Resource.Publication

namespace LlfcChat.Resource.Challenge

open Conc Conc.Rules FileSystem
open Conc.Prog hiding pure bind
open Upload (Owns Elsewhere elsewhere_evictIdle)

/-! ### Threads -/

section Rules

variable (sha : List UInt8 → String) (fmt : Int → String)

@[reducible] def threadRules (t : Thread) : Rules Op Res (Recorded World) where
  sem := (tracedServer sha fmt).sem t
  inv := ChallengeInv
  rely w w' := Onward (Owns t) w w' ∧ Locked t w.now w'.now
  guar op w w' := (∀ t', t' ≠ t → Onward (Owns t') w w' ∧ Locked t' w.now w'.now) ∧
    CallOk sha w op
  rely_refl w := ⟨.refl _ w, .refl t _⟩
  rely_trans _ _ _ h h' := ⟨h.1.trans h'.1, h.2.trans h'.2⟩

end Rules

variable {sha : List UInt8 → String} {fmt : Int → String} {t : Thread} {m : Int}
  {w w' : Recorded World} {s : UploadSession} {fw fw' : FileWorker}

/-- The table of a worker is right, and all of its sessions are its own. -/
def WorkerOk (t : Thread) (fw : FileWorker) (w : Recorded World) : Prop :=
  (∀ m, Owns t m → Sessions m (w.now.journal m) fw w.now) ∧
    ∀ m s, fw.uploadSessions m = some s → Owns t m

theorem Sessions.onward {S : Int → Prop} (h : Sessions m (w.now.journal m) fw w.now)
    (hon : Onward S w w') (hm : S m) : Sessions m (w'.now.journal m) fw w'.now := by
  rw [hon.journal m hm]
  exact dbFact_sessions m _ fw w.now w'.now hon.db h

theorem stable_workerOk : (threadRules sha fmt t).Stable (WorkerOk t fw) :=
  fun _ _ h hrely _ => ⟨fun m hm => (h.1 m hm).onward hrely.1 hm, h.2⟩

variable {p : Prog FileWorker}

/-- A handler of one message of the worker. -/
theorem safe_handler (hown : Owns t m) (hw : WorkerOk t fw w)
    (h : (messageRules sha fmt t m).Safe (Ends m fw) p w) :
    (threadRules sha fmt t).Safe (WorkerOk t) p w := by
  have hothers : (threadRules sha fmt t).Stable fun w =>
      ∀ n, n ≠ m → Owns t n → Sessions n (w.now.journal n) fw w.now :=
    fun _ _ h hrely _ n hn hown => (h n hn hown).onward hrely.1 hown
  have hframed : (threadRules sha fmt t).Safe (fun fw' w => Ends m fw fw' w ∧
      ∀ n, n ≠ m → Owns t n → Sessions n (w.now.journal n) fw w.now) p w := by
    refine Safe.frame (R := messageRules sha fmt t m) (fun _ _ _ _ hs => hs)
      (fun _ => Iff.rfl) (fun w w' hr => ⟨hr.1.mono ?_, hr.2⟩)
      (fun op w w' hg => ⟨fun t' hne => ⟨hg.1.mono ?_, hg.2.1 t' hne⟩, hg.2.2⟩) hothers
      (fun op w w' h _ hg n hn hown => (h n hn hown).onward hg.1 hn) h fun n _ hn => hw.1 n hn
    · rintro n rfl
      exact hown
    · rintro n hn rfl
      exact hne (hn.unique hown)
  refine hframed.mono fun fw' w h => ?_
  obtain ⟨⟨helse, hentry⟩, hrest⟩ := h
  refine ⟨fun n hn => ?_, fun n s hs => ?_⟩
  · by_cases e : n = m
    · exact e ▸ hentry
    · exact fun s hs => hrest n e hn s (helse.session e hs)
  · by_cases e : n = m
    · exact e ▸ hown
    · exact hw.2 n s (helse.session e hs)

/-! ### Threads without journals -/

theorem threadQuiet_of_plain {op : Op} (h : Plain op) : (threadRules sha fmt t).Quiet op := by
  intro w r w' hinv hs
  obtain ⟨hon, hlocked, hpast⟩ := onward_of_sem hs
  obtain ⟨⟨⟨c, -, he⟩, -⟩, -⟩ := hs
  exact ⟨⟨fun t' hne => ⟨hon.mono fun n _ => h.ne_note n, hlocked t' hne⟩, callOk_of_plain h⟩,
    hinv.onward (hon.mono fun n _ => h.ne_note n) hpast, hon.mono fun n _ => h.ne_note n,
    locked_of_plain h he⟩

/-- A call that is no note and does not publish is safe. -/
theorem threadKeeps {op : Op} (hop : ∀ n e, op ≠ .note n e) (hcall : ∀ w, CallOk sha w op) :
    (threadRules sha fmt t).Keeps (fun _ => True) op := by
  intro w r w' _ hinv hs
  obtain ⟨hon, hlocked, hpast⟩ := onward_of_sem hs
  exact ⟨⟨fun t' hne => ⟨hon.mono fun n _ => hop n, hlocked t' hne⟩, hcall w⟩,
    hinv.onward (hon.mono fun n _ => hop n) hpast, trivial⟩

theorem safe_threadKeeps {α : Type} {p : Prog α}
    (h : p.Calls ((threadRules sha fmt t).Keeps fun _ => True)) :
    (threadRules sha fmt t).Safe (fun _ _ => True) p w :=
  (safe_of_keeps h (returns_true _) (stable_const True) trivial).mono fun _ _ _ => trivial

theorem safe_sweepBlob {path : Path} {name : String} :
    (threadRules sha fmt t).Safe (fun _ _ => True) (sweepBlob path name) w := by
  have hunlock : (call .unlock).Calls ((threadRules sha fmt t).Keeps fun _ => True) :=
    calls_perform (threadKeeps nofun fun _ => trivial)
  refine safe_threadKeeps (calls_guard fun _ => ?_)
  refine calls_step (threadKeeps nofun fun _ => trivial) fun _ =>
    calls_step (threadKeeps nofun fun _ => trivial) fun r => ?_
  cases r with
  | no =>
    exact calls_step (threadKeeps nofun fun _ => trivial) fun _ => hunlock
  | _ => exact hunlock

/-! ### The server -/

/-- What is known of a thread at rest. -/
def RestOk : (t : Thread) → Local t → Recorded World → Prop
  | .fileWorker i, fw, w => WorkerOk (.fileWorker i) fw w
  | .downloadWorker _, _, _ => True
  | .cleanup, _, _ => True

theorem safe_fresh (t : Thread) :
    (threadRules sha fmt t).Safe (RestOk t)
      (.pure ((tracedServer sha fmt).fresh t)) w := by
  cases t with
  | fileWorker i => exact safe_pure stable_workerOk ⟨fun _ _ => nofun, nofun⟩
  | downloadWorker i | cleanup => exact safe_done

theorem onward_of_outside (h : Outside w.now w'.now) (hmoves : w.Moves w') :
    Onward (fun _ => True) w w' ∧ w'.past w'.now := by
  have hjournal : w.now.clock ≤ w'.now.clock ∧ w'.now.journal = w.now.journal := by
    generalize w'.now = v at h
    cases h <;> exact ⟨by dsimp only; omega, rfl⟩
  refine ⟨⟨((outside_publishRely h).2 .cleanup).db, hjournal.1, fun v hv => ?_, fun m _ => ?_⟩, ?_⟩
  · rw [hmoves]
    exact .inl hv
  · rw [hjournal.2]
  · rw [hmoves]
    exact .inr rfl

theorem challenge_verified :
    Verified (tracedServer sha fmt) (threadRules sha fmt) RestOk
      ChallengeInv where
  sem _ := rfl
  inv _ := rfl
  guar t t' op w w' hne _ _ h := h.1 t' (Ne.symm hne)
  env w w' hinv h := by
    obtain ⟨hon, hpast⟩ := onward_of_outside h.1 h.2
    exact ⟨hinv.onward hon hpast, fun t => ⟨hon.mono fun _ _ => trivial,
      locked_of_rely ((outside_publishRely h.1).2 t)⟩⟩
  task t a p w hinv hrest htask := by
    have hobs : ∀ (t : Thread) (op : Op), op.Observes →
        (threadRules sha fmt t).Quiet op :=
      fun t op h => threadQuiet_of_plain (Op.Files.plain h.files)
    have hsend : ∀ (t : Thread) (session : Nat) (reply : Reply), reply.Downloads →
        (threadRules sha fmt t).Quiet (.send session reply) :=
      fun t session reply _ => threadQuiet_of_plain trivial
    cases htask with
    | chunk i fw task h =>
      exact safe_handler ⟨i, rfl, h⟩ hrest (safe_handleResourceChunk ⟨rfl, hrest.1 _ ⟨i, rfl, h⟩⟩)
    | progress i fw task h =>
      exact safe_handler ⟨i, rfl, h⟩ hrest
        (safe_handleResourceUploadProgress ⟨rfl, hrest.1 _ ⟨i, rfl, h⟩⟩)
    | proof i fw task h =>
      exact safe_handler ⟨i, rfl, h⟩ hrest (safe_handleInstantProof ⟨rfl, hrest.1 _ ⟨i, rfl, h⟩⟩)
    | downInfo i dw task h =>
      exact safe_of_calls (handleResourceDownInfo_calls (hobs _) (hsend _) _ _)
        (stable_const True) trivial
    | chunkDown i dw task h =>
      exact safe_of_calls (handleResourceChunkDown_calls (hobs _) (hsend _) _ _)
        (stable_const True) trivial
    | round pages =>
      exact safe_runResourceCleanup (hobs _)
        (fun _ _ _ _ _ => safe_threadKeeps (calls_perform (threadKeeps nofun fun _ => trivial)))
        (fun _ _ _ _ => safe_sweepBlob) (fun _ => threadQuiet_of_plain rfl) fmt pages w
  restart w w' hinv h := by
    obtain ⟨⟨-, hnow⟩, hmoves⟩ := h
    have hdb : w'.now.db = w.now.db := by rw [hnow]
    have hclock : w'.now.clock = w.now.clock := by rw [hnow]
    refine ⟨hinv.onward ⟨hdb ▸ .refl, hclock.ge, fun v hv => ?_, fun m _ => ?_⟩ ?_,
      fun t => safe_fresh t⟩
    · rw [hmoves]
      exact .inl hv
    · rw [hnow]
    · rw [hmoves]
      exact .inr rfl

/-- The state that a run has come to, with its history. -/
theorem run_ok {c : Config (server sha fmt anything)} (h : Run sha fmt anything c) :
    ∃ past, (∀ v, past v → Passed _ ((server sha fmt anything).boot {}) c v) ∧
      (⟨⟨c.world, past⟩, c.prog⟩ : Config (tracedServer sha fmt)).Ok
        (threadRules sha fmt) RestOk ChallengeInv := by
  have hknown := publish_boot.assuming publish_verified h
  obtain ⟨past, hpast, hsteps⟩ := hknown.recorded
  refine ⟨past, fun v hv => ?_, Config.Ok.steps challenge_verified ⟨?_, fun t => safe_fresh t⟩
    hsteps⟩
  · obtain ⟨c₀, h₀, h₁, rfl⟩ := hpast v hv
    exact ⟨⟨c₀.world, c₀.prog⟩, h₀.of_assuming, h₁.of_assuming, rfl⟩
  · exact ⟨rfl, consistent_empty, fun _ => separated_nil, fun _ => separated_nil,
      fun _ _ _ hmem => absurd hmem List.not_mem_nil⟩

/-! ### Requests of others -/

section Foreign

variable (sha fmt) in
/-- A thread at work for a request of another user: it must leave the disk alone. -/
@[reducible] def foreignRules (t : Thread) : Rules Op Res World where
  sem := (server sha fmt anything).sem t
  inv w := w.db.Consistent
  rely w w' := Changes w.db w'.db ∧ w.clock ≤ w'.clock ∧
    ∀ s, (w.clients s).userId ≠ 0 → (w'.clients s).userId = (w.clients s).userId
  guar _ w w' := w'.disk = w.disk
  rely_refl _ := ⟨.refl, Nat.le_refl _, fun _ _ => rfl⟩
  rely_trans _ _ _ h h' := ⟨Relation.ReflTransGen.trans h.1 h'.1, Nat.le_trans h.2.1 h'.2.1,
    fun s hs => (h'.2.2 s (h.2.2 s hs ▸ hs)).trans (h.2.2 s hs)⟩

/-- Every call of a thread is something the others can live with. -/
theorem foreignRely_of_exec {t' : Thread} {op : Op} {c : Choice} {r : Res op} {w w' : World}
    (he : exec sha t' op c w = some (r, w')) (hinv : w.db.Consistent) :
    w'.db.Consistent ∧ (foreignRules sha fmt t).rely w w' := by
  obtain ⟨hdb, hclock, hclients, -⟩ := exec_frame he
  exact ⟨hdb.consistent hinv, hdb, hclock.ge, fun s _ => by rw [hclients]⟩

theorem foreignRely_of_outside {w w' : World} (h : Outside w w') (hinv : w.db.Consistent) :
    w'.db.Consistent ∧ (foreignRules sha fmt t).rely w w' := by
  have hdb := ((outside_publishRely h).2 t).db
  refine ⟨hdb.consistent hinv, hdb, ?_, fun s hs => ?_⟩
  · cases h <;> dsimp only <;> omega
  · cases h with
    | login session uid huid hopen hnew =>
      dsimp only
      split
      · rename_i e
        exact absurd (e ▸ hnew) hs
      · rfl
    | close session =>
      dsimp only
      split <;> rfl
    | _ => rfl

/-- Looking, answering and noting. -/
def Gentle : Op → Prop
  | .send .. | .note .. => True
  | op => op.Observes

theorem quiet_of_gentle {op : Op} (h : Gentle op) : (foreignRules sha fmt t).Quiet op := by
  rintro w r w' hinv ⟨c, -, he⟩
  obtain ⟨hinv', hrely⟩ := foreignRely_of_exec he hinv
  refine ⟨?_, hinv', hrely⟩
  cases op with
  | send session reply => rw [exec_send he]
  | note n e => rw [exec_note he]
  | _ =>
    have hsame := fun hop => exec_observes hop he
    rw [hsame h]

theorem gentle_call {op : Op} (h : Gentle op) :
    (call op).Calls (foreignRules sha fmt t).Quiet := calls_perform (quiet_of_gentle h)

theorem gentle_send (session : Nat) (reply : Reply) :
    (foreignRules sha fmt t).Quiet (.send session reply) := quiet_of_gentle trivial

theorem stable_sender (m uid : Int) : (foreignRules sha fmt t).Stable (Sender m uid) :=
  fun w w' hw hr _ => dbFact_sender m uid w w' hr.1 hw

/-- The sessions after a 1505 of somebody else: they are older or younger, or have
been idle for too long. -/
def Aged (fw fw' : FileWorker) (w : World) : Prop :=
  ∀ n, fw'.uploadSessions n = fw.uploadSessions n ∨ ∃ s now, now ≤ w.clock ∧
    fw.uploadSessions n = some s ∧ (fw'.uploadSessions n = some { s with lastActive := now } ∨
      fw'.uploadSessions n = none ∧ sessionIdleTimeout < now - s.lastActive)

theorem stable_aged (fw fw' : FileWorker) : (foreignRules sha fmt t).Stable (Aged fw fw') := by
  intro w w' h hr _ n
  rcases h n with h | ⟨s, now, hnow, hrest⟩
  · exact .inl h
  · exact .inr ⟨s, now, Nat.le_trans hnow hr.2.1, hrest⟩

theorem aged_evictIdle {w : World} {now : Nat} (hnow : now ≤ w.clock) (fw : FileWorker) :
    Aged fw (fw.evictIdle now) w := by
  intro n
  show (fw.uploadSessions n).filter _ = _ ∨ _
  cases hs : fw.uploadSessions n with
  | none => exact .inl rfl
  | some s =>
    rw [Option.filter_some]
    split
    · exact .inl rfl
    · rename_i hidle
      refine .inr ⟨s, now, hnow, rfl, .inr ⟨?_, ?_⟩⟩
      · show (fw.uploadSessions n).filter _ = none
        rw [hs, Option.filter_some, if_neg hidle]
      · rw [decide_eq_true_eq, not_le] at hidle
        exact hidle

variable {sender : Int}

/-- The message can be found. -/
def Known (m : Int) (w : World) : Prop := w.db.Consistent ∧ (w.db.resourceMessage m).isSome

theorem stable_known (m : Int) : (foreignRules sha fmt t).Stable (Known m) := by
  rintro w w' ⟨hdb, hm⟩ hr hinv
  obtain ⟨msg, hmsg⟩ := Option.isSome_iff_exists.mp hm
  obtain ⟨msg', hmsg', -⟩ := hr.1.resourceMessage hdb hmsg
  exact ⟨hinv, Option.isSome_of_eq_some hmsg'⟩

variable {P : World → Prop}

/-- The lookup of a message whose sender is known. -/
theorem safe_lookup (hP : (foreignRules sha fmt t).Stable P) {w : World} (hw : P w)
    (hsender : ∀ w, P w → Sender m sender w) {known : Prop}
    (hknown : ∀ w, P w → known → Known m w) :
    (foreignRules sha fmt t).Safe (fun r w => P w ∧ (r = .notFound → ¬known) ∧
      ∀ msg, r = .found msg → msg.senderUserId = sender) (call (.getChatMsgById m)) w := by
  have hquiet : (foreignRules sha fmt t).Quiet (.getChatMsgById m) :=
    quiet_of_gentle trivial
  refine safe_perform hP hw (fun r => hP.and (stable_const _)) fun w r w' hw hinv hs => ?_
  obtain ⟨hg, hinv', hr⟩ := hquiet w r w' hinv hs
  refine ⟨hg, hinv', hP w w' hw hr hinv', fun e hk => ?_, fun msg e => ?_⟩
  · obtain ⟨c, -, he⟩ := hs
    obtain ⟨msg, hmsg⟩ := Option.isSome_iff_exists.mp (hknown w hw hk).2
    simp only [exec, hmsg, Option.some.injEq, Prod.mk.injEq] at he
    rw [← he.1] at e
    split at e <;> cases e
  · obtain ⟨c, -, he⟩ := hs
    obtain ⟨hfound, -⟩ := exec_getChatMsgById he
    exact (readMessage_of_resourceMessage (hfound msg e)).1.unique hinv (hsender w hw)

theorem safe_turnedAway {w : World} {session : Nat} {reply : Reply} :
    (foreignRules sha fmt t).Safe (fun fw' _ => fw' = fw)
      (call (.send session reply) >>= fun _ => pure fw) w :=
  safe_then_pure (send_calls gentle_send) (stable_const _) rfl

theorem safe_foreignProgress {w : World} {task : ProgressTask}
    (hw : Sender task.messageId sender w) (huid : task.uid ≠ sender) :
    (foreignRules sha fmt t).Safe (fun fw' _ => fw' = fw)
      (handleResourceUploadProgress task fw) w := by
  refine (safe_lookup (stable_sender _ sender) hw (fun _ h => h)
    fun _ _ => False.elim).bind fun found w hw => ?_
  cases found with
  | notFound | transient => exact safe_turnedAway
  | found msg =>
    have hforeign : task.uid = 0 ∨ task.uid ≠ msg.senderUserId := .inr (hw.2.2 msg rfl ▸ huid)
    exact safe_ite (fun _ => safe_turnedAway) fun h => absurd hforeign h

theorem safe_foreignProof {w : World} {task : ProofTask} (hw : Sender task.messageId sender w)
    (huid : task.uid ≠ sender)
    (hknown : fw.uploadSessions task.messageId ≠ none → Known task.messageId w) :
    (foreignRules sha fmt t).Safe (fun fw' _ => fw' = fw) (handleInstantProof task fw)
      w := by
  have hP : (foreignRules sha fmt t).Stable fun w => Sender task.messageId sender w ∧
      (fw.uploadSessions task.messageId ≠ none → Known task.messageId w) :=
    (stable_sender _ sender).and (stable_imp (stable_known _))
  refine safe_next (gentle_call trivial) hP ⟨hw, hknown⟩ fun _ w hw => ?_
  refine (safe_lookup hP hw (fun _ h => h.1) fun _ h => h.2).bind fun found w hw => ?_
  cases found with
  | notFound =>
    -- a message that has a session is found
    have hnone : fw.uploadSessions task.messageId = none := not_not.mp (hw.2.1 rfl)
    have herase : fw.erase task.messageId = fw := by
      refine congrArg FileWorker.mk (funext fun n => ?_)
      split
      · rename_i e
        rw [e, hnone]
      · rfl
    exact safe_then_pure (send_calls gentle_send) (stable_const _) herase
  | transient => exact safe_turnedAway
  | found msg =>
    have hforeign : task.uid = 0 ∨ task.uid ≠ msg.senderUserId := .inr (hw.2.2 msg rfl ▸ huid)
    dsimp only
    cases msg.resource with
    | none => exact safe_turnedAway
    | some q => exact safe_ite (fun _ => safe_turnedAway) fun h => absurd hforeign h

/-- The time that is read has passed. -/
theorem safe_clock (hP : (foreignRules sha fmt t).Stable P) {w : World} (hw : P w) :
    (foreignRules sha fmt t).Safe (fun now w => P w ∧ now ≤ w.clock) (call .steadyNow)
      w := by
  have hquiet : (foreignRules sha fmt t).Quiet .steadyNow := quiet_of_gentle trivial
  refine safe_quiet hquiet hP hw (fun now => hP.and fun w w' h hr _ => Nat.le_trans h hr.2.1) ?_
  rintro w r w' _ hw' ⟨c, -, he⟩
  obtain ⟨rfl, rfl⟩ := he
  exact ⟨hw', Nat.le_refl _⟩

/-- The user of a connection, once it has one. -/
theorem safe_user (hP : (foreignRules sha fmt t).Stable P) {w : World} (hw : P w)
    {session : Nat} {uid : Int} (huid : uid ≠ 0) (hsession : (w.clients session).userId = uid) :
    (foreignRules sha fmt t).Safe (fun r w => P w ∧ r = uid) (call (.getUserId session))
      w := by
  have hquiet : (foreignRules sha fmt t).Quiet (.getUserId session) :=
    quiet_of_gentle trivial
  have hstable : (foreignRules sha fmt t).Stable fun w =>
      (w.clients session).userId = uid :=
    fun w w' h hr _ => (hr.2.2 session (h ▸ huid)).trans h
  refine safe_quiet hquiet (hP.and hstable) ⟨hw, hsession⟩ (fun _ => hP.and (stable_const _)) ?_
  rintro w r w' hw hw' ⟨c, -, he⟩
  simp only [exec, Option.some.injEq, Prod.mk.injEq] at he
  exact ⟨hw'.1, he.1.symm.trans hw.2⟩

theorem safe_foreignChunk {w : World} {task : ChunkTask} {uid : Int} (huid : uid ≠ 0)
    (hsession : (w.clients task.session).userId = uid) (hforeign : uid ≠ sender)
    (hw : Sender task.messageId sender w)
    (hs : ∀ s, fw.uploadSessions task.messageId = some s → s.senderUserId = sender) :
    (foreignRules sha fmt t).Safe (Aged fw) (handleResourceChunk task fw) w := by
  have hstable : (foreignRules sha fmt t).Stable fun w =>
      Sender task.messageId sender w ∧ (w.clients task.session).userId = uid :=
    (stable_sender _ _).and fun w w' h hr _ => (hr.2.2 _ (h ▸ huid)).trans h
  refine safe_next (gentle_call trivial) hstable ⟨hw, hsession⟩ fun _ w hw =>
    safe_ite (fun _ => ?_) fun _ => safe_pure (stable_aged _ _) fun _ => .inl rfl
  refine (safe_clock hstable hw).bind fun now w hw => ?_
  have haged : Aged fw (fw.evictIdle now) w := aged_evictIdle hw.2 fw
  have hP : (foreignRules sha fmt t).Stable fun w =>
      Sender task.messageId sender w ∧ Aged fw (fw.evictIdle now) w :=
    (stable_sender _ _).and (stable_aged _ _)
  refine (safe_user hP ⟨hw.1.1, haged⟩ huid hw.1.2).bind fun r w hw => ?_
  have hr : r = uid := hw.2
  refine safe_next (gentle_call trivial) hP hw.1 fun _ w hw => ?_
  unfold FileWorker.findUploadSession
  cases hfind : (fw.evictIdle now).uploadSessions task.messageId with
  | none =>
    refine (safe_lookup hP hw (fun _ h => h.1) fun _ _ => False.elim).bind
      fun found w hw => ?_
    cases found with
    | notFound | transient => exact safe_then_pure (send_calls gentle_send) (stable_aged _ _) hw.1.2
    | found msg =>
      have hother : r = 0 ∨ r ≠ msg.senderUserId := by
        rw [hr, hw.2.2 msg rfl]
        exact .inr hforeign
      exact safe_ite (fun _ => safe_then_pure (send_calls gentle_send) (stable_aged _ _) hw.1.2)
        fun h => absurd hother h
  | some s =>
    have hold : fw.uploadSessions task.messageId = some s :=
      (Option.filter_eq_some_iff.mp hfind).1
    refine safe_bind ((safe_clock hP hw).bind fun now' w hw =>
      safe_pure stable_safe ?_)
    have hother : r = 0 ∨ r ≠ s.senderUserId := by
      rw [hr, hs s hold]
      exact .inr hforeign
    refine safe_ite (fun _ => safe_then_pure (send_calls gentle_send) (stable_aged _ _)
      fun n => ?_) fun h => absurd hother h
    show (if n = task.messageId then _ else _) = _ ∨ _
    split
    · rename_i e
      exact .inr ⟨s, now', hw.2, e ▸ hold, .inl (if_pos e)⟩
    · rename_i e
      have hput : ((fw.evictIdle now).put task.messageId
        { s with lastActive := now' }).uploadSessions n = (fw.evictIdle now).uploadSessions n :=
        if_neg e
      rw [hput]
      exact hw.1.2 n

end Foreign

/-- A request for message `m` of somebody who is not its sender, and what the
sessions are like after it. -/
inductive Foreign (w : World) (m sender : Int) (fw : FileWorker) :
    Prog FileWorker → (FileWorker → World → Prop) → Prop
  | chunk (task : ChunkTask) (hm : task.messageId = m)
      (huser : (w.clients task.session).userId ≠ 0)
      (hother : (w.clients task.session).userId ≠ sender) :
      Foreign w m sender fw (handleResourceChunk task fw) (Aged fw)
  | progress (task : ProgressTask) (hm : task.messageId = m) (hother : task.uid ≠ sender) :
      Foreign w m sender fw (handleResourceUploadProgress task fw) fun fw' _ => fw' = fw
  | proof (task : ProofTask) (hm : task.messageId = m) (hother : task.uid ≠ sender) :
      Foreign w m sender fw (handleInstantProof task fw) fun fw' _ => fw' = fw

/-- A message that has a session is found. -/
theorem known_of_row {w : World} {h : String} {sender : Int} (hdb : w.db.Consistent)
    (hsender : Sender m sender w) (hrow : Row m h w) : Known m w := by
  obtain ⟨row, hmem, rfl, -⟩ := hsender
  obtain ⟨r, hr, -⟩ := hrow
  obtain ⟨pc, hpc, -⟩ := hdb.logged row hmem
  refine ⟨hdb, ?_⟩
  simp [Db.resourceMessage, hdb.toKeyed.chatMessage hmem, hpc.1, hr]

theorem Licensed.mono {was was' : World → Prop} {w : World} (h : Licensed sha was m w)
    (hwas : ∀ v, was v → was' v) : Licensed sha was' m w := by
  rcases h with h | h
  · exact .inl h
  · obtain ⟨session, uid, proof, nonce, offset, length, issued, time, l, rest, r, data, v, hJ,
      hleaves, hunchecked, htime, hzero, hsender, hpos, hmax, hr, hle, hv, hrest⟩ := h
    exact .inr ⟨session, uid, proof, nonce, offset, length, issued, time, l, rest, r, data, v, hJ,
      hleaves, hunchecked, htime, hzero, hsender, hpos, hmax, hr, hle, hwas v hv, hrest⟩

/-- **Requests of others are harmless.**  While a worker serves a request of
somebody who is not the sender, it does not touch the disk, and in the end the
sessions are as they were, but for their age after a 1505. -/
theorem safe_foreign {w : World} {sender : Int} {post : FileWorker → World → Prop}
    (hsender : Sender m sender w)
    (hs : ∀ s, fw.uploadSessions m = some s → s.senderUserId = sender ∧ Known m w)
    (hp : Foreign w m sender fw p post) :
    (foreignRules sha fmt t).Safe post p w := by
  cases hp with
  | chunk task hm huser hother =>
    subst hm
    exact safe_foreignChunk huser rfl hother hsender fun s h => (hs s h).1
  | progress task hm hother =>
    subst hm
    exact safe_foreignProgress hsender hother
  | proof task hm hother =>
    subst hm
    refine safe_foreignProof hsender hother fun hsome => ?_
    obtain ⟨s, h⟩ := Option.ne_none_iff_exists'.mp hsome
    exact (hs s h).2

/-- While the thread serves the request it changes nothing on disk, and at the end
the table is as `post` says. -/
def Unharmed (S : System Op Res World Thread) (t : Thread) (post : S.Local t → World → Prop)
    (c : Config S) : Prop :=
  (∀ op k r w, c.prog t = .call op k → S.sem t op c.world r w → w.disk = c.world.disk) ∧
    ∀ fw, c.prog t = .pure fw → post fw c.world

theorem unharmed_of_safe {c : Config (server sha fmt anything)} {post : Local t → World → Prop}
    (h : (foreignRules sha fmt t).Safe post (c.prog t) c.world)
    (hinv : c.world.db.Consistent) : Unharmed (server sha fmt anything) t post c := by
  have hrefl := (foreignRules sha fmt t).rely_refl c.world
  refine ⟨fun op k r w hprog hs => ?_, fun fw hprog => ?_⟩
  · rw [hprog] at h
    exact (h c.world hrefl hinv r w hs).1
  · rw [hprog] at h
    exact h c.world hrefl hinv

/-- **The instant proof is sound.**  In every run:
a publication is started for an accepted chunk or for a proof that answers, in
time and on the connection it was sent to, a challenge that nothing has spoilt;
a challenge is compared at most once, and at most one comparison fails in a
session; requests of other users are harmless. -/
theorem instant_proof_sound {c : Config (server sha fmt anything)} (h : Run sha fmt anything c) :
    (∀ t m sender attempt k,
      c.prog t = .call (.dao (.completeResourceUpload m sender) attempt) k →
        Licensed sha (Passed _ ((server sha fmt anything).boot {}) c) m c.world) ∧
    (∀ m, Separated Compared Issued (c.world.journal m) ∧
      Separated Failed Loaded (c.world.journal m)) ∧
    ∀ i fw m sender p post c', c.prog (.fileWorker i) = .pure fw → Sender m sender c.world →
      Foreign c.world m sender fw p post →
      During _ (.fileWorker i) ⟨c.world, Function.update c.prog (.fileWorker i) p⟩ c' →
        Unharmed _ (.fileWorker i) post c' := by
  obtain ⟨past, hpast, hok⟩ := run_ok h
  have hgc := publish_boot.steps publish_verified h
  refine ⟨fun t m sender attempt k hprog => ?_, fun m => ⟨hok.1.compared m, hok.1.failed m⟩,
    fun i fw m sender p post c' hrest hsender hforeign hd => ?_⟩
  · have hgc' := hgc.guar publish_verified hprog ⟨{}, trivial, rfl⟩
    have hguar := hok.guar challenge_verified hprog (w := ⟨_, fun v => past v ∨ v = _⟩)
      ⟨⟨⟨{}, trivial, rfl⟩, hgc'⟩, rfl⟩
    exact Licensed.mono hguar.2 hpast
  · have hworker : WorkerOk (.fileWorker i) fw ⟨c.world, past⟩ :=
      hok.rest challenge_verified (t := .fileWorker i) hrest
    have hrows : Rows fw c.world := hgc.rest publish_verified (t := .fileWorker i) hrest
    have hs : ∀ s, fw.uploadSessions m = some s → s.senderUserId = sender ∧ Known m c.world := by
      intro s hs
      have hsession := (hworker.1 m (hworker.2 m s hs) s hs).sender
      exact ⟨hsession.unique hok.1.consistent hsender,
        known_of_row hok.1.consistent hsender (hrows m s hs)⟩
    have hsafe : (foreignRules sha fmt (.fileWorker i)).Safe post
        ((⟨c.world, Function.update c.prog (.fileWorker i) p⟩ :
          Config (server sha fmt anything)).prog (.fileWorker i)) c.world := by
      rw [Config.prog_update]
      exact safe_foreign hsender hs hforeign
    have hothers : ∀ t' op w r w', t' ≠ .fileWorker i → w.db.Consistent →
        (server sha fmt anything).sem t' op w r w' →
        w'.db.Consistent ∧ (foreignRules sha fmt (.fileWorker i)).rely w w' := by
      rintro t' op w r w' - hinv ⟨choice, -, he⟩
      exact foreignRely_of_exec he hinv
    obtain ⟨hsafe', hinv'⟩ := hsafe.during rfl hothers
      (fun _ _ hinv henv => foreignRely_of_outside henv hinv) hok.1.consistent hd
    exact unharmed_of_safe hsafe' hinv'

/-! ### A small installation -/

/-- The first user sends the same content once more, as message 2. -/
def announcedAgain : Call :=
  .addChatMsg .dealCreateResourceMsg 2
    { threadId := 1
      senderUserId := 1
      clientMessageId := "k2"
      messageType := chatMsgFile
      createdAt := "2026-08-30 12:05:00"
      resource := some
        { originalFileName := "b.txt"
          fileSizeBytes := 3
          sha256 := paddedHex [1, 2, 3]
          mimeType := "text/plain" } }

/-- The worker of message 2. -/
def challenger : Thread := .fileWorker ⟨2, by decide⟩

/-- Random bytes, and nothing fails. -/
def withRandom : Op → Choice
  | .randomBytes n => { bytes := List.replicate n 7 }
  | _ => {}

/-- The lookup of a message fails. -/
def withoutLookup : Op → Choice
  | .getChatMsgById _ => { fails := true }
  | _ => {}

/-- The proof that the challenge for message 2 asks for. -/
def rightProof : ProofTask := ⟨1, 1, 2, paddedHex (List.replicate 16 7 ++ [1, 2, 3])⟩

/-- A chunk for message 2 from the second user, on connection 2. -/
def foreignChunk : ChunkTask := ⟨2, 2, 0, paddedHex [1, 2, 3], [1, 2, 3]⟩

/-- A task of the worker of message 2. -/
def serveWith (choose : Op → Choice) (p : Prog FileWorker) (w : World) :
    Option (FileWorker × World) :=
  p.runAll (fun op w => exec paddedHex challenger op (choose op) w) w

/-- The part of it before a call; nothing fails. -/
def serveTo (stop : Op → Bool) (p : Prog FileWorker) (w : World) :
    Option (Prog FileWorker × World) :=
  p.runTo (fun op w => exec paddedHex challenger op {} w) stop w

def isLock : Op → Bool
  | .lock => true
  | _ => false

def isPublish : Op → Bool
  | .dao (.completeResourceUpload _ _) _ => true
  | _ => false

/-- The message whose publish transaction is the next call of a program. -/
def publishing : Prog FileWorker → Option (Int × Int)
  | .call (.dao (.completeResourceUpload m sender) _) _ => some (m, sender)
  | _ => none

/-- Message 1 is uploaded, message 2 is announced and the second user logs in; the sender
of message 2 gets a challenge. -/
def challenged : Option (FileWorker × World) := do
  let (_, w) ← uploaded
  serveWith withRandom (handleResourceUploadProgress ⟨1, 1, 2⟩ {})
    { w with
      db := (announcedAgain.turn 0 (some []) w.db).1
      clients := fun s => if s = 2 then { w.clients s with userId := 2 } else w.clients s }

/-- A minute later the second user sends a chunk for message 2. -/
def intruded (fw : FileWorker) (w : World) : Option (FileWorker × World) :=
  serveWith (fun _ => {}) (handleResourceChunk foreignChunk fw) { w with clock := w.clock + 60 }

/-- The sender proves the content: first while the database cannot be reached, and then
again; this time the mutex is free after another 61 seconds. -/
def provedLate (fw : FileWorker) (w : World) : Option (Prog FileWorker × World) := do
  let (fw, w) ← serveWith withoutLookup (handleInstantProof rightProof fw) w
  let (p, w) ← serveTo isLock (handleInstantProof rightProof fw) w
  serveTo isPublish p { w with clock := w.clock + 61 }

/-- What has happened to message 2 then. -/
def provedJournal : List Event :=
  [.sessionLoaded, .challengeIssued 1 (List.replicate 16 7) 0 3 0, .chunkRequest 2 2,
    .proofRequest 1 1 rightProof.proof, .proofRequest 1 1 rightProof.proof, .proofChecked 1 60,
    .proofCompared 1 true]

/-- The last use of the session of message 2. -/
def lastActive (fw : FileWorker) : Option Nat := (fw.uploadSessions 2).map (·.lastActive)

theorem provedLate_journal :
    (challenged.bind fun x => (intruded x.1 x.2).bind fun y => (provedLate y.1 y.2).map fun z =>
      ((lastActive x.1, lastActive y.1), publishing z.1, z.2.clock, z.2.journal 2)) =
      some ((some 0, some 60), some (2, 1), 121, provedJournal) := by decide +kernel

/-- The second user is not logged in when message 1 is uploaded. -/
theorem uploaded_client :
    (uploaded.map fun x => ((x.2.clients 2).isOpen, (x.2.clients 2).userId)) =
      some (true, 0) := by decide +kernel

section Serve

variable {c : Config (server paddedHex fmt anything)}

theorem steps_serveWith {choose : Op → Choice} {p : Prog FileWorker}
    (hp : c.prog challenger = p) {fw : FileWorker} {w : World}
    (hrun : serveWith choose p c.world = some (fw, w)) :
    Conc.Steps _ c ⟨w, Function.update c.prog challenger (.pure fw)⟩ :=
  steps_of_runAll (S := server paddedHex fmt anything) (t := challenger)
    (fun _ _ _ _ he => ⟨_, trivial, he⟩) hrun hp

theorem steps_serveTo {stop : Op → Bool} {p p' : Prog FileWorker} (hp : c.prog challenger = p)
    {w : World} (hrun : serveTo stop p c.world = some (p', w)) :
    Conc.Steps _ c ⟨w, Function.update c.prog challenger p'⟩ :=
  steps_of_runTo (S := server paddedHex fmt anything) (t := challenger)
    (fun _ _ _ _ he => ⟨_, trivial, he⟩) hrun hp

/-- The tasks of message 2 belong to its worker. -/
theorem steps_task {fw : FileWorker} (hrest : c.prog challenger = .pure fw)
    (hp : Task fmt challenger fw p) {choose : Op → Choice} {fw' : FileWorker} {w : World}
    (hrun : serveWith choose p c.world = some (fw', w)) :
    Conc.Steps _ c ⟨w, Function.update c.prog challenger (.pure fw')⟩ :=
  steps_serve hrest hp (fun _ _ => trivial) hrun

/-- A proof that has to wait for the mutex. -/
theorem steps_provedLate {fw : FileWorker} (hrest : c.prog challenger = .pure fw)
    {x : Prog FileWorker × World} (hrun : provedLate fw c.world = some x) :
    ∃ c', Conc.Steps _ c c' ∧ c'.prog challenger = x.1 ∧ c'.world = x.2 := by
  simp only [provedLate, Option.bind_eq_bind, Option.bind_eq_some_iff] at hrun
  obtain ⟨⟨fw₁, w₁⟩, h₁, ⟨p, w₂⟩, h₂, h₃⟩ := hrun
  have hfirst := steps_task hrest (.proof ⟨2, by decide⟩ fw rightProof rfl) h₁
  have hstart := hfirst.tail (.start challenger fw₁ _ (Config.prog_update _ _ _ _)
    (.proof ⟨2, by decide⟩ fw₁ rightProof rfl))
  have hlock := hstart.trans (steps_serveTo (Config.prog_update _ _ _ _) h₂)
  have hpublish := (hlock.tail (.env _ (.tick 61))).trans
    (steps_serveTo (Config.prog_update _ _ _ _) h₃)
  exact ⟨_, hpublish, Config.prog_update _ _ _ _, rfl⟩

end Serve

theorem run_challenged {x : FileWorker × World} (h : challenged = some x) :
    ∃ c, Run paddedHex (fun _ => "") anything c ∧ c.prog challenger = .pure x.1 ∧
      c.world = x.2 := by
  simp only [challenged, Option.bind_eq_bind, Option.bind_eq_some_iff] at h
  obtain ⟨⟨fw₁, w₁⟩, h₁, h₂⟩ := h
  have hclient := uploaded_client
  rw [h₁, Option.map_some, Option.some.injEq, Prod.mk.injEq] at hclient
  have hup := run_onlyChunk (fun _ => "") anything (fun _ _ => trivial) h₁
  have hannounced := hup.outside (.chat announcedAgain trivial 0 (some []))
  have hlogin := hannounced.outside (.login 2 2 (by decide) hclient.1 hclient.2)
  have hidle : (Function.update ((server paddedHex (fun _ => "") anything).boot
      beforeUpload).prog uploader (.pure fw₁)) challenger = .pure {} :=
    Function.update_of_ne (by decide) _ _
  refine ⟨_, hlogin.trans (steps_task ?_ (.progress ⟨2, by decide⟩ {} ⟨1, 1, 2⟩ rfl) h₂),
    Config.prog_update _ _ _ _, rfl⟩
  exact hidle

theorem publishing_eq {p : Prog FileWorker} {m sender : Int}
    (h : publishing p = some (m, sender)) :
    ∃ attempt k, p = .call (.dao (.completeResourceUpload m sender) attempt) k := by
  unfold publishing at h
  split at h
  · cases h
    exact ⟨_, _, rfl⟩
  · cases h

/-- A run of the small installation: `c` before the chunk of the second user, `c'` after it,
and `c''` when the publish transaction is about to start. -/
structure ProvedLate (c c' c'' : Config (server paddedHex (fun _ => "") anything)) : Prop where
  run : Run paddedHex (fun _ => "") anything c
  /-- the chunk changes the session of the sender -/
  chunk : ∃ fw fw', c.prog challenger = .pure fw ∧ c'.prog challenger = .pure fw' ∧
    Conc.Steps _ ⟨c.world, Function.update c.prog challenger (handleResourceChunk foreignChunk fw)⟩
      c' ∧ lastActive fw = some 0 ∧ lastActive fw' = some 60
  steps : Conc.Steps _ c' c''
  publish : ∃ attempt k,
    c''.prog challenger = .call (.dao (.completeResourceUpload 2 1) attempt) k
  clock : c''.world.clock = 121
  journal : c''.world.journal 2 = provedJournal

theorem exists_provedLate : ∃ c c' c'', ProvedLate c c' c'' := by
  obtain ⟨⟨fw, w⟩, hchallenged, hfields⟩ := Option.bind_eq_some_iff.mp provedLate_journal
  obtain ⟨⟨fw', w'⟩, hintruded, hfields⟩ := Option.bind_eq_some_iff.mp hfields
  obtain ⟨⟨p, w''⟩, hproved, hfields⟩ := Option.map_eq_some_iff.mp hfields
  simp only [Prod.mk.injEq] at hfields
  obtain ⟨⟨hbefore, hafter⟩, hpublish, hclock, hjournal⟩ := hfields
  obtain ⟨c, hrun, hrest, rfl⟩ := run_challenged hchallenged
  have hchunk := steps_serveWith
    (c := ⟨{ c.world with clock := c.world.clock + 60 },
      Function.update c.prog challenger (handleResourceChunk foreignChunk fw)⟩)
    (Config.prog_update _ _ _ _) hintruded
  obtain ⟨c'', hsteps, hprog, rfl⟩ := steps_provedLate
    (c := ⟨w', Function.update (Function.update c.prog challenger
      (handleResourceChunk foreignChunk fw)) challenger (.pure fw')⟩)
    (Config.prog_update _ _ _ _) hproved
  obtain ⟨attempt, k, hp⟩ := publishing_eq hpublish
  exact ⟨⟨_, c.prog⟩, _, c'', hrun.outside (.tick 60), ⟨fw, fw', hrest,
    Config.prog_update _ _ _ _, hchunk, hbefore, hafter⟩, hsteps, ⟨attempt, k, hprog.trans hp⟩,
    hclock, hjournal⟩

/-- **What the proof of a challenge does not rule out.**  A chunk of another user refreshes
the session; a proof that finds no database does not use the challenge up; and as the age of
the challenge is looked at before the mutex is waited for, the publish transaction starts 121
seconds after the issue. -/
theorem instant_proof_after_attempt :
    (∃ c c' c'', ProvedLate c c' c'') ∧ provedJournal = [.sessionLoaded] ++
      .challengeIssued 1 (List.replicate 16 7) 0 3 0 ::
        ([.chunkRequest 2 2, .proofRequest 1 1 rightProof.proof] ++
          [.proofRequest 1 1 rightProof.proof, .proofChecked 1 60, .proofCompared 1 true]) :=
  ⟨exists_provedLate, rfl⟩

/-- The theorem speaks of that run. -/
theorem instant_proof_sound_provedTwice :
    ∃ c : Config (server paddedHex (fun _ => "") anything), Run paddedHex (fun _ => "") anything c ∧
      c.world.journal 2 = provedJournal ∧
      Licensed paddedHex (Passed _ ((server paddedHex (fun _ => "") anything).boot {}) c) 2
        c.world ∧
      Separated Compared Issued (c.world.journal 2) ∧
      Separated Failed Loaded (c.world.journal 2) := by
  obtain ⟨c, c', c'', hrun, ⟨fw, fw', hrest, -, hchunk, -⟩, hsteps, ⟨attempt, k, hprog⟩, -,
    hjournal⟩ := exists_provedLate
  have hrun'' : Run paddedHex (fun _ => "") anything c'' :=
    (Relation.ReflTransGen.tail hrun (.start challenger fw _ hrest
      (.chunk ⟨2, by decide⟩ fw foreignChunk rfl))).trans (hchunk.trans hsteps)
  have hsound := instant_proof_sound hrun''
  exact ⟨c'', hrun'', hjournal, hsound.1 challenger 2 1 attempt k hprog, hsound.2.1 2⟩

end LlfcChat.Resource.Challenge

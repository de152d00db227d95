/-
The answer to a login comes before everything that other threads send to the session.

`LoginHandler` makes the session known to `UserMgr` in the middle of its work, and its
answer leaves by a scope guard at the end.  From the moment it is known, others may find
the session and send to it.  But everyone who does so is a task of the worker of the same
uid, and that worker is still at the login: whoever finds the session on the way finds it
answered.

The invariant says just that: a session in `UserMgr` has its answer, or the worker of its
uid is about to give it.
-/
import Mathlib

namespace LlfcChat.LoginFirst

/-! ### Sessions -/

/-- What is passed to `Send` or `SendAndClose`. -/
inductive Frame
  /-- 1102 with success, of the login that bound the session to this uid -/
  | loginOk (uid : Int)
  /-- 1102 with an error -/
  | loginError
  /-- 1701 -/
  | userMessage
  /-- the offline notice -/
  | offline
  /-- an answer to another request -/
  | reply
  deriving DecidableEq

/-- The frames that others than the session's own requests cause. -/
def Frame.Announces : Frame → Prop
  | .userMessage => True
  | .offline => True
  | _ => False

/-- `CSession`.  `passed` are the frames of the calls of `Send` and `SendAndClose` in their
order, each with whether the call closes; `executed` is how many of the posted closures
the IO thread has run, and `queued` the numbers of those that put their frame into the
queue. -/
structure Session where
  routingUid : Int := 0
  userUid : Int := 0
  isOpen : Bool := true
  passed : List (Frame × Bool) := []
  executed : Nat := 0
  queued : List Nat := []

/-! ### Tasks -/

inductive Request
  | login (uid : Int)
  | other
  deriving DecidableEq

/-- The closures that are posted to the logic workers. -/
inductive Task
  /-- `DispatchClientMessage` -/
  | message (s : Nat) (request : Request)
  /-- the closure of `DeliverUserEvent` -/
  | deliver (uid : Int)
  /-- the closure of `NotifyUserMessage` -/
  | notify (uid : Int)
  /-- the closure of `NotifyKickUser` -/
  | kick (uid : Int)
  /-- the closure of `Close` -/
  | cleanup (uid : Int) (s : Nat)

/-- Where a worker stands in a task: at its next access to what threads share. -/
inductive Act
  /-- at `IsOpen` of `DispatchClientMessage` -/
  | dispatch (s : Nat) (request : Request)
  /-- at `GetUserId` of `DispatchClientMessage` -/
  | check (s : Nat) (request : Request)
  /-- in `LoginHandler`, up to the lock -/
  | login (s : Nat) (uid : Int)
  /-- behind the lock, at the look for an older login -/
  | older (s : Nat) (uid : Int)
  /-- at `old_session->NotifyOffline` -/
  | kickOld (s : Nat) (uid : Int) (old : Nat)
  /-- at `TrySetUserId` -/
  | trySet (s : Nat) (uid : Int)
  /-- at `SetUserSession` -/
  | bind (s : Nat) (uid : Int)
  /-- at the scope guard -/
  | answer (s : Nat) (uid : Int)
  /-- in the handler of another request -/
  | business (s : Nat)
  /-- at `Send` of a 1701 -/
  | sendMessage (s : Nat)
  /-- at `NotifyOffline` of a kick -/
  | sendOffline (s : Nat)

/-- What the outside decides in a step: whether a check fails, where the older login is,
and what the handler of another request does. -/
inductive Choice
  | go
  | fail
  /-- `uip_` names this server -/
  | here
  | reply
  /-- `DeliverUserEvent` for a user of this server -/
  | deliver (uid : Int) (posted : Bool)

/-! ### The server -/

/-- The hash of a uid and the number of logic workers. -/
structure Config where
  hash : Int → Nat
  workers : Nat

/-- The worker of a uid. -/
def Config.home (cfg : Config) (uid : Int) : Nat := cfg.hash uid % cfg.workers

structure Sys where
  session : Nat → Session := fun _ => {}
  /-- `UserMgr` -/
  users : Int → Option Nat := fun _ => none
  queue : Nat → List Task := fun _ => []
  current : Nat → Option Act := fun _ => none

namespace Sys

def setSession (st : Sys) (s : Nat) (x : Session) : Sys :=
  { st with session := fun s' => if s' = s then x else st.session s' }

/-- A call of `Send`, or of `SendAndClose` if it closes. -/
def pass (st : Sys) (s : Nat) (frame : Frame) (closes : Bool) : Sys :=
  st.setSession s { st.session s with passed := (st.session s).passed ++ [(frame, closes)] }

/-- `Post` of a worker. -/
def post (st : Sys) (i : Nat) (task : Task) : Sys :=
  { st with queue := fun i' => if i' = i then st.queue i ++ [task] else st.queue i' }

def setAct (st : Sys) (i : Nat) (act : Option Act) : Sys :=
  { st with current := fun i' => if i' = i then act else st.current i' }

/-- `SetUserSession` -/
def setUserSession (st : Sys) (uid : Int) (s : Nat) : Sys :=
  { st with users := fun uid' => if uid' = uid then some s else st.users uid' }

/-- `RmvUserSession`: only if it is still this session's entry. -/
def rmvUserSession (st : Sys) (uid : Int) (s : Nat) : Sys :=
  { st with users := fun uid' =>
      if uid' = uid ∧ st.users uid = some s then none else st.users uid' }

/-! ### Steps of a worker -/

/-- The next task is taken from the front. -/
def begin (st : Sys) (i : Nat) (task : Task) : Sys :=
  match task with
  | .message s request => st.setAct i (some (.dispatch s request))
  | .deliver uid => match st.users uid with
    | none => st
    | some s => st.setAct i (some (.sendMessage s))
  | .notify uid => match st.users uid with
    | none => st
    | some s => st.setAct i (some (.sendMessage s))
  | .kick uid => match st.users uid with
    | none => st
    | some s => st.setAct i (some (.sendOffline s))
  | .cleanup uid s => st.rmvUserSession uid s

def take (st : Sys) (i : Nat) : Sys :=
  match st.queue i with
  | [] => st
  | task :: rest =>
    begin { st with queue := fun i' => if i' = i then rest else st.queue i' } i task

/-- `DispatchClientMessage` behind `IsOpen`. -/
def checkStep (st : Sys) (i s : Nat) : Request → Sys
  | .login uid =>
    if (st.session s).userUid ≠ 0 then (st.pass s .loginError true).setAct i none
    else st.setAct i (some (.login s uid))
  | .other =>
    if (st.session s).userUid = 0 ∨ (st.session s).userUid ≠ (st.session s).routingUid then
      (st.pass s .reply false).setAct i none
    else st.setAct i (some (.business s))

/-- The look for an older login, when the lock is held. -/
def olderStep (st : Sys) (i s : Nat) (uid : Int) : Sys :=
  match st.users uid with
  | none => st.setAct i (some (.trySet s uid))
  | some old =>
    if old ≠ s then st.setAct i (some (.kickOld s uid old))
    else st.setAct i (some (.trySet s uid))

/-- `TrySetUserId` and what follows from its result. -/
def trySetStep (st : Sys) (i s : Nat) (uid : Int) : Sys :=
  if uid ≤ 0 ∨ (st.session s).isOpen = false ∨ (st.session s).userUid ≠ 0 then
    (st.pass s .loginError false).setAct i none
  else (st.setSession s { st.session s with userUid := uid }).setAct i (some (.bind s uid))

/-- One access in the handler of another request. -/
def businessStep (cfg : Config) (st : Sys) (i s : Nat) : Choice → Sys
  | .reply => st.pass s .reply false
  | .deliver uid posted => if posted then st.post (cfg.home uid) (.deliver uid) else st
  | _ => st.setAct i none

/-- One step of a task. -/
def actStep (cfg : Config) (st : Sys) (i : Nat) (choice : Choice) : Act → Sys
  | .dispatch s request =>
    if (st.session s).isOpen then st.setAct i (some (.check s request)) else st.setAct i none
  | .check s request => st.checkStep i s request
  | .login s uid => match choice with
    | .fail => (st.pass s .loginError false).setAct i none
    | _ => st.setAct i (some (.older s uid))
  | .older s uid => match choice with
    -- the lock was not acquired
    | .fail => (st.pass s .loginError false).setAct i none
    | .here => st.olderStep i s uid
    -- no older login, or one at another server
    | _ => st.setAct i (some (.trySet s uid))
  | .kickOld s uid old => (st.pass old .offline true).setAct i (some (.trySet s uid))
  | .trySet s uid => st.trySetStep i s uid
  | .bind s uid => (st.setAct i (some (.answer s uid))).setUserSession uid s
  | .answer s uid => (st.pass s (.loginOk uid) false).setAct i none
  | .business s => st.businessStep cfg i s choice
  | .sendMessage s => match choice with
    -- the event is not in the database
    | .fail => st.setAct i none
    | _ => (st.pass s .userMessage false).setAct i none
  | .sendOffline s => (st.pass s .offline true).setAct i none

def workerStep (cfg : Config) (st : Sys) (i : Nat) (choice : Choice) : Sys :=
  match st.current i with
  | none => st.take i
  | some act => st.actStep cfg i choice act

/-! ### Steps of the other threads -/

/-- `BindRoutingUid`, and what follows if it succeeds. -/
def recvLogin (cfg : Config) (st : Sys) (s : Nat) (uid : Int) (posted : Bool) : Sys :=
  if uid ≤ 0 ∨ ((st.session s).routingUid ≠ 0 ∧ (st.session s).routingUid ≠ uid) then
    st.pass s .loginError true
  else
    let st' := st.setSession s { st.session s with routingUid := uid }
    if posted then st'.post (cfg.home uid) (.message s (.login uid))
    else st'.pass s .loginError true

/-- The rest of `AsyncReadBody`; `posted` is the result of `PostMsgToQue`. -/
def recv (cfg : Config) (st : Sys) (s : Nat) (request : Request) (posted : Bool) : Sys :=
  if (st.session s).isOpen = false then st
  else match request with
    | .login uid => st.recvLogin cfg s uid posted
    | .other =>
      if (st.session s).routingUid = 0 then st
      else if posted then st.post (cfg.home (st.session s).routingUid) (.message s .other)
      else st.pass s .reply true

/-- `Close`; where the cleanup is not taken it is run at once. -/
def close (cfg : Config) (st : Sys) (s : Nat) (posted : Bool) : Sys :=
  let uid := (st.session s).userUid
  let st' := st.setSession s { st.session s with isOpen := false }
  if 0 < uid then
    if posted then st'.post (cfg.home uid) (.cleanup uid s) else st'.rmvUserSession uid s
  else st'

/-- `NotifyUserMessage` and `NotifyKickUser`: a user who is not here is refused. -/
def rpc (cfg : Config) (st : Sys) (uid : Int) (task : Task) (posted : Bool) : Sys :=
  if (st.users uid).isSome ∧ posted then st.post (cfg.home uid) task else st

/-- The IO thread runs the next closure that was posted for the session; `room` is
whether the checks on the payload and the queue pass. -/
def io (st : Sys) (s : Nat) (room : Bool) : Sys :=
  let x := st.session s
  match x.passed[x.executed]? with
  | none => st
  | some (_, closes) =>
    st.setSession s { x with
      executed := x.executed + 1
      queued := if x.isOpen ∧ room then x.queued ++ [x.executed] else x.queued
      isOpen := x.isOpen && !closes }

end Sys

inductive Event
  | recv (s : Nat) (request : Request) (posted : Bool)
  | close (s : Nat) (posted : Bool)
  | notifyUserMessage (uid : Int) (posted : Bool)
  | notifyKickUser (uid : Int) (posted : Bool)
  | worker (i : Nat) (choice : Choice)
  | io (s : Nat) (room : Bool)

def step (cfg : Config) (st : Sys) : Event → Sys
  | .recv s request posted => st.recv cfg s request posted
  | .close s posted => st.close cfg s posted
  | .notifyUserMessage uid posted => st.rpc cfg uid (.notify uid) posted
  | .notifyKickUser uid posted => st.rpc cfg uid (.kick uid) posted
  | .worker i choice => st.workerStep cfg i choice
  | .io s room => st.io s room

def run (cfg : Config) (es : List Event) : Sys := es.foldl (step cfg) {}

/-! ### What holds of one session -/

namespace Session

/-- The session is bound to this user. -/
def Bound (x : Session) (uid : Int) : Prop := x.userUid = uid ∧ uid ≠ 0

/-- The answer of its login has been passed on. -/
def Answered (x : Session) : Prop := ∃ uid closes, (Frame.loginOk uid, closes) ∈ x.passed

structure Ok (x : Session) : Prop where
  bound : ∀ uid closes, (Frame.loginOk uid, closes) ∈ x.passed → x.Bound uid
  order : ∀ (i : Nat) (frame : Frame) closes, x.passed[i]? = some (frame, closes) →
    frame.Announces → ∃ j < i, ∃ uid closes', x.passed[j]? = some (Frame.loginOk uid, closes')
  executed : x.executed ≤ x.passed.length
  queued : x.queued.Pairwise (· < ·) ∧ ∀ i ∈ x.queued, i < x.executed

/-- What never goes back: a user and what was passed on. -/
structure Le (x y : Session) : Prop where
  bound : ∀ uid, x.Bound uid → y.Bound uid
  passed : ∀ e ∈ x.passed, e ∈ y.passed

theorem Le.refl (x : Session) : x.Le x := ⟨fun _ h => h, fun _ h => h⟩

theorem Answered.le {x y : Session} (h : x.Answered) (hle : x.Le y) : y.Answered := by
  obtain ⟨uid, closes, hmem⟩ := h
  exact ⟨uid, closes, hle.passed _ hmem⟩

theorem Ok.pass {x : Session} (h : x.Ok) {frame : Frame} (closes : Bool)
    (hannounces : frame.Announces → x.Answered)
    (hlogin : ∀ uid, frame = .loginOk uid → x.Bound uid) :
    Ok { x with passed := x.passed ++ [(frame, closes)] } where
  bound uid closes' hmem := by
    rcases List.mem_append.mp hmem with hmem | hmem
    · exact h.bound uid closes' hmem
    · obtain ⟨e, -⟩ := Prod.mk.injEq .. ▸ List.mem_singleton.mp hmem
      exact hlogin uid e.symm
  order i frame' closes' hi hframe := by
    have hold : ∀ {j : Nat} {e : Frame × Bool}, x.passed[j]? = some e →
        (x.passed ++ [(frame, closes)])[j]? = some e := by
      intro j e hj
      obtain ⟨hlt, -⟩ := List.getElem?_eq_some_iff.mp hj
      rwa [List.getElem?_append_left hlt]
    by_cases hlt : i < x.passed.length
    · rw [List.getElem?_append_left hlt] at hi
      obtain ⟨j, hj, uid, c, hlogin'⟩ := h.order i frame' closes' hi hframe
      exact ⟨j, hj, uid, c, hold hlogin'⟩
    · -- the new frame: the answer is among the old ones
      obtain ⟨hi', hget⟩ := List.getElem?_eq_some_iff.mp hi
      rw [List.length_append, List.length_singleton] at hi'
      obtain rfl : i = x.passed.length := by omega
      rw [List.getElem_append_right (Nat.le_refl _)] at hget
      obtain ⟨rfl, -⟩ : frame = frame' ∧ closes = closes' := by simpa using hget
      obtain ⟨uid, c, hmem⟩ := hannounces hframe
      obtain ⟨j, hj, hjget⟩ := List.mem_iff_getElem.mp hmem
      exact ⟨j, hj, uid, c, hold (List.getElem?_eq_some_iff.mpr ⟨hj, hjget⟩)⟩
  executed := by
    rw [List.length_append]
    exact Nat.le_trans h.executed (Nat.le_add_right _ _)
  queued := h.queued

end Session

/-! ### What holds of the server -/

/-- A task stands in the queue of its worker. -/
def Task.At (cfg : Config) (i : Nat) : Task → Prop
  | .message _ (.login uid) => cfg.home uid = i
  | .message _ .other => True
  | .deliver uid => cfg.home uid = i
  | .notify uid => cfg.home uid = i
  | .kick uid => cfg.home uid = i
  | .cleanup _ _ => True

/-- Where a worker stands is its place, and who is to be told of something has had the
answer. -/
def Act.At (cfg : Config) (st : Sys) (i : Nat) : Act → Prop
  | .dispatch s request => (Task.message s request).At cfg i
  | .check s request => (Task.message s request).At cfg i
  | .login _ uid => cfg.home uid = i
  | .older _ uid => cfg.home uid = i
  | .kickOld _ uid old => cfg.home uid = i ∧ (st.session old).Answered
  | .trySet _ uid => cfg.home uid = i
  | .bind s uid => cfg.home uid = i ∧ (st.session s).Bound uid
  | .answer s uid => cfg.home uid = i ∧ (st.session s).Bound uid
  | .business _ => True
  | .sendMessage s => (st.session s).Answered
  | .sendOffline s => (st.session s).Answered

structure Sound (cfg : Config) (st : Sys) : Prop where
  sessions : ∀ s, (st.session s).Ok
  tasks : ∀ i, ∀ task ∈ st.queue i, task.At cfg i
  acts : ∀ i act, st.current i = some act → act.At cfg st i
  users : ∀ uid s, st.users uid = some s → (st.session s).Bound uid ∧
    ((st.session s).Answered ∨ st.current (cfg.home uid) = some (.answer s uid))

variable {cfg : Config} {st : Sys}

theorem Act.At.le {st' : Sys} (hle : ∀ s, (st.session s).Le (st'.session s)) {i : Nat} {act : Act}
    (h : act.At cfg st i) : act.At cfg st' i := by
  cases act with
  | dispatch s request | check s request | login s uid | older s uid | trySet s uid => exact h
  | kickOld s uid old => exact ⟨h.1, h.2.le (hle old)⟩
  | bind s uid | answer s uid => exact ⟨h.1, (hle s).bound uid h.2⟩
  | business s => trivial
  | sendMessage s | sendOffline s => exact Session.Answered.le h (hle s)

namespace Sound

section

variable (h : Sound cfg st)

include h

/-- **A worker that is not at an answer** finds every user of its own answered. -/
theorem answered {uid : Int} {s : Nat} (hs : st.users uid = some s)
    (hidle : st.current (cfg.home uid) ≠ some (.answer s uid)) : (st.session s).Answered :=
  (h.users uid s hs).2.resolve_right hidle

theorem setSession {s : Nat} {x : Session} (hle : (st.session s).Le x) (hok : x.Ok) :
    Sound cfg (st.setSession s x) := by
  have hall : ∀ s', (st.session s').Le ((st.setSession s x).session s') := by
    intro s'
    show (st.session s').Le (if s' = s then x else st.session s')
    split
    · next he => exact he ▸ hle
    · exact .refl _
  refine ⟨fun s' => ?_, h.tasks, fun i act hact => (h.acts i act hact).le hall, ?_⟩
  · show (if s' = s then x else st.session s').Ok
    split
    · exact hok
    · exact h.sessions s'
  · intro uid s' hs'
    obtain ⟨hbound, hanswer⟩ := h.users uid s' hs'
    exact ⟨(hall s').bound uid hbound, hanswer.imp_left fun ha => ha.le (hall s')⟩

theorem pass (s : Nat) {frame : Frame} (closes : Bool)
    (hannounces : frame.Announces → (st.session s).Answered)
    (hlogin : ∀ uid, frame = .loginOk uid → (st.session s).Bound uid) :
    Sound cfg (st.pass s frame closes) :=
  h.setSession ⟨fun _ hb => hb, fun _ he => List.mem_append_left _ he⟩
    ((h.sessions s).pass closes hannounces hlogin)

/-- A frame that anyone may pass on. -/
theorem passPlain (s : Nat) {frame : Frame} (closes : Bool)
    (hplain : frame = .loginError ∨ frame = .reply) : Sound cfg (st.pass s frame closes) := by
  refine h.pass s closes ?_ ?_
  · rcases hplain with rfl | rfl
    · exact False.elim
    · exact False.elim
  · rcases hplain with rfl | rfl
    · exact fun _ e => nomatch e
    · exact fun _ e => nomatch e

theorem post {i : Nat} {task : Task} (hat : task.At cfg i) : Sound cfg (st.post i task) := by
  refine ⟨h.sessions, fun i' task' htask => ?_, h.acts, h.users⟩
  have htask' : task' ∈ if i' = i then st.queue i ++ [task] else st.queue i' := htask
  split at htask'
  · next he =>
    subst he
    rcases List.mem_append.mp htask' with hold | hnew
    · exact h.tasks i' task' hold
    · exact List.mem_singleton.mp hnew ▸ hat
  · exact h.tasks i' task' htask'

/-- A worker goes on; if it was at an answer it has given it. -/
theorem setAct {i : Nat} {act : Option Act}
    (hdone : ∀ s uid, st.current i = some (.answer s uid) → (st.session s).Answered)
    (hat : ∀ a, act = some a → a.At cfg st i) : Sound cfg (st.setAct i act) := by
  refine ⟨h.sessions, h.tasks, fun i' a ha => ?_, fun uid s hs => ?_⟩
  · have ha' : (if i' = i then act else st.current i') = some a := ha
    split at ha'
    · next he => exact he ▸ hat a ha'
    · exact h.acts i' a ha'
  · obtain ⟨hbound, hanswer⟩ := h.users uid s hs
    refine ⟨hbound, hanswer.elim .inl fun hcurrent => ?_⟩
    by_cases he : cfg.home uid = i
    · exact .inl (hdone s uid (he ▸ hcurrent))
    · refine .inr ?_
      show (if cfg.home uid = i then act else st.current (cfg.home uid)) = _
      rw [if_neg he]
      exact hcurrent

theorem setUserSession {uid : Int} {s : Nat} (hbound : (st.session s).Bound uid)
    (hcurrent : st.current (cfg.home uid) = some (.answer s uid)) :
    Sound cfg (st.setUserSession uid s) := by
  refine ⟨h.sessions, h.tasks, h.acts, fun uid' s' hs' => ?_⟩
  have hs : (if uid' = uid then some s else st.users uid') = some s' := hs'
  split at hs
  · next he =>
    obtain rfl := Option.some.inj hs
    subst he
    exact ⟨hbound, .inr hcurrent⟩
  · exact h.users uid' s' hs

theorem rmvUserSession (uid : Int) (s : Nat) : Sound cfg (st.rmvUserSession uid s) := by
  refine ⟨h.sessions, h.tasks, h.acts, fun uid' s' hs' => ?_⟩
  have hs : (if uid' = uid ∧ st.users uid = some s then none else st.users uid') = some s' := hs'
  split at hs
  · exact nomatch hs
  · exact h.users uid' s' hs

end

end Sound

/-! ### Every step keeps it -/

/-- A worker that is not at an answer goes on with its task. -/
theorem Sound.goOn (h : Sound cfg st) {i : Nat} {old : Option Act} (hold : st.current i = old)
    (hne : ∀ s uid, old ≠ some (.answer s uid)) {a : Act} (ha : a.At cfg st i) :
    Sound cfg (st.setAct i (some a)) :=
  h.setAct (fun s uid e => absurd (hold ▸ e) (hne s uid)) fun _ e => Option.some.inj e ▸ ha

theorem Sound.finish (h : Sound cfg st) {i : Nat} {old : Option Act} (hold : st.current i = old)
    (hne : ∀ s uid, old ≠ some (.answer s uid)) : Sound cfg (st.setAct i none) :=
  h.setAct (fun s uid e => absurd (hold ▸ e) (hne s uid)) fun _ e => nomatch e

theorem begin_sound (h : Sound cfg st) {i : Nat} (hidle : st.current i = none) {task : Task}
    (hat : task.At cfg i) : Sound cfg (st.begin i task) := by
  -- a session that a task of this worker finds is answered: the worker is at nothing
  have hfound : ∀ {uid : Int} {s : Nat}, cfg.home uid = i → st.users uid = some s →
      (st.session s).Answered := by
    intro uid s hhome hs
    refine h.answered hs ?_
    rw [hhome, hidle]
    exact fun e => nomatch e
  have hgo : ∀ {a : Act}, a.At cfg st i → Sound cfg (st.setAct i (some a)) := by
    intro a ha
    exact h.goOn hidle nofun ha
  have htell : ∀ {uid : Int} {f : Nat → Act}, cfg.home uid = i →
      (∀ s, (st.session s).Answered → (f s).At cfg st i) →
      Sound cfg (match st.users uid with | none => st | some s => st.setAct i (some (f s))) := by
    intro uid f hhome hf
    cases hs : st.users uid with
    | none => exact h
    | some s => exact hgo (hf s (hfound hhome hs))
  cases task with
  | message s request => exact hgo hat
  | deliver uid | notify uid | kick uid => exact htell hat fun _ ha => ha
  | cleanup uid s => exact h.rmvUserSession uid s

theorem take_sound (h : Sound cfg st) {i : Nat} (hidle : st.current i = none) :
    Sound cfg (st.take i) := by
  unfold Sys.take
  split
  · exact h
  · next task rest hqueue =>
    have hmem : task ∈ st.queue i := hqueue ▸ List.mem_cons_self
    have hrest : Sound cfg { st with queue := fun i' => if i' = i then rest else st.queue i' } := by
      refine ⟨h.sessions, fun i' task' htask => ?_, h.acts, h.users⟩
      have htask' : task' ∈ if i' = i then rest else st.queue i' := htask
      split at htask'
      · next he =>
        subst he
        exact h.tasks i' task' (hqueue ▸ List.mem_cons_of_mem _ htask')
      · exact h.tasks i' task' htask'
    exact begin_sound hrest hidle (h.tasks i task hmem)

section Steps

variable {i s : Nat} {uid : Int}

theorem checkStep_sound (h : Sound cfg st) {request : Request}
    (hact : st.current i = some (.check s request)) : Sound cfg (st.checkStep i s request) := by
  have hat : (Task.message s request).At cfg i := h.acts i _ hact
  have hstop : ∀ {frame : Frame} {closes : Bool}, frame = .loginError ∨ frame = .reply →
      Sound cfg ((st.pass s frame closes).setAct i none) := by
    intro frame closes hplain
    exact (h.passPlain s closes hplain).finish hact nofun
  cases request with
  | login uid =>
    show Sound cfg (if _ then _ else _)
    split
    · exact hstop (.inl rfl)
    · exact h.goOn hact nofun hat
  | other =>
    show Sound cfg (if _ then _ else _)
    split
    · exact hstop (.inr rfl)
    · exact h.goOn hact nofun trivial

theorem olderStep_sound (h : Sound cfg st) (hact : st.current i = some (.older s uid)) :
    Sound cfg (st.olderStep i s uid) := by
  have hat : cfg.home uid = i := h.acts i _ hact
  have hgo : Sound cfg (st.setAct i (some (.trySet s uid))) :=
    h.goOn hact nofun hat
  unfold Sys.olderStep
  split
  · exact hgo
  · next old hold =>
    split
    · -- the older login is answered: this worker is not at an answer
      have hanswered : (st.session old).Answered := by
        refine h.answered hold ?_
        rw [hat, hact]
        exact fun e => nomatch e
      exact h.goOn hact nofun ⟨hat, hanswered⟩
    · exact hgo

theorem trySetStep_sound (h : Sound cfg st) (hact : st.current i = some (.trySet s uid)) :
    Sound cfg (st.trySetStep i s uid) := by
  have hat : cfg.home uid = i := h.acts i _ hact
  unfold Sys.trySetStep
  split
  · exact (h.passPlain s false (.inl rfl)).finish hact nofun
  · next hset =>
    obtain ⟨hpos, -, hfree⟩ : ¬uid ≤ 0 ∧ ¬(st.session s).isOpen = false ∧
        (st.session s).userUid = 0 := by
      refine ⟨fun e => hset (.inl e), fun e => hset (.inr (.inl e)), ?_⟩
      by_contra hne
      exact hset (.inr (.inr hne))
    have hunbound : ∀ u, ¬(st.session s).Bound u := fun u hb => hb.2 (hb.1.symm.trans hfree)
    have hok := h.sessions s
    have hsound : Sound cfg (st.setSession s { st.session s with userUid := uid }) :=
      h.setSession ⟨fun u hb => absurd hb (hunbound u), fun _ he => he⟩
        ⟨fun u c hmem => absurd (hok.bound u c hmem) (hunbound u), hok.order, hok.executed,
          hok.queued⟩
    refine hsound.goOn hact nofun ⟨hat, ?_⟩
    show (if s = s then { st.session s with userUid := uid } else st.session s).Bound uid
    rw [if_pos rfl]
    exact ⟨rfl, by omega⟩

theorem businessStep_sound (h : Sound cfg st) (hact : st.current i = some (.business s))
    (choice : Choice) : Sound cfg (st.businessStep cfg i s choice) := by
  have hdone : Sound cfg (st.setAct i none) :=
    h.finish hact nofun
  cases choice with
  | go | fail | here => exact hdone
  | reply => exact h.passPlain s false (.inr rfl)
  | deliver uid posted =>
    cases posted with
    | false => exact h
    | true => exact h.post rfl

theorem actStep_sound (h : Sound cfg st) {act : Act} (hact : st.current i = some act)
    (choice : Choice) : Sound cfg (st.actStep cfg i choice act) := by
  have hat := h.acts i act hact
  cases act with
  | dispatch s request =>
    unfold Sys.actStep
    dsimp only
    split
    · exact h.goOn hact nofun hat
    · exact h.finish hact nofun
  | check s request => exact checkStep_sound h hact
  | login s uid =>
    have hgo : Sound cfg (st.setAct i (some (.older s uid))) :=
      h.goOn hact nofun hat
    cases choice with
    | fail =>
      exact (h.passPlain s false (.inl rfl)).finish hact nofun
    | go | here | reply | deliver uid posted => exact hgo
  | older s uid =>
    have hgo : Sound cfg (st.setAct i (some (.trySet s uid))) :=
      h.goOn hact nofun hat
    cases choice with
    | fail =>
      exact (h.passPlain s false (.inl rfl)).finish hact nofun
    | here => exact olderStep_sound h hact
    | go | reply | deliver uid posted => exact hgo
  | kickOld s uid old =>
    exact (h.pass old true (fun _ => hat.2) fun _ e => Frame.noConfusion e).goOn hact nofun hat.1
  | trySet s uid => exact trySetStep_sound h hact
  | bind s uid =>
    have hnext : Sound cfg (st.setAct i (some (.answer s uid))) :=
      h.goOn hact nofun hat
    refine hnext.setUserSession hat.2 ?_
    show (if cfg.home uid = i then some (Act.answer s uid) else _) = _
    rw [if_pos hat.1]
  | answer s uid =>
    have hpassed : Sound cfg (st.pass s (.loginOk uid) false) :=
      h.pass s false False.elim fun u e => (Frame.loginOk.inj e) ▸ hat.2
    -- now the session is answered
    refine hpassed.setAct (fun s' uid' e => ?_) fun _ e => nomatch e
    obtain ⟨rfl, rfl⟩ := Act.answer.inj (Option.some.inj (hact.symm.trans e))
    refine ⟨uid, false, ?_⟩
    unfold Sys.pass Sys.setSession
    dsimp only
    rw [if_pos rfl]
    exact List.mem_append_right _ (List.mem_singleton_self _)
  | business s => exact businessStep_sound h hact choice
  | sendMessage s =>
    have hsend : Sound cfg ((st.pass s .userMessage false).setAct i none) :=
      (h.pass s false (fun _ => hat) fun _ e => Frame.noConfusion e).finish hact nofun
    cases choice with
    | fail => exact h.finish hact nofun
    | go | here | reply | deliver uid posted => exact hsend
  | sendOffline s =>
    exact (h.pass s true (fun _ => hat) fun _ e => Frame.noConfusion e).finish hact nofun

end Steps

section

variable (h : Sound cfg st)

include h

/-- A session whose user and frames are as they were. -/
theorem Sound.setPlain {s : Nat} {x : Session} (huser : x.userUid = (st.session s).userUid)
    (hpassed : x.passed = (st.session s).passed) (hexecuted : x.executed = (st.session s).executed)
    (hqueued : x.queued = (st.session s).queued) : Sound cfg (st.setSession s x) := by
  have hok := h.sessions s
  refine h.setSession ⟨fun uid hb => ⟨huser.trans hb.1, hb.2⟩, fun e he => hpassed ▸ he⟩
    ⟨fun uid c hmem => ?_, ?_, ?_, ?_⟩
  · obtain ⟨hb, hne⟩ := hok.bound uid c (hpassed ▸ hmem)
    exact ⟨huser.trans hb, hne⟩
  · rw [hpassed]
    exact hok.order
  · rw [hpassed, hexecuted]
    exact hok.executed
  · rw [hqueued, hexecuted]
    exact hok.queued

theorem recv_sound (s : Nat) (request : Request) (posted : Bool) :
    Sound cfg (st.recv cfg s request posted) := by
  unfold Sys.recv
  split
  · exact h
  cases request with
  | login uid =>
    show Sound cfg (st.recvLogin cfg s uid posted)
    unfold Sys.recvLogin
    split
    · exact h.passPlain s true (.inl rfl)
    · have hbound : Sound cfg (st.setSession s { st.session s with routingUid := uid }) :=
        h.setPlain rfl rfl rfl rfl
      cases posted with
      | false => exact hbound.passPlain s true (.inl rfl)
      | true => exact hbound.post rfl
  | other =>
    dsimp only
    split
    · exact h
    · cases posted with
      | false => exact h.passPlain s true (.inr rfl)
      | true => exact h.post trivial

theorem close_sound (s : Nat) (posted : Bool) : Sound cfg (st.close cfg s posted) := by
  have hclosed : Sound cfg (st.setSession s { st.session s with isOpen := false }) :=
    h.setPlain rfl rfl rfl rfl
  unfold Sys.close
  dsimp only
  split
  · cases posted with
    | false => exact hclosed.rmvUserSession _ s
    | true => exact hclosed.post trivial
  · exact hclosed

theorem rpc_sound (uid : Int) (task : Task) (hat : task.At cfg (cfg.home uid)) (posted : Bool) :
    Sound cfg (st.rpc cfg uid task posted) := by
  unfold Sys.rpc
  split
  · exact h.post hat
  · exact h

theorem io_sound (s : Nat) (room : Bool) : Sound cfg (st.io s room) := by
  have hok := h.sessions s
  unfold Sys.io
  dsimp only
  split
  · exact h
  · next frame closes hget =>
    obtain ⟨hlt, -⟩ := List.getElem?_eq_some_iff.mp hget
    refine h.setSession ⟨fun _ hb => hb, fun _ he => he⟩ ⟨hok.bound, hok.order, hlt, ?_⟩
    show (if _ then _ else _ : List Nat).Pairwise (· < ·) ∧ _
    split
    · refine ⟨List.pairwise_append.mpr ⟨hok.queued.1, List.pairwise_singleton _ _, ?_⟩, ?_⟩
      · intro i hi j hj
        rw [List.mem_singleton.mp hj]
        exact hok.queued.2 i hi
      · intro i hi
        rcases List.mem_append.mp hi with hi | hi
        · exact Nat.lt_succ_of_lt (hok.queued.2 i hi)
        · rw [List.mem_singleton.mp hi]
          exact Nat.lt_succ_self _
    · exact ⟨hok.queued.1, fun i hi => Nat.lt_succ_of_lt (hok.queued.2 i hi)⟩

theorem step_sound (e : Event) : Sound cfg (step cfg st e) := by
  cases e with
  | recv s request posted => exact recv_sound h s request posted
  | close s posted => exact close_sound h s posted
  | notifyUserMessage uid posted => exact rpc_sound h uid (.notify uid) rfl posted
  | notifyKickUser uid posted => exact rpc_sound h uid (.kick uid) rfl posted
  | worker i choice =>
    show Sound cfg (st.workerStep cfg i choice)
    unfold Sys.workerStep
    split
    · next hidle => exact take_sound h hidle
    · next act hact => exact actStep_sound h hact choice
  | io s room => exact io_sound h s room

end

theorem run_sound (cfg : Config) (es : List Event) : Sound cfg (run cfg es) := by
  have hall : ∀ st, Sound cfg st → Sound cfg (es.foldl (step cfg) st) := by
    induction es with
    | nil => exact fun st h => h
    | cons e es ih => exact fun st h => ih (step cfg st e) (step_sound h e)
  refine hall {} ⟨fun s => ⟨?_, ?_, Nat.le_refl 0, List.Pairwise.nil, ?_⟩, ?_, ?_, ?_⟩
  · exact fun uid c hmem => absurd hmem List.not_mem_nil
  · exact fun i frame c hget => nomatch hget
  · exact fun i hi => absurd hi List.not_mem_nil
  · exact fun i task htask => absurd htask List.not_mem_nil
  · exact fun i act hact => nomatch hact
  · exact fun uid s hs => nomatch hs

/-- A notification that comes while the worker is at the login, between `SetUserSession` and
the answer. -/
example : ((run { hash := fun _ => 0, workers := 1 }
    ([.recv 0 (.login 7) true] ++ List.replicate 7 (.worker 0 .go) ++ [.notifyUserMessage 7 true] ++
      List.replicate 3 (.worker 0 .go))).session 0).passed =
    [(.loginOk 7, false), (.userMessage, false)] := by decide

/-- **Nobody gets what is for another.**  In every run the session that `UserMgr` has for a
user, by which notifications find their way, is bound to this user. -/
theorem users_bound (cfg : Config) (es : List Event) (uid : Int) :
    (run cfg es).users uid = none ∨ ∃ s, (run cfg es).users uid = some s ∧
      ((run cfg es).session s).userUid = uid := by
  cases h : (run cfg es).users uid with
  | none => exact .inl rfl
  | some s => exact .inr ⟨s, rfl, ((run_sound cfg es).users uid s h).1.1⟩

end LlfcChat.LoginFirst

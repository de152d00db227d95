/-
The resource connection of the client: `FileTcpMgr` and its socket.

`slot_tcp_connect` takes over the credentials of a login, `connected` sends them in a 1501,
and whatever goes wrong arms the reconnect timer.  Two things are missed.  A call for the
target of a connection that is up or under way is passed over without a look at its token;
and a call that is not passed over leaves the reconnect timer alone, though its own `abort`
may arm it.

The socket is a `QTcpSocket`: `abort` and a `close` with nothing left to write report
`disconnected` at once if there was a connection, and a `close` before the connection stands
is put off until it does.
-/
import Mathlib

namespace LlfcChat.FileTcp

inductive SocketState
  | unconnected
  | hostLookup
  | connecting
  | connected
  | closing
  deriving DecidableEq

/-- What `slot_tcp_connect` reads of a `ServerInfo`. -/
structure ServerInfo where
  uid : Int
  resHost : String
  resPort : UInt16
  token : String
  deriving DecidableEq

/-- A 1501, and the call of `slot_tcp_connect` that it comes after. -/
structure Login where
  uid : Int
  token : String
  call : Option ServerInfo
  deriving DecidableEq

/-- `FileTcpMgr`.  `reconnectTimer` is the delay of the timer while it runs; the last two
fields are not in the source. -/
structure Conn where
  socket : SocketState := .unconnected
  pendingClose : Bool := false
  authenticated : Bool := false
  manualClose : Bool := false
  reconnectTimer : Option Nat := none
  reconnectAttempt : Nat := 0
  authTimer : Bool := false
  authUid : Int := 0
  authToken : String := ""
  host : String := ""
  port : UInt16 := 0
  lastCall : Option ServerInfo := none
  logins : List Login := []

structure Config where
  reconnectInitialMs : Nat := 1000
  reconnectMaxMs : Nat := 30000

/-- The loop of `scheduleReconnect`. -/
def doubled (max : Nat) : Nat → Nat → Nat
  | 0, delay => delay
  | n + 1, delay => if max ≤ delay * 2 then max else doubled max n (delay * 2)

namespace Conn

variable (cfg : Config)

def scheduleReconnect (s : Conn) : Conn :=
  if s.manualClose ∨ s.reconnectTimer.isSome then s
  else
    { s with
      reconnectAttempt := s.reconnectAttempt + 1
      reconnectTimer := some (min cfg.reconnectMaxMs
        (doubled cfg.reconnectMaxMs (min s.reconnectAttempt 30) cfg.reconnectInitialMs)) }

/-- The handler of `disconnected`; the socket is down. -/
def onDisconnected (s : Conn) : Conn :=
  let s := { s with socket := .unconnected, authenticated := false, authTimer := false }
  if s.manualClose then s else s.scheduleReconnect cfg

/-- `_socket.abort()` -/
def abort (s : Conn) : Conn :=
  match s.socket with
  | .unconnected => s
  | .hostLookup | .connecting => { s with socket := .unconnected }
  | .connected | .closing => s.onDisconnected cfg

/-- `_socket.close()`; `unsent` is whether there is something left to write. -/
def closeSocket (unsent : Bool) (s : Conn) : Conn :=
  match s.socket with
  | .unconnected => s
  | .hostLookup | .connecting => { s with pendingClose := true }
  | .connected | .closing => if unsent then { s with socket := .closing } else s.onDisconnected cfg

/-- `_socket.connectToHost(_host, _port)` -/
def connectToHost (s : Conn) : Conn := { s with socket := .hostLookup, pendingClose := false }

def resetConnection (s : Conn) : Conn :=
  { s with authenticated := false, authTimer := false }.abort cfg

/-- The connection is given up. -/
def giveUp (s : Conn) : Conn := (s.resetConnection cfg).scheduleReconnect cfg

def slotTcpClose (unsent : Bool) (s : Conn) : Conn :=
  { s with
    manualClose := true, reconnectTimer := none, authTimer := false, authenticated := false
    authUid := 0, authToken := "", host := "", port := 0 }.closeSocket cfg unsent

/-- The target is that of a connection that is up or under way. -/
def Repeats (s : Conn) (si : ServerInfo) : Prop :=
  (si.uid = s.authUid ∧ si.resHost = s.host ∧ si.resPort = s.port) ∧
    (s.socket = .connected ∨ s.socket = .connecting)

/-- Another user. -/
def Switches (s : Conn) (si : ServerInfo) : Prop :=
  0 < si.uid ∧ si.uid ≠ s.authUid ∧ 0 < s.authUid

instance (s : Conn) (si : ServerInfo) : Decidable (s.Repeats si) :=
  inferInstanceAs (Decidable ((_ ∧ _ ∧ _) ∧ (_ ∨ _)))

instance (s : Conn) (si : ServerInfo) : Decidable (s.Switches si) :=
  inferInstanceAs (Decidable (_ ∧ _ ∧ _))

/-- The credentials are taken over. -/
def takeOver (si : ServerInfo) (s : Conn) : Conn :=
  { s with
    authUid := si.uid, authToken := si.token, manualClose := false, reconnectAttempt := 0
    host := si.resHost, port := si.resPort, authTimer := true }

def slotTcpConnect (si : ServerInfo) (unsent : Bool) (s : Conn) : Conn :=
  let s := { s with lastCall := some si }
  if s.Repeats si then s
  else
    let s := if s.Switches si then s.slotTcpClose cfg unsent else s
    ((s.takeOver si).abort cfg).connectToHost

/-- `written` is whether the frame could be queued and written. -/
def sendResourceLogin (written : Bool) (s : Conn) : Conn :=
  if s.authUid ≤ 0 ∨ s.authToken = "" then s
  else
    let s := if written then
        { s with logins := s.logins ++ [⟨s.authUid, s.authToken, s.lastCall⟩] }
      else s.giveUp cfg
    { s with authTimer := true }

/-- The handler of `connected`, and the `close` that was put off. -/
def onConnected (written unsent : Bool) (s : Conn) : Conn :=
  let s := { s with socket := .connected, authenticated := false, authTimer := false }
  let s := s.sendResourceLogin cfg written
  if s.pendingClose then s.closeSocket cfg unsent else s

/-- The handler of `error`; without a connection the socket is down. -/
def onError (s : Conn) : Conn :=
  let s := match s.socket with
    | .hostLookup | .connecting => { s with socket := .unconnected }
    | _ => s
  if s.manualClose then s else s.giveUp cfg

def slotReconnectTimeout (s : Conn) : Conn :=
  let s := { s with reconnectTimer := none }
  if s.manualClose ∨ s.host = "" ∨ s.port = 0 then s else (s.abort cfg).connectToHost

def authTimeout (s : Conn) : Conn :=
  let s := { s with authTimer := false }
  if s.manualClose ∨ s.authenticated then s else s.giveUp cfg

/-- The handler of `sig_request_reconnect`. -/
def requestReconnect (s : Conn) : Conn :=
  if s.manualClose then s
  else ({ s with authenticated := false }.abort cfg).scheduleReconnect cfg

end Conn

/-- How a 1502 is read. -/
inductive LoginRsp
  | unreadable
  | failed
  | success
  deriving DecidableEq

def Conn.handleResourceLoginRsp (s : Conn) : LoginRsp → Conn
  | .unreadable => { s with authenticated := false }
  | .failed => { s with authTimer := false, authenticated := false }
  | .success => { s with authTimer := false, authenticated := true }

inductive Event
  | tcpConnect (si : ServerInfo) (unsent : Bool)
  | tcpClose (unsent : Bool)
  | hostFound
  | connected (written unsent : Bool)
  | error
  | disconnected
  | loginRsp (rsp : LoginRsp)
  /-- a frame with a bad header -/
  | badFrame
  /-- a queue that is full, or a write that fails -/
  | writeFailed
  | requestReconnect
  | authTimeout
  | reconnectTimeout
  deriving DecidableEq

open Conn in
/-- An event that cannot be in this state of the socket or the timers changes nothing. -/
def step (cfg : Config) (s : Conn) : Event → Conn
  | .tcpConnect si unsent => slotTcpConnect cfg si unsent s
  | .tcpClose unsent => slotTcpClose cfg unsent s
  | .hostFound => if s.socket = .hostLookup then { s with socket := .connecting } else s
  | .connected written unsent =>
    if s.socket = .connecting then onConnected cfg written unsent s else s
  | .error => onError cfg s
  | .disconnected =>
    if s.socket = .connected ∨ s.socket = .closing then onDisconnected cfg s else s
  | .loginRsp rsp => if s.socket = .connected then s.handleResourceLoginRsp rsp else s
  | .badFrame => if s.socket = .connected then resetConnection cfg s else s
  | .writeFailed => giveUp cfg s
  | .requestReconnect => s.requestReconnect cfg
  | .authTimeout => if s.authTimer then s.authTimeout cfg else s
  | .reconnectTimeout => if s.reconnectTimer.isSome then slotReconnectTimeout cfg s else s

def run (cfg : Config) (s : Conn) (es : List Event) : Conn := es.foldl (step cfg) s

/-- Every event of a run meets the condition in the state it comes in. -/
def Meets (cfg : Config) (p : Conn → Event → Bool) : Conn → List Event → Prop
  | _, [] => True
  | s, e :: es => p s e = true ∧ Meets cfg p (step cfg s e) es

variable {cfg : Config} {s : Conn}

theorem run_keeps {I : Conn → Prop} {p : Conn → Event → Bool}
    (hstep : ∀ s e, I s → p s e = true → I (step cfg s e)) (es : List Event) (hs : I s)
    (h : Meets cfg p s es) : I (run cfg s es) := by
  induction es generalizing s with
  | nil => exact hs
  | cons e es ih => exact ih (hstep s e hs h.1) h.2

/-! ### The timer -/

/-- The timer runs only while there is no connection, and only a connection is
authenticated. -/
structure Idle (s : Conn) : Prop where
  down : s.reconnectTimer ≠ none → s.socket = .unconnected
  live : s.authenticated = true → s.socket = .connected

theorem Idle.of_down (hsocket : s.socket = .unconnected) (hauth : s.authenticated = false) :
    Idle s :=
  ⟨fun _ => hsocket, fun h => nomatch hauth.symm.trans h⟩

theorem Idle.of_timer (htimer : s.reconnectTimer = none) (hauth : s.authenticated = false) :
    Idle s :=
  ⟨fun h => absurd htimer h, fun h => nomatch hauth.symm.trans h⟩

/-- Without a connection nothing is authenticated. -/
theorem Idle.unauthenticated (h : Idle s) (hsocket : s.socket ≠ .connected) :
    s.authenticated = false := by
  cases hauth : s.authenticated with
  | false => rfl
  | true => exact absurd (h.live hauth) hsocket

section Down

variable (cfg)

theorem scheduleReconnect_down (hsocket : s.socket = .unconnected)
    (hauth : s.authenticated = false) :
    (s.scheduleReconnect cfg).socket = .unconnected ∧
      (s.scheduleReconnect cfg).authenticated = false := by
  unfold Conn.scheduleReconnect
  split
  · exact ⟨hsocket, hauth⟩
  · exact ⟨hsocket, hauth⟩

theorem onDisconnected_down (s : Conn) :
    (s.onDisconnected cfg).socket = .unconnected ∧
      (s.onDisconnected cfg).authenticated = false := by
  unfold Conn.onDisconnected
  dsimp only
  split
  · exact ⟨rfl, rfl⟩
  · exact scheduleReconnect_down cfg rfl rfl

theorem abort_down (hauth : s.authenticated = false) :
    (s.abort cfg).socket = .unconnected ∧ (s.abort cfg).authenticated = false := by
  unfold Conn.abort
  split
  · next hsocket => exact ⟨hsocket, hauth⟩
  · exact ⟨rfl, hauth⟩
  · exact ⟨rfl, hauth⟩
  · exact onDisconnected_down cfg s
  · exact onDisconnected_down cfg s

theorem giveUp_down (s : Conn) :
    (s.giveUp cfg).socket = .unconnected ∧ (s.giveUp cfg).authenticated = false := by
  obtain ⟨hsocket, hauth⟩ :=
    abort_down cfg (s := { s with authenticated := false, authTimer := false }) rfl
  exact scheduleReconnect_down cfg hsocket hauth

/-- A `close` on purpose leaves the timer off, and the connection too if nothing is left to
write. -/
theorem slotTcpClose_off (unsent : Bool) (s : Conn) :
    let s' := s.slotTcpClose cfg unsent
    s'.reconnectTimer = none ∧ s'.authenticated = false ∧
      (s.socket ≠ .connected ∧ s.socket ≠ .closing ∨ unsent = false →
        s'.socket ≠ .connected ∧ s'.socket ≠ .closing) := by
  unfold Conn.slotTcpClose Conn.closeSocket
  cases hsocket : s.socket <;> cases unsent <;>
    simp [Conn.onDisconnected]

/-- Without an open connection the socket is just put aside. -/
theorem abort_timer (hopen : s.socket ≠ .connected ∧ s.socket ≠ .closing) :
    (s.abort cfg).reconnectTimer = s.reconnectTimer ∧
      (s.abort cfg).authenticated = s.authenticated := by
  unfold Conn.abort
  split
  · exact ⟨rfl, rfl⟩
  · exact ⟨rfl, rfl⟩
  · exact ⟨rfl, rfl⟩
  · next h => exact absurd h hopen.1
  · next h => exact absurd h hopen.2

end Down

/-- The connection is not open when it is aborted, and the timer is off or is stopped. -/
def calm (s : Conn) : Event → Bool
  | .tcpConnect si unsent =>
    decide (s.Repeats si ∨
      (s.socket ≠ .connected ∧ s.socket ≠ .closing ∨ s.Switches si ∧ unsent = false) ∧
      (s.reconnectTimer = none ∨ s.Switches si))
  | _ => true

theorem idle_connect {si : ServerInfo}
    (hopen : s.socket ≠ .connected ∧ s.socket ≠ .closing) (htimer : s.reconnectTimer = none)
    (hauth : s.authenticated = false) :
    Idle ((s.takeOver si).abort cfg).connectToHost := by
  obtain ⟨htimer', hauth'⟩ := abort_timer cfg (s := s.takeOver si) hopen
  exact .of_timer (htimer'.trans htimer) (hauth'.trans hauth)

theorem idle_slotTcpConnect (h : Idle s) {si : ServerInfo} {unsent : Bool}
    (hcalm : calm s (.tcpConnect si unsent) = true) : Idle (s.slotTcpConnect cfg si unsent) := by
  unfold Conn.slotTcpConnect
  dsimp only
  split
  · exact ⟨h.down, h.live⟩
  next hrepeats =>
  obtain ⟨hopen, htimer⟩ := (of_decide_eq_true hcalm).resolve_left hrepeats
  split
  · -- another user: the old connection is closed first
    obtain ⟨htimer', hauth', hopen'⟩ :=
      slotTcpClose_off cfg unsent { s with lastCall := some si }
    exact idle_connect (hopen' (hopen.imp_right And.right)) htimer' hauth'
  · next hswitch =>
    have hopen := hopen.resolve_right fun hs => hswitch hs.1
    exact idle_connect hopen (htimer.resolve_right hswitch) (h.unauthenticated hopen.1)

theorem idle_onConnected (h : Idle s) (hsocket : s.socket = .connecting) (written unsent : Bool) :
    Idle (s.onConnected cfg written unsent) := by
  have htimer : s.reconnectTimer = none := by
    by_contra hne
    cases hsocket.symm.trans (h.down hne)
  -- the handler itself, before a `close` that was put off
  have hsent : ∀ s' : Conn, s'.reconnectTimer = none → s'.authenticated = false →
      Idle (s'.sendResourceLogin cfg written) ∧
        (s'.sendResourceLogin cfg written).authenticated = false := by
    intro s' htimer hauth
    unfold Conn.sendResourceLogin
    dsimp only
    split
    · exact ⟨.of_timer htimer hauth, hauth⟩
    · cases written with
      | true => exact ⟨.of_timer htimer hauth, hauth⟩
      | false =>
        obtain ⟨hdown, hno⟩ := giveUp_down cfg s'
        exact ⟨.of_down hdown hno, hno⟩
  obtain ⟨hidle, hauth⟩ := hsent
    { s with socket := .connected, authenticated := false, authTimer := false } htimer rfl
  unfold Conn.onConnected
  dsimp only
  generalize Conn.sendResourceLogin cfg written
    { s with socket := .connected, authenticated := false, authTimer := false } = s' at hidle hauth
  split
  · unfold Conn.closeSocket
    have hdown := onDisconnected_down cfg s'
    split
    · exact hidle
    · exact ⟨hidle.down, hidle.live⟩
    · exact ⟨hidle.down, hidle.live⟩
    all_goals
      next hopen =>
      split
      · refine .of_timer ?_ hauth
        by_contra hne
        cases hopen.symm.trans (hidle.down hne)
      · exact .of_down hdown.1 hdown.2
  · exact hidle

theorem idle_step (s : Conn) (e : Event) (h : Idle s) (hcalm : calm s e = true) :
    Idle (step cfg s e) := by
  have hgiveUp : ∀ s : Conn, Idle (s.giveUp cfg) := fun s =>
    .of_down (giveUp_down cfg s).1 (giveUp_down cfg s).2
  have hno : ∀ {st : SocketState}, s.socket = st → st ≠ .connected → s.authenticated = false := by
    rintro st rfl
    exact h.unauthenticated
  cases e with
  | tcpConnect si unsent => exact idle_slotTcpConnect h hcalm
  | tcpClose unsent =>
    obtain ⟨htimer, hauth, -⟩ := slotTcpClose_off cfg unsent s
    exact .of_timer htimer hauth
  | hostFound =>
    refine iteInduction (fun hsocket => .of_timer ?_ (hno hsocket nofun)) fun _ => h
    by_contra hne
    cases hsocket.symm.trans (h.down hne)
  | connected written unsent =>
    exact iteInduction (fun hsocket => idle_onConnected h hsocket written unsent) fun _ => h
  | error =>
    have hdown : ∀ s' : Conn, Idle s' → Idle (if s'.manualClose then s' else s'.giveUp cfg) :=
      fun s' h' => iteInduction (fun _ => h') fun _ => hgiveUp s'
    show Idle (s.onError cfg)
    unfold Conn.onError
    split
    · next hsocket => exact hdown _ (.of_down rfl (hno hsocket nofun))
    · next hsocket => exact hdown _ (.of_down rfl (hno hsocket nofun))
    · exact hdown s h
  | disconnected =>
    exact iteInduction (fun _ => .of_down (onDisconnected_down cfg s).1
      (onDisconnected_down cfg s).2) fun _ => h
  | loginRsp rsp =>
    refine iteInduction (fun hsocket => ?_) fun _ => h
    cases rsp <;> exact ⟨h.down, fun _ => hsocket⟩
  | badFrame =>
    exact iteInduction (fun _ => .of_down (abort_down cfg rfl).1 (abort_down cfg rfl).2) fun _ => h
  | writeFailed => exact hgiveUp s
  | requestReconnect =>
    refine iteInduction (fun _ => h) fun _ => ?_
    obtain ⟨hsocket, hauth⟩ := abort_down cfg (s := { s with authenticated := false }) rfl
    obtain ⟨hsocket', hauth'⟩ := scheduleReconnect_down cfg hsocket hauth
    exact .of_down hsocket' hauth'
  | authTimeout =>
    exact iteInduction (fun _ => iteInduction (fun _ => ⟨h.down, h.live⟩) fun _ => hgiveUp _)
      fun _ => h
  | reconnectTimeout =>
    refine iteInduction (fun hruns => ?_) fun _ => h
    have hsocket := h.down fun hnone => by
      rw [hnone] at hruns
      cases hruns
    refine iteInduction (fun _ => .of_timer rfl (hno hsocket nofun)) fun _ => ?_
    unfold Conn.abort
    rw [hsocket]
    exact .of_timer rfl (hno hsocket nofun)

/-- **The timer leaves a working connection alone** in every run in which no call of
`slot_tcp_connect` that opens a connection finds one open or the timer running. -/
theorem reconnect_timer_idle (cfg : Config) (es : List Event) (h : Meets cfg calm {} es) :
    (run cfg {} es).authenticated = true → (run cfg {} es).reconnectTimer = none := by
  have hidle := run_keeps idle_step es (.of_timer rfl rfl) h
  intro hauth
  by_contra hne
  cases (hidle.live hauth).symm.trans (hidle.down hne)

/-- A login that succeeds. -/
def login : List Event :=
  [.tcpConnect ⟨1, "h", 80, "t"⟩ false, .hostFound, .connected true false, .loginRsp .success]

theorem reconnect_timer_idle_login :
    (Meets {} calm {} login ∧ (run {} {} login).authenticated = true) ∧
      (run {} {} login).reconnectTimer = none := by
  have hmeets : Meets {} calm {} login := ⟨by decide, rfl, rfl, rfl, trivial⟩
  exact ⟨⟨hmeets, by decide⟩, reconnect_timer_idle {} login hmeets (by decide)⟩

/-- The first attempt fails and the timer is armed; the user connects again before it has
run out. -/
theorem reconnect_timer_runs :
    let s := run {} {} ([.tcpConnect ⟨1, "h", 80, "t"⟩ false, .hostFound, .error] ++ login)
    s.authenticated = true ∧ s.reconnectTimer = some 1000 ∧
      (step {} s .reconnectTimeout).authenticated = false := by
  decide

/-! ### The credentials -/

/-- What is sent and what would be sent is of the last call. -/
structure Current (s : Conn) : Prop where
  stored : 0 < s.authUid → s.authToken ≠ "" →
    ∃ si, s.lastCall = some si ∧ s.authUid = si.uid ∧ s.authToken = si.token
  logins : ∀ f ∈ s.logins, ∃ si, f.call = some si ∧ f.uid = si.uid ∧ f.token = si.token

/-- What `Current` is about. -/
def Conn.credentials (s : Conn) : Int × String × Option ServerInfo × List Login :=
  (s.authUid, s.authToken, s.lastCall, s.logins)

theorem Current.of_eq {s' : Conn} (h : Current s) (he : s'.credentials = s.credentials) :
    Current s' := by
  simp only [Conn.credentials, Prod.mk.injEq] at he
  obtain ⟨huid, htoken, hcall, hlogins⟩ := he
  exact ⟨by rw [huid, htoken, hcall]; exact h.stored, by rw [hlogins]; exact h.logins⟩

section Credentials

variable (cfg)

theorem credentials_scheduleReconnect (s : Conn) :
    (s.scheduleReconnect cfg).credentials = s.credentials := by
  unfold Conn.scheduleReconnect
  split <;> rfl

theorem credentials_onDisconnected (s : Conn) :
    (s.onDisconnected cfg).credentials = s.credentials := by
  unfold Conn.onDisconnected
  dsimp only
  split
  · rfl
  · exact credentials_scheduleReconnect cfg _

theorem credentials_abort (s : Conn) : (s.abort cfg).credentials = s.credentials := by
  unfold Conn.abort
  split
  · rfl
  · rfl
  · rfl
  · exact credentials_onDisconnected cfg s
  · exact credentials_onDisconnected cfg s

theorem credentials_giveUp (s : Conn) : (s.giveUp cfg).credentials = s.credentials :=
  (credentials_scheduleReconnect cfg _).trans (credentials_abort cfg _)

theorem credentials_closeSocket (unsent : Bool) (s : Conn) :
    (s.closeSocket cfg unsent).credentials = s.credentials := by
  unfold Conn.closeSocket
  split
  · rfl
  · rfl
  · rfl
  all_goals
    split
    · rfl
    · exact credentials_onDisconnected cfg s

end Credentials

theorem current_slotTcpClose (h : Current s) (unsent : Bool) :
    Current (s.slotTcpClose cfg unsent) := by
  refine Current.of_eq (s := { s with authUid := 0, authToken := "" }) ⟨?_, h.logins⟩
    (credentials_closeSocket cfg unsent _)
  exact fun hpos => absurd hpos (Int.lt_irrefl 0)

/-- A call that is passed over carries the token that is kept. -/
def fresh (s : Conn) : Event → Bool
  | .tcpConnect si _ =>
    decide (s.Repeats si → 0 < s.authUid → s.authToken ≠ "" → si.token = s.authToken)
  | _ => true

theorem current_slotTcpConnect (h : Current s) {si : ServerInfo} {unsent : Bool}
    (hfresh : fresh s (.tcpConnect si unsent) = true) :
    Current (s.slotTcpConnect cfg si unsent) := by
  unfold Conn.slotTcpConnect
  dsimp only
  split
  · next hrepeats =>
    refine ⟨fun huid htoken => ⟨si, rfl, hrepeats.1.1.symm, ?_⟩, h.logins⟩
    exact (of_decide_eq_true hfresh hrepeats huid htoken).symm
  · have hlogins : ∀ s' : Conn, (∀ f ∈ s'.logins, ∃ si, f.call = some si ∧ f.uid = si.uid ∧
        f.token = si.token) → s'.lastCall = some si →
        Current ((s'.takeOver si).abort cfg).connectToHost := by
      intro s' hall hcall
      have htaken : Current (s'.takeOver si) := ⟨fun _ _ => ⟨si, hcall, rfl, rfl⟩, hall⟩
      exact htaken.of_eq (credentials_abort cfg (s'.takeOver si))
    split
    · have hclosed := credentials_closeSocket cfg unsent
        { s with
          lastCall := some si, manualClose := true, reconnectTimer := none, authTimer := false
          authenticated := false, authUid := 0, authToken := "", host := "", port := 0 }
      simp only [Conn.credentials, Prod.mk.injEq] at hclosed
      refine hlogins _ ?_ hclosed.2.2.1
      unfold Conn.slotTcpClose
      rw [hclosed.2.2.2]
      exact h.logins
    · exact hlogins _ h.logins rfl

theorem current_onConnected (h : Current s) (written unsent : Bool) :
    Current (s.onConnected cfg written unsent) := by
  have hsent : ∀ s' : Conn, Current s' → Current (s'.sendResourceLogin cfg written) := by
    intro s' h
    unfold Conn.sendResourceLogin
    dsimp only
    split
    · exact h
    next hvalid =>
    obtain ⟨huid, htoken⟩ := not_or.mp hvalid
    cases written with
    | false => exact h.of_eq (credentials_giveUp cfg s')
    | true =>
      refine ⟨h.stored, fun f hf => ?_⟩
      rcases List.mem_append.mp hf with hf | hf
      · exact h.logins f hf
      · rw [List.mem_singleton.mp hf]
        exact h.stored (Int.not_le.mp huid) htoken
  have hlogin := hsent
    { s with socket := .connected, authenticated := false, authTimer := false } (h.of_eq rfl)
  unfold Conn.onConnected
  dsimp only
  split
  · exact hlogin.of_eq (credentials_closeSocket cfg unsent _)
  · exact hlogin

theorem current_step (s : Conn) (e : Event) (h : Current s) (hfresh : fresh s e = true) :
    Current (step cfg s e) := by
  have hgiveUp : ∀ s' : Conn, s'.credentials = s.credentials → Current (s'.giveUp cfg) :=
    fun s' he => h.of_eq ((credentials_giveUp cfg s').trans he)
  have habort : ∀ s' : Conn, s'.credentials = s.credentials →
      (s'.abort cfg).credentials = s.credentials :=
    fun s' he => (credentials_abort cfg s').trans he
  cases e with
  | tcpConnect si unsent => exact current_slotTcpConnect h hfresh
  | tcpClose unsent => exact current_slotTcpClose h unsent
  | hostFound => exact iteInduction (fun _ => h.of_eq rfl) fun _ => h
  | connected written unsent =>
    exact iteInduction (fun _ => current_onConnected h written unsent) fun _ => h
  | error =>
    have hdown : ∀ s' : Conn, s'.credentials = s.credentials →
        Current (if s'.manualClose then s' else s'.giveUp cfg) :=
      fun s' he => iteInduction (fun _ => h.of_eq he) fun _ => hgiveUp s' he
    show Current (s.onError cfg)
    unfold Conn.onError
    split
    · exact hdown _ rfl
    · exact hdown _ rfl
    · exact hdown s rfl
  | disconnected =>
    exact iteInduction (fun _ => h.of_eq (credentials_onDisconnected cfg s)) fun _ => h
  | loginRsp rsp =>
    refine iteInduction (fun _ => ?_) fun _ => h
    cases rsp <;> exact h.of_eq rfl
  | badFrame => exact iteInduction (fun _ => h.of_eq (habort _ rfl)) fun _ => h
  | writeFailed => exact hgiveUp s rfl
  | requestReconnect =>
    refine iteInduction (fun _ => h) fun _ => h.of_eq ?_
    exact (credentials_scheduleReconnect cfg _).trans (habort _ rfl)
  | authTimeout =>
    exact iteInduction (fun _ => iteInduction (fun _ => h.of_eq rfl) fun _ => hgiveUp _ rfl)
      fun _ => h
  | reconnectTimeout =>
    exact iteInduction (fun _ => iteInduction (fun _ => h.of_eq rfl)
      fun _ => h.of_eq (habort { s with reconnectTimer := none } rfl)) fun _ => h

/-- **Every 1501 carries the credentials of the last call** in every run in which a call for
the target of a connection that is up or under way brings no other token. -/
theorem login_credentials (cfg : Config) (es : List Event) (h : Meets cfg fresh {} es) :
    ∀ f ∈ (run cfg {} es).logins,
      ∃ si, f.call = some si ∧ f.uid = si.uid ∧ f.token = si.token :=
  (run_keeps current_step es ⟨fun hpos => absurd hpos (Int.lt_irrefl 0),
    fun _ hf => absurd hf List.not_mem_nil⟩ h).logins

theorem login_credentials_login :
    (Meets {} fresh {} login ∧ ⟨1, "t", some ⟨1, "h", 80, "t"⟩⟩ ∈ (run {} {} login).logins) ∧
      ∃ si : ServerInfo, some ⟨1, "h", 80, "t"⟩ = some si ∧ 1 = si.uid ∧ "t" = si.token := by
  have hmeets : Meets {} fresh {} login := ⟨by decide, rfl, rfl, rfl, trivial⟩
  exact ⟨⟨hmeets, by decide⟩, login_credentials {} login hmeets ⟨1, "t", some ⟨1, "h", 80, "t"⟩⟩
    (by decide)⟩

/-- The user logs in again while the first connection is under way; its old token is sent. -/
theorem login_credentials_stale :
    (run {} {} [.tcpConnect ⟨1, "h", 80, "old"⟩ false, .hostFound,
      .tcpConnect ⟨1, "h", 80, "new"⟩ false, .connected true false]).logins =
      [⟨1, "old", some ⟨1, "h", 80, "new"⟩⟩] := by
  decide

end LlfcChat.FileTcp

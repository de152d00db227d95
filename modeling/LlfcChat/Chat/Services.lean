/-
What surrounds the handlers of `LogicSystem`: the JSON parser, Redis, MySQL,
the configuration, the session table and the other servers.

Everything outside the process lives in a world `W` of which nothing is known;
a service answers from the world and changes it.  So a call made twice may be
answered differently, and the answers may come from any other server's work in
between.  No service throws.

A handler runs on a `HandlerState`: the world, the user id that the session is
bound to, the `json` variable of its response, and what it has handed over to
the sockets and queues so far.
-/
import LlfcChat.Data
import LlfcChat.Chat.Request
import LlfcChat.Lib.Effect

namespace LlfcChat

/-- The services, over the world they share. -/
structure Services (W : Type) where
  /-- `json::parse(text, nullptr, false)`. -/
  parse : List UInt8 → Json
  /-- `ConfigMgr::GetValue(section, key)`; empty if there is none. -/
  getValue : String → String → String
  /-- `getCurrentTimestamp`. -/
  getCurrentTimestamp : W → String × W
  /-- `RedisMgr`. -/
  redisGet : String → W → Option (List UInt8) × W
  redisSet : String → List UInt8 → W → W
  acquireLock : String → W → String × W
  releaseLock : String → String → W → W
  /-- `UserMgr`; a session is known by its id. -/
  getSession : Int → W → Option String × W
  setUserSession : Int → String → W → W
  /-- `MysqlMgr`. -/
  getUser : Int → W → Option UserInfo × W
  getUserByName : String → W → Option UserInfo × W
  getLastEventSeq : Int → W → Option Nat × W
  getFriendApplyInfo : Int → W → Option (List ApplyInfo) × W
  getFriendList : Int → W → Option (List ContactInfo) × W
  getPrivateChatMembers : Int → W → Option (Int × Int) × W
  getUserThreads : Int → Int → Int → W → Option (List ChatThreadInfo × Bool × Int) × W
  createPrivateChat : Int → Int → W → Option Int × W
  loadChatMsg : Int → Int → Int → Int → W → Option PageResult × W
  getEventsAfterSeq : Int → Nat → Int → W → Option (List UserEvent) × W
  addFriendApply : Int → Int → String → String → W →
    (FriendOperationResult × Option FriendRequest) × W
  handleFriendApply : Int → Int → Bool → W → (FriendOperationResult × FriendHandleOutput) × W
  addChatMsg : ChatMessage → W → (SaveMessageResult × ChatMessage) × W
  /-- `CSession::IsOpen` of the session of the request. -/
  isOpen : W → Bool × W

/-- A server that has no users and whose other services know nothing. -/
def idleServices (W : Type) (parse : List UInt8 → Json) : Services W where
  parse := parse
  getValue _ _ := ""
  getCurrentTimestamp w := ("2026-08-30 12:00:00", w)
  redisGet _ w := (none, w)
  redisSet _ _ w := w
  acquireLock _ w := ("", w)
  releaseLock _ _ w := w
  getSession _ w := (none, w)
  setUserSession _ _ w := w
  getUser _ w := (none, w)
  getUserByName _ w := (none, w)
  getLastEventSeq _ w := (none, w)
  getFriendApplyInfo _ w := (none, w)
  getFriendList _ w := (none, w)
  getPrivateChatMembers _ w := (none, w)
  getUserThreads _ _ _ w := (none, w)
  createPrivateChat _ _ w := (none, w)
  loadChatMsg _ _ _ _ w := (none, w)
  getEventsAfterSeq _ _ _ w := (none, w)
  addFriendApply _ _ _ _ w := ((.failed, none), w)
  handleFriendApply _ _ _ w := ((.failed, {}), w)
  addChatMsg m w := ((.failed, m), w)
  isOpen w := (true, w)

/-- What a handler hands over: a payload to a socket, a closure to a queue, a
call to another server. -/
inductive Action
  | send (msg : String) (msgType : Int)
  | sendAndClose (msg : String) (msgType : Int)
  /-- `PostToUser`: send the payload to the session of this user. -/
  | postToUser (uid : Int) (payload : String) (msgType : Int)
  /-- `PostDelivery` on the queue of the sender: ask the server to notify its user. -/
  | postDelivery (sender : Int) (server : List UInt8)
      (recipient eventType messageId friendRequestId : Int)
  /-- `NotifyOffline` of an older session of this server. -/
  | notifyOffline (sessionId : String) (uid : Int)
  | notifyKickUser (server : List UInt8) (uid : Int)
  deriving DecidableEq

/-- The part of the session that does not change while a handler runs. -/
structure Session where
  sessionId : String
  routingUid : Int

structure HandlerState (W : Type) where
  world : W
  /-- `_user_uid`: 0 until a login has bound the session. -/
  userUid : Int
  /-- `json rtvalue`, by its members. -/
  rtvalue : List (String × Json) := []
  actions : List Action := []

abbrev Handler (W α : Type) := Effect (HandlerState W) CppException α

namespace Handler

open Effect

variable {W α ρ : Type}

/-! ### The steps of a handler -/

/-- Ask a service. -/
def ask (f : W → ρ × W) : Handler W ρ :=
  call fun s => ((f s.world).1, { s with world := (f s.world).2 })

/-- A query leaves everything as it is. -/
theorem ask_query {f : W → ρ × W} {r : ρ} {s : HandlerState W} (h : f s.world = (r, s.world)) :
    ask f s = (.ok r, s) := by
  show (Except.ok (f s.world).1, { s with world := (f s.world).2 }) = (.ok r, s)
  rw [h]

/-- Tell a service. -/
def tell (f : W → W) : Handler W Unit := modify fun s => { s with world := f s.world }

/-- Hand something over. -/
def act (a : Action) : Handler W Unit := modify fun s => { s with actions := s.actions ++ [a] }

/-- `session->GetUserId()`. -/
def getUserId : Handler W Int := read fun s => s.userUid

/-- `rtvalue[key] = value`. -/
def assign (key : String) (value : Json) : Handler W Unit :=
  modify fun s => { s with rtvalue := Json.insert key value s.rtvalue }

/-- `rtvalue["error"] = code`. -/
def assignError (code : ErrorCodes) : Handler W Unit := assign "error" code.json

/-- `rtvalue.update(envelope)`. -/
def updateWith (envelope : List (String × Json)) : Handler W Unit :=
  modify fun s => { s with rtvalue := Json.update s.rtvalue envelope }

/-- `rtvalue[key].push_back(value)`. -/
def push (key : String) (value : Json) : Handler W Unit :=
  modify fun s => { s with rtvalue := Json.pushBack key value s.rtvalue }

/-- A variable that was never assigned to is null. -/
def response (rtvalue : List (String × Json)) : Json :=
  if rtvalue.isEmpty then .null else .obj rtvalue

/-- `session->Send(rtvalue.dump(), msgType)`. -/
def sendCompact (msgType : Int) : Handler W Unit :=
  modify fun s => { s with actions := s.actions ++ [.send (response s.rtvalue).dump msgType] }

/-- `session->Send(rtvalue.dump(4), msgType)`. -/
def sendPretty (msgType : Int) : Handler W Unit :=
  modify fun s =>
    { s with actions := s.actions ++ [.send (response s.rtvalue).dumpPretty msgType] }

/-- An access to a JSON value that may throw. -/
def json (x : Except Json.Error α) : Handler W α := ofExcept (x.mapError .json)

end Handler

end LlfcChat

/-
The reading side of ChatServer's `CSession`: the chain of `AsyncReadHead`,
`AsyncReadBody`, `asyncReadFull` and `asyncReadLen`.

A frame is a head of four bytes, the type and the length of the body, and the
body.  Both are read into the same buffer `_data`.  A read that brings fewer
bytes than are missing is followed by the next one; the last one calls the
handler of the head or of the body, which starts the next part of the chain or
closes the session.

A run is a sequence of events: the completion of the outstanding read, with the
bytes it brought, and what other threads do to the life cycle of the session.
The model writes down every read that the chain has issued and every `RecvNode`
that it has allocated.
-/
import LlfcChat.Chat.Request

namespace LlfcChat

/-! ### Message nodes -/

/-- `MAX_LENGTH`, `HEAD_TOTAL_LEN` and the two halves of the head. -/
def maxLength : Nat := 1024 * 2
def headTotalLen : Nat := 4

/-- A `RecvNode`.  The three lengths and the type are `short`s. -/
structure RecvNode where
  totalLen : Int
  curLen : Int
  msgType : Int
  data : List UInt8
  deriving DecidableEq

/-- The constructor: `new char[_total_len + 1]` throws `bad_array_new_length`
for a negative number of elements. -/
def RecvNode.new (maxLen msgType : Int) : Option RecvNode :=
  if maxLen + 1 < 0 then none else some ⟨maxLen, 0, msgType, []⟩

/-! ### The session -/

/-- `SessionLifecycle::State`. -/
inductive Lifecycle
  | opened | draining | closing | closed
  deriving DecidableEq

/-- `BeginDrain`. -/
def Lifecycle.beginDrain : Lifecycle → Lifecycle
  | .opened => .draining
  | l => l

/-- `BeginClose`. -/
def Lifecycle.beginClose : Lifecycle → Lifecycle
  | .opened | .draining => .closing
  | l => l

/-- The handler that a chain of reads ends in. -/
inductive ReadHandler
  | head
  | body (totalLen : Int)
  deriving DecidableEq

/-- An outstanding `async_read_some` into the bytes from `readLen` to `totalLen`
of the buffer. -/
structure PendingRead where
  readLen : Nat
  totalLen : Nat
  handler : ReadHandler
  deriving DecidableEq

structure CSession where
  lifecycle : Lifecycle := .opened
  /-- `_routing_uid`. -/
  routingUid : Int := 0
  /-- `_data`. -/
  data : List UInt8 := List.replicate maxLength 0
  /-- `_recv_msg_node`. -/
  recvMsgNode : Option RecvNode := none
  pending : Option PendingRead := none
  /-- The ranges of all reads so far. -/
  reads : List (Nat × Nat) := []
  /-- All nodes allocated so far. -/
  nodes : List RecvNode := []
  /-- The nodes that `PostMsgToQue` took. -/
  posted : List RecvNode := []
  deriving DecidableEq

namespace CSession

/-- `Close`.  The chain issues no further read. -/
def close (s : CSession) : CSession :=
  { s with lifecycle := s.lifecycle.beginClose, pending := none }

/-- `SendAndClose`, as far as the chain is concerned. -/
def sendAndClose (s : CSession) : CSession :=
  { s with lifecycle := s.lifecycle.beginDrain, pending := none }

/-- The handler returns without a further read. -/
def stop (s : CSession) : CSession := { s with pending := none }

/-- `asyncReadLen`. -/
def asyncReadLen (readLen totalLen : Nat) (handler : ReadHandler) (s : CSession) : CSession :=
  { s with pending := some ⟨readLen, totalLen, handler⟩, reads := s.reads ++ [(readLen, totalLen)] }

/-- `asyncReadFull`. -/
def asyncReadFull (totalLen : Nat) (handler : ReadHandler) (s : CSession) : CSession :=
  asyncReadLen 0 totalLen handler { s with data := List.replicate maxLength 0 }

def asyncReadHead (s : CSession) : CSession := asyncReadFull headTotalLen .head s

/-- The `int` becomes a `std::size_t` here. -/
def asyncReadBody (totalLen : Int) (s : CSession) : CSession :=
  asyncReadFull (Wire.sizeT totalLen) (.body totalLen) s

/-- The type and the length in the head that the buffer holds. -/
def headType (data : List UInt8) : Int := Wire.readShort (data.getD 0 0) (data.getD 1 0)
def headLen (data : List UInt8) : Int := Wire.readShort (data.getD 2 0) (data.getD 3 0)

/-- The handler of `AsyncReadHead`.  Both fields are checked from above only. -/
def onHead (failed : Bool) (transferred : Nat) (s : CSession) : CSession :=
  if failed then s.close
  else if transferred < headTotalLen then s.close
  else if s.lifecycle ≠ .opened then s.stop
  else if (maxLength : Int) < headType s.data then s.close
  else if (maxLength : Int) < headLen s.data then s.close
  else match RecvNode.new (headLen s.data) (headType s.data) with
    | none => s.close
    | some node =>
      asyncReadBody (headLen s.data)
        { s with recvMsgNode := some node, nodes := s.nodes ++ [node] }

/-- The positive `uid` of a login request; 0 if there is none. -/
def loginUid (root : Json) : Int :=
  match root.field "uid" with
  | some (.int i) => Json.toInt32 i
  | some (.uint n) => Json.toInt32 n
  | _ => 0

/-- `BindRoutingUid`: the uid of the first login stays. -/
def bindRoutingUid (uid : Int) (s : CSession) : Option CSession :=
  if s.routingUid = 0 then some { s with routingUid := uid }
  else if s.routingUid = uid then some s else none

/-- The routing of a message: a login binds the session, anything else needs a
bound one. -/
def route (parse : List UInt8 → Json) (node : RecvNode) (s : CSession) : Except CSession CSession :=
  if node.msgType = msgChatLogin then
    let uid := loginUid (parse node.data)
    if uid ≤ 0 then .error s.sendAndClose
    else match s.bindRoutingUid uid with
      | none => .error s.sendAndClose
      | some s' => .ok s'
  else if s.routingUid = 0 then .error s.close
  else .ok s

/-- `PostMsgToQue` and what follows it. -/
def post (accepted : Bool) (node : RecvNode) (s : CSession) : CSession :=
  if accepted then asyncReadHead { s with posted := s.posted ++ [node] }
  else if reqToRspId node.msgType ≠ 0 then s.sendAndClose
  else s.close

/-- The handler of `AsyncReadBody`. -/
def onBody (parse : List UInt8 → Json) (accepted : Bool) (totalLen : Int) (failed : Bool)
    (transferred : Nat) (s : CSession) : CSession :=
  if failed then s.close
  else if transferred < Wire.sizeT totalLen then s.close
  else if s.lifecycle ≠ .opened then s.stop
  else match s.recvMsgNode with
    | none => s.close
    | some node =>
      let node := { node with data := s.data.take transferred,
                              curLen := Wire.short (node.curLen + transferred) }
      match route parse node { s with recvMsgNode := some node } with
      | .error s' => s'
      | .ok s' => post accepted node s'

/-- The call of the handler. -/
def onRead (parse : List UInt8 → Json) (accepted : Bool) (handler : ReadHandler) (failed : Bool)
    (transferred : Nat) (s : CSession) : CSession :=
  match handler with
  | .head => onHead failed transferred s
  | .body totalLen => onBody parse accepted totalLen failed transferred s

end CSession

/-! ### Runs -/

/-- What can happen to the chain. -/
inductive ReadEvent
  /-- The outstanding read ends, with or without an error, after these bytes.
  `accepted` is the answer of `PostMsgToQue` if it comes to that. -/
  | complete (failed : Bool) (bytes : List UInt8) (accepted : Bool)
  /-- Another thread drains or closes the session. -/
  | drain
  | close
  deriving DecidableEq

namespace CSession

/-- Bytes that arrive at a place of the buffer.  What lies behind its end is
not part of it. -/
def store (data : List UInt8) (k : Nat) (bytes : List UInt8) : List UInt8 :=
  (data.take k ++ bytes ++ data.drop (k + bytes.length)).take maxLength

/-- The completion handler of `asyncReadLen`. -/
def onComplete (parse : List UInt8 → Json) (p : PendingRead) (failed : Bool)
    (bytes : List UInt8) (accepted : Bool) (s : CSession) : CSession :=
  let transferred := p.readLen + bytes.length
  if failed = true ∨ p.totalLen ≤ transferred then
    onRead parse accepted p.handler failed transferred s
  else asyncReadLen transferred p.totalLen p.handler s

def step (parse : List UInt8 → Json) (s : CSession) : ReadEvent → CSession
  | .complete failed bytes accepted => match s.pending with
    | none => s
    | some p => onComplete parse p failed bytes accepted
        { s with data := store s.data p.readLen bytes, pending := none }
  | .drain => { s with lifecycle := s.lifecycle.beginDrain }
  | .close => { s with lifecycle := s.lifecycle.beginClose }

/-- A read brings at most as many bytes as it has room for. -/
def Admits (s : CSession) : ReadEvent → Prop
  | .complete _ bytes _ => ∃ p, s.pending = some p ∧ bytes.length ≤ p.totalLen - p.readLen
  | _ => True

/-- The state after a sequence of events. -/
def run (parse : List UInt8 → Json) (s : CSession) (es : List ReadEvent) : CSession :=
  es.foldl (step parse) s

/-- Every event of the sequence is possible when its turn comes, and meets the
condition. -/
def Along (parse : List UInt8 → Json) (P : CSession → ReadEvent → Prop) :
    CSession → List ReadEvent → Prop
  | _, [] => True
  | s, e :: es => P s e ∧ Along parse P (step parse s e) es

/-- `Start` on a new connection. -/
def start : CSession := asyncReadHead {}

/-! ### What the handlers do when nothing is in the way -/

/-- A head that passes the checks starts the read of its body. -/
theorem onHead_eq {s : CSession} {transferred : Nat} (htr : headTotalLen ≤ transferred)
    (hopen : s.lifecycle = .opened) {msgType msgLen : Int} (ht : headType s.data = msgType)
    (ht' : msgType ≤ maxLength) (hl : headLen s.data = msgLen) (hl' : msgLen ≤ maxLength)
    (hnew : -1 ≤ msgLen) :
    onHead false transferred s =
      asyncReadBody msgLen { s with recvMsgNode := some ⟨msgLen, 0, msgType, []⟩,
                                    nodes := s.nodes ++ [⟨msgLen, 0, msgType, []⟩] } := by
  have hnode : RecvNode.new msgLen msgType = some ⟨msgLen, 0, msgType, []⟩ := if_neg (by omega)
  unfold onHead
  rw [ht, hl, if_neg Bool.false_ne_true, if_neg (Nat.not_lt.mpr htr), if_neg (not_not.mpr hopen),
    if_neg (Int.not_lt.mpr ht'), if_neg (Int.not_lt.mpr hl'), hnode]

/-- The last read of a part calls the handler. -/
theorem step_complete_full {parse : List UInt8 → Json} {s : CSession} {p : PendingRead}
    (hs : s.pending = some p) {bytes : List UInt8}
    (hfull : p.totalLen ≤ p.readLen + bytes.length) (accepted : Bool) :
    step parse s (.complete false bytes accepted) =
      onRead parse accepted p.handler false (p.readLen + bytes.length)
        { s with data := store s.data p.readLen bytes, pending := none } := by
  unfold step
  rw [hs]
  exact if_pos (.inr hfull)

end CSession

end LlfcChat

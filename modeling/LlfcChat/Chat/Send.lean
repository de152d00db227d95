/-
The writing side of ChatServer's `CSession`: what `Send` does with a payload.

`Send` has no result.  A payload that is too long for the signed length field,
or that meets a full queue, is dropped, and nobody but the log of the server
learns of it.
-/
import LlfcChat.Chat.Session

namespace LlfcChat

/-- `kMaxSendPayload`, `SHRT_MAX - HEAD_TOTAL_LEN`, and `MAX_SENDQUE`. -/
def maxSendPayload : Nat := 32767 - headTotalLen
def maxSendQue : Nat := 1000

/-- A `SendNode`: its length and the bytes that go to the socket. -/
structure SendNode where
  totalLen : Int
  data : List UInt8
  deriving DecidableEq

/-- The constructor.  The length of the payload arrives as a `short`, and the
field in the head is the same `short`. -/
def SendNode.new (msg : List UInt8) (msgType : Int) : SendNode :=
  let maxLen := Wire.short msg.length
  { totalLen := Wire.short (maxLen + headTotalLen)
    data := Wire.field (msgType % 65536).toNat ++ Wire.field (maxLen % 65536).toNat ++
      msg.take maxLen.toNat }

/-- The part of the session that `Send` uses: the life cycle, whether the socket
is open, and the queue.  The node at the head of the queue is the one that is
being written. -/
structure SendSide where
  lifecycle : Lifecycle := .opened
  socketOpen : Bool := true
  sendQue : List SendNode := []
  deriving DecidableEq

/-- `CSession::Send`, as it runs on the thread of the socket.  The length is
compared as an `int`. -/
def SendSide.send (s : SendSide) (msg : String) (msgType : Int) : SendSide :=
  if s.lifecycle ≠ .opened ∨ s.socketOpen = false then s
  else if (maxSendPayload : Int) < Json.toInt32 msg.utf8ByteSize then s
  else if maxSendQue < s.sendQue.length then s
  else { s with sendQue := s.sendQue ++ [SendNode.new (Wire.utf8 msg) msgType] }

/-- The session takes payloads: it is open and its queue is not full. -/
def SendSide.Ready (s : SendSide) : Prop :=
  s.lifecycle = .opened ∧ s.socketOpen = true ∧ s.sendQue.length ≤ maxSendQue

instance (s : SendSide) : Decidable s.Ready := inferInstanceAs (Decidable (_ ∧ _ ∧ _))

/-- A payload of up to `kMaxSendPayload` bytes is queued. -/
theorem SendSide.send_of_le {s : SendSide} (hs : s.Ready) {msg : String} {msgType : Int}
    (h : msg.utf8ByteSize ≤ maxSendPayload) :
    s.send msg msgType =
      { s with sendQue := s.sendQue ++ [SendNode.new (Wire.utf8 msg) msgType] } := by
  obtain ⟨hopen, hsocket, hque⟩ := hs
  have hle : msg.utf8ByteSize ≤ 32763 := h
  rw [send, if_neg (by simp [hopen, hsocket]), if_neg, if_neg (by omega)]
  rw [Json.toInt32_of_lt (by omega)]
  omega

/-- A longer one is not, as long as its length is an `int`. -/
theorem SendSide.send_of_gt {s : SendSide} {msg : String} {msgType : Int}
    (h : maxSendPayload < msg.utf8ByteSize) (hint : msg.utf8ByteSize < 2 ^ 31) :
    s.send msg msgType = s := by
  unfold send
  split
  · rfl
  · rw [Json.toInt32_of_lt hint, if_pos (by omega)]

end LlfcChat

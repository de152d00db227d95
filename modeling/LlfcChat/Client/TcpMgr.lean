/-
The client's chat connection: reading frames and writing them.

`TcpMgr` owns one socket and uses it for one connection after another.  Between
callbacks it keeps what is left of a frame that has not come in yet, the frames
that wait to be written, and the rest of a frame the socket took only a part of.
There are two ways to a new connection: `slot_reconnect_chat` throws these leftovers
away, `slot_tcp_connect` does not.

Two abstract readings connect the code with the wire.  `splitFrames` cuts a byte
stream into its frames and what is left; the read loop, fed with the stream in any
segmentation, delivers exactly these frames.  The bytes written, with what waits to
be written behind them, are the concatenation of the frames passed to
`slot_send_data`.  Both hold on every connection that starts without leftovers, and
then nothing that happens later shows what came before.  A leftover, on the other hand,
can be made visible: `connection_isolated_iff`.

The socket is a `QTcpSocket`: `abort` and a `close` with nothing left to write report
`disconnected` at once if there was a connection, and a `close` before the connection
stands is put off until it does.
-/
import LlfcChat.Chat.Frames

namespace LlfcChat.Net

/-! ### Frames of a byte stream -/

/-- A message as it is handed to its handler: type, length and body. -/
structure Message where
  messageType : Nat
  messageLen : Nat
  body : List UInt8
  deriving DecidableEq

/-- A big-endian field of two bytes. -/
def beShort (hi lo : UInt8) : Nat := hi.toNat * 256 + lo.toNat

/-- The next frame of a stream, and the bytes behind it. -/
def nextFrame : List UInt8 → Option (Message × List UInt8)
  | a :: b :: c :: d :: rest =>
    if beShort c d ≤ rest.length then
      some (⟨beShort a b, beShort c d, rest.take (beShort c d)⟩, rest.drop (beShort c d))
    else none
  | _ => none

/-- At most `n` frames of a stream, and what is left. -/
def splitUpTo : Nat → List UInt8 → List Message × List UInt8
  | 0, bytes => ([], bytes)
  | n + 1, bytes =>
    match nextFrame bytes with
    | some (m, rest) => (m :: (splitUpTo n rest).1, (splitUpTo n rest).2)
    | none => ([], bytes)

/-- The frames of a stream and what is left: each frame has four bytes or more. -/
def splitFrames (bytes : List UInt8) : List Message × List UInt8 := splitUpTo bytes.length bytes

/-! ### The transport -/

inductive SocketState
  | unconnected
  | connecting
  | connected
  | closing
  deriving DecidableEq

/-- The socket takes bytes: they are buffered from `connectToHost` on. -/
def SocketState.Writable : SocketState → Bool
  | .connecting | .connected => true
  | .unconnected | .closing => false

/-- `TcpMgr`, its socket, and what happened on the current connection. -/
structure TcpMgr where
  socket : SocketState := .unconnected
  /-- a `close` that was put off -/
  pendingClose : Bool := false
  /-- the bytes that the socket took and has not passed on yet -/
  bytesToWrite : Nat := 0
  /-- `_server_info` was saved by a login -/
  serverInfo : Bool := false
  buffer : List UInt8 := []
  recvPending : Bool := false
  messageType : Nat := 0
  messageLen : Nat := 0
  sendQueue : List (List UInt8) := []
  sendQueueBytes : Int := 0
  currentBlock : List UInt8 := []
  pending : Bool := false
  manualClose : Bool := false
  reconnecting : Bool := false
  disconnectNotified : Bool := false
  /-- since the connection was requested: the bytes that came in, the messages that
  were delivered, the frames passed to `slot_send_data` and the bytes written -/
  received : List UInt8 := []
  delivered : List Message := []
  passed : List (List UInt8) := []
  written : List UInt8 := []
  deriving DecidableEq

namespace TcpMgr

/-! ### Reading -/

/-- The head of the next frame, unless it was read already; none when there are not
enough bytes. -/
def readHead (s : TcpMgr) : Option TcpMgr :=
  if s.recvPending then some s
  else match s.buffer with
    | a :: b :: c :: d :: rest =>
      some { s with messageType := beShort a b, messageLen := beShort c d, buffer := rest }
    | _ => none

/-- The `forever` loop of the readyRead handler. -/
def readLoop : Nat → TcpMgr → TcpMgr
  | 0, s => s
  | n + 1, s =>
    match s.readHead with
    | none => s
    | some s =>
      if s.buffer.length < s.messageLen then { s with recvPending := true }
      else readLoop n { s with
        recvPending := false
        buffer := s.buffer.drop s.messageLen
        delivered := s.delivered ++
          [⟨s.messageType, s.messageLen, s.buffer.take s.messageLen⟩] }

/-- readyRead: every round of the loop takes a byte out of the buffer or has a head
pending. -/
def readyRead (bytes : List UInt8) (s : TcpMgr) : TcpMgr :=
  let s := { s with buffer := s.buffer ++ bytes, received := s.received ++ bytes }
  readLoop (s.buffer.length + 1) s

/-! ### Writing -/

/-- The disconnected handler.  (`finishReconnectFailure` is `_reconnecting = false`,
`_manual_close = true` and an `abort` of the socket, which is not connected any more.) -/
def onDisconnected (s : TcpMgr) : TcpMgr :=
  if s.manualClose then s
  else if s.reconnecting then { s with reconnecting := false, manualClose := true }
  else { s with disconnectNotified := true }

/-- `_socket.abort()` -/
def abort (s : TcpMgr) : TcpMgr :=
  let s := { s with bytesToWrite := 0 }
  match s.socket with
  | .unconnected => s
  | .connecting => { s with socket := .unconnected }
  | .connected | .closing => onDisconnected { s with socket := .unconnected }

/-- `_socket.close()` -/
def closeSocket (s : TcpMgr) : TcpMgr :=
  match s.socket with
  | .unconnected => s
  | .connecting => { s with pendingClose := true }
  | .connected | .closing =>
    if 0 < s.bytesToWrite then { s with socket := .closing }
    else onDisconnected { s with socket := .unconnected }

/-- `handleWriteFailure` -/
def handleWriteFailure (s : TcpMgr) : TcpMgr :=
  let s := abort
    { s with sendQueue := [], sendQueueBytes := 0, currentBlock := [], pending := false }
  if !s.manualClose && !s.disconnectNotified then { s with disconnectNotified := true } else s

/-- `_socket.write(block)`: the number of bytes the socket takes, unless it fails.  One that
was closed takes none. -/
def write (s : TcpMgr) (answer : Option Nat) (block : List UInt8) : Option Nat :=
  if s.socket.Writable && !s.pendingClose then answer.map (min · block.length) else none

/-- The socket has taken these bytes. -/
def took (s : TcpMgr) (bytes : List UInt8) : TcpMgr :=
  { s with written := s.written ++ bytes, bytesToWrite := s.bytesToWrite + bytes.length }

/-- `_send_high_watermark` -/
def sendHighWatermark : Nat := 4 * 1024 * 1024

/-- The loop of `tryDequeueSend`, one round for each frame that waits.  The socket answers
each write in turn, and takes whole frames when the answers have run out. -/
def dequeueLoop : Nat → List (Option Nat) → TcpMgr → TcpMgr
  | 0, _, s => s
  | n + 1, answers, s =>
    match s.sendQueue with
    | [] => s
    | block :: rest =>
      if s.pending || decide (sendHighWatermark ≤ s.bytesToWrite) then s
      else
        let s := { s with sendQueue := rest, sendQueueBytes := s.sendQueueBytes - block.length }
        match s.write (answers.headD (some block.length)) block with
        | none => handleWriteFailure { s with currentBlock := block }
        | some accepted =>
          let s := s.took (block.take accepted)
          if accepted < block.length then
            { s with currentBlock := block.drop accepted, pending := true }
          else dequeueLoop n answers.tail { s with currentBlock := [] }

/-- `tryDequeueSend` -/
def tryDequeueSend (answers : List (Option Nat)) (s : TcpMgr) : TcpMgr :=
  dequeueLoop s.sendQueue.length answers s

/-- `flushPendingSuffix`: one write, for a write that takes a part ends the loop. -/
def flushPendingSuffix (answer : Option Nat) (s : TcpMgr) : TcpMgr :=
  if !s.pending then s
  else if s.currentBlock.isEmpty then { s with pending := false }
  else match s.write answer s.currentBlock with
    | none => handleWriteFailure s
    | some accepted =>
      let s' := s.took (s.currentBlock.take accepted)
      if accepted < s.currentBlock.length then
        { s' with currentBlock := s.currentBlock.drop accepted }
      else { s' with currentBlock := [], pending := false }

/-- The bound of the send queue, in bytes. -/
def maxQueueBytes : Int := 64 * 1024 * 1024

/-- `slot_send_data` -/
def slotSendData (reqId : Nat) (data : List UInt8) (answers : List (Option Nat)) (s : TcpMgr) :
    TcpMgr :=
  let block := frame reqId data
  let s := { s with passed := s.passed ++ [block] }
  if s.sendQueueBytes + block.length > maxQueueBytes then handleWriteFailure s
  else tryDequeueSend answers { s with
    sendQueue := s.sendQueue ++ [block]
    sendQueueBytes := s.sendQueueBytes + block.length }

/-! ### Connections -/

/-- `_socket.connectToHost`: a socket in use ignores the call. -/
def connectToHost (s : TcpMgr) : TcpMgr :=
  if s.socket = .unconnected then
    { s with
      socket := .connecting, pendingClose := false, bytesToWrite := 0
      received := [], delivered := [], passed := [], written := [] }
  else s

/-- `slot_tcp_connect` -/
def slotTcpConnect (s : TcpMgr) : TcpMgr :=
  connectToHost { s with
    manualClose := false
    reconnecting := false
    disconnectNotified := false
    serverInfo := true }

/-- `slot_reconnect_chat`; `_send_queue_bytes` is not reset. -/
def slotReconnectChat (hostGiven portGiven : Bool) (s : TcpMgr) : TcpMgr :=
  if !s.serverInfo || !hostGiven || !portGiven || s.socket ≠ .unconnected then s
  else connectToHost { s with
    buffer := []
    recvPending := false
    messageType := 0
    messageLen := 0
    sendQueue := []
    currentBlock := []
    pending := false
    manualClose := false
    disconnectNotified := false
    reconnecting := true }

/-- `slot_tcp_close` -/
def slotTcpClose (s : TcpMgr) : TcpMgr :=
  closeSocket { s with manualClose := true, reconnecting := false }

/-- The connected handler, which after a reconnection sends the login request, and then a
`close` that was put off. -/
def onConnected (reqId : Nat) (login : List UInt8) (answers : List (Option Nat)) (s : TcpMgr) :
    TcpMgr :=
  let s := { s with socket := .connected, disconnectNotified := false }
  let s := if s.reconnecting then s.slotSendData reqId login answers else s
  if s.pendingClose then s.closeSocket else s

/-- The error handler; without a connection the socket is down. -/
def onError (s : TcpMgr) : TcpMgr :=
  let s := if s.socket = .connecting then { s with socket := .unconnected } else s
  if s.reconnecting then abort { s with reconnecting := false, manualClose := true } else s

/-- What can happen to `TcpMgr`. -/
inductive Event
  | tcpConnect
  | reconnectChat (hostGiven portGiven : Bool)
  | tcpClose
  | connected (reqId : Nat) (login : List UInt8) (answers : List (Option Nat))
  | disconnected
  | socketError
  | sendData (reqId : Nat) (data : List UInt8) (answers : List (Option Nat))
  /-- the socket has passed on so many bytes -/
  | bytesWritten (count : Nat) (answer : Option Nat) (answers : List (Option Nat))
  | incoming (bytes : List UInt8)

/-- One event.  What cannot be in this state of the socket changes nothing. -/
def step (s : TcpMgr) : Event → TcpMgr
  | .tcpConnect => s.slotTcpConnect
  | .reconnectChat hostGiven portGiven => s.slotReconnectChat hostGiven portGiven
  | .tcpClose => s.slotTcpClose
  | .connected reqId login answers =>
    if s.socket = .connecting then s.onConnected reqId login answers else s
  | .disconnected =>
    if s.socket = .connected ∨ s.socket = .closing then
      onDisconnected { s with socket := .unconnected }
    else s
  | .socketError => s.onError
  | .sendData reqId data answers => s.slotSendData reqId data answers
  | .bytesWritten count answer answers =>
    ({ s with bytesToWrite := s.bytesToWrite - count }.flushPendingSuffix answer).tryDequeueSend
      answers
  | .incoming bytes => if s.socket = .connected then s.readyRead bytes else s

/-- A whole run. -/
def run (s : TcpMgr) (events : List Event) : TcpMgr := events.foldl step s

end TcpMgr

/-! ### Cutting a stream -/

section Frames

variable {a b rest : List UInt8} {m : Message}

theorem nextFrame_length (h : nextFrame a = some (m, rest)) : rest.length + 4 ≤ a.length := by
  unfold nextFrame at h
  split at h
  · split_ifs at h
    simp only [Option.some.injEq, Prod.mk.injEq] at h
    rw [← h.2]
    simp only [List.length_drop, List.length_cons]
    omega
  · cases h

/-- Bytes behind a whole frame stay behind it. -/
theorem nextFrame_append (h : nextFrame a = some (m, rest)) (b : List UInt8) :
    nextFrame (a ++ b) = some (m, rest ++ b) := by
  unfold nextFrame at h
  split at h
  · rename_i hi lo c d tail
    split_ifs at h with hlen
    obtain ⟨rfl, rfl⟩ := h
    have hlong : beShort c d ≤ (tail ++ b).length := by
      rw [List.length_append]
      omega
    simp only [List.cons_append, nextFrame, if_pos hlong]
    rw [List.take_append_of_le_length hlen, List.drop_append_of_le_length hlen]
  · cases h

/-- The number of rounds does not matter once it is large enough. -/
theorem splitUpTo_eq {n k : Nat} (hn : a.length ≤ n) (hk : a.length ≤ k) :
    splitUpTo n a = splitUpTo k a := by
  induction n generalizing a k with
  | zero =>
    obtain rfl := List.length_eq_zero_iff.mp (Nat.le_zero.mp hn)
    cases k <;> rfl
  | succ n ih =>
    cases k with
    | zero =>
      obtain rfl := List.length_eq_zero_iff.mp (Nat.le_zero.mp hk)
      rfl
    | succ k =>
      unfold splitUpTo
      cases hnext : nextFrame a with
      | none => rfl
      | some x =>
        have hlen := nextFrame_length (m := x.1) hnext
        have heq : splitUpTo n x.2 = splitUpTo k x.2 := ih (by omega) (by omega)
        dsimp only
        rw [heq]

theorem splitFrames_some (h : nextFrame a = some (m, rest)) :
    splitFrames a = (m :: (splitFrames rest).1, (splitFrames rest).2) := by
  have hlen := nextFrame_length h
  have hrest : splitUpTo (a.length - 1) rest = splitFrames rest :=
    splitUpTo_eq (by omega) (le_refl _)
  have hsucc : a.length = a.length - 1 + 1 := by omega
  unfold splitFrames
  rw [hsucc, splitUpTo, h]
  dsimp only
  rw [hrest]
  rfl

theorem splitFrames_none (h : nextFrame a = none) : splitFrames a = ([], a) := by
  unfold splitFrames
  cases a.length with
  | zero => rfl
  | succ n =>
    rw [splitUpTo, h]

/-- **Segmentation does not matter**: cutting a part first and the rest later is
cutting the whole. -/
theorem splitFrames_append (a b : List UInt8) :
    splitFrames (a ++ b) =
      ((splitFrames a).1 ++ (splitFrames ((splitFrames a).2 ++ b)).1,
        (splitFrames ((splitFrames a).2 ++ b)).2) := by
  induction hn : a.length using Nat.strong_induction_on generalizing a with
  | _ n ih =>
    cases hnext : nextFrame a with
    | none =>
      rw [splitFrames_none hnext]
      rfl
    | some x =>
      obtain ⟨m, rest⟩ := x
      have hlen := nextFrame_length hnext
      have hrest := ih rest.length (by omega) rest rfl
      rw [splitFrames_some (nextFrame_append hnext b), splitFrames_some hnext, hrest]
      rfl

end Frames

namespace TcpMgr

variable {s s' : TcpMgr}

/-! ### The read loop -/

/-- The bytes that were received and not delivered. -/
def Holds (s : TcpMgr) (left : List UInt8) : Prop :=
  if s.recvPending then
    ∃ a b c d, left = a :: b :: c :: d :: s.buffer ∧ s.messageType = beShort a b ∧
      s.messageLen = beShort c d
  else left = s.buffer

/-- The part of the state that writing works on. -/
def writer (s : TcpMgr) :
    SocketState × List (List UInt8) × List UInt8 × Bool × List (List UInt8) × List UInt8 :=
  (s.socket, s.sendQueue, s.currentBlock, s.pending, s.passed, s.written)

/-- The part of the state that reading works on. -/
def reader (s : TcpMgr) : List UInt8 × Bool × Nat × Nat × List UInt8 × List Message :=
  (s.buffer, s.recvPending, s.messageType, s.messageLen, s.received, s.delivered)

/-- Reading the head: there are four bytes, or there is nothing to do. -/
theorem readHead_cases {left : List UInt8} (h : Holds s left) :
    (s.readHead = none ∧ s.recvPending = false ∧ nextFrame left = none) ∨
      ∃ a b c d rest, left = a :: b :: c :: d :: rest ∧ s.readHead = some
        { s with messageType := beShort a b, messageLen := beShort c d, buffer := rest } := by
  unfold Holds at h
  unfold readHead
  split_ifs at h with hp
  · obtain ⟨a, b, c, d, rfl, ht, hl⟩ := h
    refine .inr ⟨a, b, c, d, s.buffer, rfl, ?_⟩
    rw [if_pos hp, ← ht, ← hl]
  · subst h
    rw [if_neg hp]
    split
    · rename_i a b c d rest hb
      exact .inr ⟨a, b, c, d, rest, hb, rfl⟩
    · rename_i hshort
      refine .inl ⟨rfl, by simpa using hp, ?_⟩
      unfold nextFrame
      split
      · rename_i a b c d rest hb
        exact absurd hb (hshort a b c d rest)
      · rfl

/-- The loop delivers the frames that are there and keeps what is left. -/
theorem readLoop_spec (n : Nat) {left : List UInt8} (h : Holds s left) (hn : left.length ≤ 4 * n) :
    (readLoop n s).delivered = s.delivered ++ (splitFrames left).1 ∧
      Holds (readLoop n s) (splitFrames left).2 ∧ (readLoop n s).writer = s.writer ∧
      (readLoop n s).received = s.received := by
  induction n generalizing s left with
  | zero =>
    obtain rfl := List.length_eq_zero_iff.mp (Nat.le_zero.mp hn)
    exact ⟨(List.append_nil _).symm, h, rfl, rfl⟩
  | succ n ih =>
    rcases readHead_cases h with ⟨hhead, hp, hnone⟩ | ⟨a, b, c, d, rest, rfl, hhead⟩
    · rw [splitFrames_none hnone, readLoop, hhead]
      exact ⟨(List.append_nil _).symm, h, rfl, rfl⟩
    · rw [readLoop, hhead]
      dsimp only
      by_cases hlen : rest.length < beShort c d
      · -- the body has not come in yet: the head is kept for the next time
        have hnone : nextFrame (a :: b :: c :: d :: rest) = none := by
          simp only [nextFrame, if_neg (Nat.not_le.mpr hlen)]
        rw [if_pos hlen, splitFrames_none hnone]
        refine ⟨(List.append_nil _).symm, ?_, rfl, rfl⟩
        exact ⟨a, b, c, d, rfl, rfl, rfl⟩
      · have hnext : nextFrame (a :: b :: c :: d :: rest) = some
            (⟨beShort a b, beShort c d, rest.take (beShort c d)⟩, rest.drop (beShort c d)) := by
          simp only [nextFrame, if_pos (Nat.not_lt.mp hlen)]
        rw [if_neg hlen, splitFrames_some hnext]
        have hshort := nextFrame_length hnext
        have hdrop : (rest.drop (beShort c d)).length ≤ 4 * n := by omega
        obtain ⟨hdelivered, hholds, hwriter, hreceived⟩ := ih
          (s := { s with
            messageType := beShort a b
            messageLen := beShort c d
            recvPending := false
            buffer := rest.drop (beShort c d)
            delivered := s.delivered ++ [⟨beShort a b, beShort c d, rest.take (beShort c d)⟩] })
          rfl hdrop
        exact ⟨hdelivered.trans (by rw [List.append_assoc]; rfl), hholds, hwriter, hreceived⟩

/-- What was received is what was delivered and what is left. -/
structure ReaderOk (s : TcpMgr) : Prop where
  delivered : s.delivered = (splitFrames s.received).1
  left : Holds s (splitFrames s.received).2

theorem ReaderOk.congr (h : ReaderOk s) (he : s'.reader = s.reader) : ReaderOk s' := by
  simp only [reader, Prod.mk.injEq] at he
  obtain ⟨hb, hp, ht, hl, hr, hd⟩ := he
  refine ⟨by rw [hd, hr, h.delivered], ?_⟩
  have hleft := h.left
  unfold Holds at hleft ⊢
  rw [hb, hp, ht, hl, hr]
  exact hleft

theorem ReaderOk.readyRead (h : ReaderOk s) (bytes : List UInt8) :
    ReaderOk (s.readyRead bytes) ∧ (s.readyRead bytes).writer = s.writer := by
  have hholds : Holds { s with buffer := s.buffer ++ bytes, received := s.received ++ bytes }
      ((splitFrames s.received).2 ++ bytes) := by
    have hleft := h.left
    unfold Holds at hleft ⊢
    split_ifs at hleft ⊢
    · obtain ⟨a, b, c, d, hleft, ht, hl⟩ := hleft
      exact ⟨a, b, c, d, by rw [hleft]; rfl, ht, hl⟩
    · rw [hleft]
  have hlen : ((splitFrames s.received).2 ++ bytes).length ≤
      4 * ((s.buffer ++ bytes).length + 1) := by
    have hleft := h.left
    unfold Holds at hleft
    split_ifs at hleft
    · obtain ⟨a, b, c, d, hleft, -⟩ := hleft
      rw [hleft]
      simp only [List.length_append, List.length_cons]
      omega
    · rw [hleft]
      omega
  obtain ⟨hdelivered, hleft, hwriter, hreceived⟩ := readLoop_spec _ hholds hlen
  have hsplit := splitFrames_append s.received bytes
  refine ⟨⟨?_, ?_⟩, hwriter⟩
  · show (readLoop _ _).delivered = (splitFrames (readLoop _ _).received).1
    rw [hdelivered, hreceived, hsplit, h.delivered]
  · show Holds (readLoop _ _) (splitFrames (readLoop _ _).received).2
    rw [hreceived, hsplit]
    exact hleft

/-! ### Writing -/

/-- The bytes that wait to be written. -/
def waiting (s : TcpMgr) : List UInt8 :=
  (if s.pending then s.currentBlock else []) ++ s.sendQueue.flatten

/-- What was passed is what was written and, as long as the socket takes bytes, what
waits. -/
structure WriterOk (s : TcpMgr) : Prop where
  written : s.written <+: s.passed.flatten
  waiting : s.socket.Writable = true → s.passed.flatten = s.written ++ s.waiting

theorem WriterOk.congr (h : WriterOk s) (he : s'.writer = s.writer) : WriterOk s' := by
  simp only [writer, Prod.mk.injEq] at he
  obtain ⟨hs, hq, hc, hp, hpassed, hw⟩ := he
  refine ⟨by rw [hw, hpassed]; exact h.written, fun hwritable => ?_⟩
  have hwaiting := h.waiting (hs ▸ hwritable)
  unfold TcpMgr.waiting at hwaiting ⊢
  rw [hpassed, hw, hp, hc, hq]
  exact hwaiting

theorem onDisconnected_spec (s : TcpMgr) :
    (onDisconnected s).writer = s.writer ∧ (onDisconnected s).reader = s.reader := by
  unfold onDisconnected
  split_ifs <;> exact ⟨rfl, rfl⟩

/-- A socket that takes no more bytes. -/
theorem writerOk_of_down (hs : s.socket.Writable = false)
    (hw : s.written <+: s.passed.flatten) : WriterOk s :=
  ⟨hw, fun h => absurd h (by rw [hs]; decide)⟩

/-- A connection that has gone down. -/
theorem onDisconnected_ok (hw : s.written <+: s.passed.flatten) :
    WriterOk (onDisconnected { s with socket := .unconnected }) ∧
      (onDisconnected { s with socket := .unconnected }).reader = s.reader := by
  obtain ⟨hwriter, hreader⟩ := onDisconnected_spec { s with socket := .unconnected }
  have hdown : WriterOk { s with socket := .unconnected } := writerOk_of_down rfl hw
  exact ⟨hdown.congr hwriter, hreader⟩

/-- After an `abort` nothing is written any more. -/
theorem abort_ok (hw : s.written <+: s.passed.flatten) :
    WriterOk (abort s) ∧ (abort s).reader = s.reader := by
  unfold abort
  dsimp only
  split
  · rename_i hs
    exact ⟨writerOk_of_down (by rw [hs]; rfl) hw, rfl⟩
  · exact ⟨writerOk_of_down rfl hw, rfl⟩
  · exact onDisconnected_ok (s := { s with bytesToWrite := 0 }) hw
  · exact onDisconnected_ok (s := { s with bytesToWrite := 0 }) hw

theorem WriterOk.closeSocket (h : WriterOk s) :
    WriterOk s.closeSocket ∧ s.closeSocket.reader = s.reader := by
  unfold TcpMgr.closeSocket
  split
  · exact ⟨h, rfl⟩
  · exact ⟨h.congr rfl, rfl⟩
  all_goals
    split_ifs
    · exact ⟨writerOk_of_down rfl h.written, rfl⟩
    · exact onDisconnected_ok h.written

theorem handleWriteFailure_spec (hw : s.written <+: s.passed.flatten) :
    WriterOk (handleWriteFailure s) ∧ (handleWriteFailure s).reader = s.reader := by
  obtain ⟨habort, hreader⟩ := abort_ok
    (s := { s with sendQueue := [], sendQueueBytes := 0, currentBlock := [], pending := false }) hw
  unfold handleWriteFailure
  dsimp only
  split_ifs
  · exact ⟨habort.congr rfl, hreader⟩
  · exact ⟨habort, hreader⟩

theorem write_cases (s : TcpMgr) (answer : Option Nat) (block : List UInt8) :
    s.write answer block = none ∨
      ∃ n ≤ block.length, s.write answer block = some n ∧ s.socket.Writable = true := by
  unfold write
  split_ifs with h
  · cases answer with
    | none => exact .inl rfl
    | some k => exact .inr ⟨_, min_le_right _ _, rfl, (Bool.and_eq_true_iff.mp h).1⟩
  · exact .inl rfl

/-- The bytes the socket took move from what waits to what is written. -/
theorem WriterOk.accept {block rest : List UInt8} (h : WriterOk s)
    (hs : s.socket.Writable = true) (hwait : s.waiting = block ++ rest) {n : Nat}
    (hpassed : s'.passed = s.passed)
    (hwritten : s'.written = s.written ++ block.take n)
    (hwaiting : s'.waiting = block.drop n ++ rest) : WriterOk s' := by
  have hall : s'.passed.flatten = s'.written ++ s'.waiting := by
    rw [hpassed, hwritten, hwaiting, h.waiting hs, hwait, List.append_assoc,
      ← List.append_assoc (block.take n), List.take_append_drop]
  exact ⟨⟨_, hall.symm⟩, fun _ => hall⟩

theorem WriterOk.dequeueLoop (h : WriterOk s) (n : Nat) (answers : List (Option Nat)) :
    WriterOk (dequeueLoop n answers s) ∧ (dequeueLoop n answers s).reader = s.reader := by
  induction n generalizing s answers with
  | zero => exact ⟨h, rfl⟩
  | succ n ih =>
    unfold TcpMgr.dequeueLoop
    split
    · exact ⟨h, rfl⟩
    · rename_i block rest hqueue
      split_ifs with hstop
      · exact ⟨h, rfl⟩
      · have hpending : s.pending = false := by
          simp only [Bool.or_eq_true, not_or, Bool.not_eq_true] at hstop
          exact hstop.1
        have hwait : s.waiting = block ++ rest.flatten := by
          simp [TcpMgr.waiting, hpending, hqueue]
        dsimp only
        have hwrite := write_cases ({ s with
          sendQueue := rest
          sendQueueBytes := s.sendQueueBytes - block.length } : TcpMgr)
          (answers.headD (some block.length)) block
        rcases hwrite with hnone | ⟨k, hk, hsome, hs⟩
        · rw [hnone]
          exact handleWriteFailure_spec h.written
        · rw [hsome]
          dsimp only
          split_ifs with hpart
          · exact ⟨h.accept hs hwait rfl rfl rfl, rfl⟩
          · have hfull : k = block.length := by omega
            subst hfull
            refine ih ?_ answers.tail
            refine h.accept hs hwait rfl rfl ?_
            simp [TcpMgr.waiting, TcpMgr.took, hpending]

theorem WriterOk.flushPendingSuffix (h : WriterOk s) (answer : Option Nat) :
    WriterOk (s.flushPendingSuffix answer) ∧ (s.flushPendingSuffix answer).reader = s.reader := by
  unfold TcpMgr.flushPendingSuffix
  split_ifs with hpending hempty
  · exact ⟨h, rfl⟩
  · have hpending' : s.pending = true := by simpa using hpending
    have hblock : s.currentBlock = [] := by simpa using hempty
    refine ⟨⟨h.written, fun hs => ?_⟩, rfl⟩
    rw [h.waiting hs]
    simp [TcpMgr.waiting, hpending', hblock]
  · have hpending' : s.pending = true := by simpa using hpending
    have hwait : s.waiting = s.currentBlock ++ s.sendQueue.flatten := by
      simp [TcpMgr.waiting, hpending']
    rcases write_cases s answer s.currentBlock with hnone | ⟨k, hk, hsome, hs⟩
    · rw [hnone]
      exact handleWriteFailure_spec h.written
    · rw [hsome]
      dsimp only
      split_ifs with hpart
      · refine ⟨h.accept hs hwait rfl rfl ?_, rfl⟩
        simp [TcpMgr.waiting, TcpMgr.took, hpending']
      · have hfull : k = s.currentBlock.length := by omega
        subst hfull
        refine ⟨h.accept hs hwait rfl rfl ?_, rfl⟩
        simp [TcpMgr.waiting, TcpMgr.took]

theorem WriterOk.slotSendData (h : WriterOk s) (reqId : Nat) (data : List UInt8)
    (answers : List (Option Nat)) :
    WriterOk (s.slotSendData reqId data answers) ∧
      (s.slotSendData reqId data answers).reader = s.reader := by
  have hpre : s.written <+: (s.passed ++ [frame reqId data]).flatten := by
    rw [List.flatten_append]
    exact h.written.trans (List.prefix_append _ _)
  unfold TcpMgr.slotSendData
  dsimp only
  split_ifs
  · exact handleWriteFailure_spec hpre
  · refine WriterOk.dequeueLoop ⟨hpre, fun hs => ?_⟩ _ answers
    have hwaiting := h.waiting hs
    simp only [TcpMgr.waiting, List.flatten_append, hwaiting, List.append_assoc]

theorem WriterOk.onConnected (h : WriterOk s) (hs : s.socket = .connecting) (reqId : Nat)
    (login : List UInt8) (answers : List (Option Nat)) :
    WriterOk (s.onConnected reqId login answers) ∧
      (s.onConnected reqId login answers).reader = s.reader := by
  have hwait : WriterOk { s with socket := .connected, disconnectNotified := false } :=
    ⟨h.written, fun _ => h.waiting (by rw [hs]; rfl)⟩
  have hsent : ∃ s', s.onConnected reqId login answers =
      (if s'.pendingClose then s'.closeSocket else s') ∧ WriterOk s' ∧ s'.reader = s.reader := by
    refine ⟨_, rfl, ?_⟩
    dsimp only
    split_ifs
    · exact hwait.slotSendData reqId login answers
    · exact ⟨hwait, rfl⟩
  obtain ⟨s', heq, hw, hreader⟩ := hsent
  rw [heq]
  split_ifs
  · exact ⟨hw.closeSocket.1, hw.closeSocket.2.trans hreader⟩
  · exact ⟨hw, hreader⟩

theorem WriterOk.onError (h : WriterOk s) : WriterOk s.onError ∧ s.onError.reader = s.reader := by
  have hdown : ∃ s', s.onError = (if s'.reconnecting then
      abort { s' with reconnecting := false, manualClose := true } else s') ∧ WriterOk s' ∧
      s'.reader = s.reader := by
    refine ⟨_, rfl, ?_⟩
    split_ifs
    · exact ⟨writerOk_of_down rfl h.written, rfl⟩
    · exact ⟨h, rfl⟩
  obtain ⟨s', heq, hw, hreader⟩ := hdown
  rw [heq]
  split_ifs
  · obtain ⟨habort, hreader'⟩ := abort_ok
      (s := { s' with reconnecting := false, manualClose := true }) hw.written
    exact ⟨habort, hreader'.trans hreader⟩
  · exact ⟨hw, hreader⟩

/-! ### Connections -/

/-- Nothing is left of an earlier connection. -/
structure Clean (s : TcpMgr) : Prop where
  buffer : s.buffer = []
  recvPending : s.recvPending = false
  sendQueue : s.sendQueue = []
  sendQueueBytes : s.sendQueueBytes = 0
  pending : s.pending = false

/-- The same without leftovers. -/
def cleared (s : TcpMgr) : TcpMgr :=
  { s with buffer := [], recvPending := false, sendQueue := [], sendQueueBytes := 0
           pending := false }

theorem Clean.cleared_eq (h : Clean s) : s.cleared = s := by
  obtain ⟨hbuffer, hrecv, hqueue, hbytes, hpending⟩ := h
  cases s
  dsimp only at hbuffer hrecv hqueue hbytes hpending
  subst hbuffer hrecv hqueue hbytes hpending
  rfl

/-- The event requests a new connection. -/
def Opens (s : TcpMgr) : Event → Prop
  | .tcpConnect => s.socket = .unconnected
  | .reconnectChat hostGiven portGiven =>
    s.serverInfo = true ∧ hostGiven = true ∧ portGiven = true ∧ s.socket = .unconnected
  | _ => False

/-- A connection that `slot_tcp_connect` requests finds nothing left over, and one that
`slot_reconnect_chat` requests finds the byte count of the queue at 0. -/
def NoLeftovers (s : TcpMgr) : Event → Prop
  | .tcpConnect => s.socket = .unconnected → Clean s
  | .reconnectChat hostGiven portGiven =>
    Opens s (.reconnectChat hostGiven portGiven) → s.sendQueueBytes = 0
  | _ => True

/-- A connection that starts clean. -/
theorem connectToHost_clean (h : Clean s) (hs : s.socket = .unconnected) :
    ReaderOk s.connectToHost ∧ WriterOk s.connectToHost := by
  unfold connectToHost
  rw [if_pos hs]
  refine ⟨⟨rfl, ?_⟩, ⟨List.nil_prefix, fun _ => ?_⟩⟩
  · show if s.recvPending then _ else [] = s.buffer
    rw [if_neg (by simp [h.recvPending]), h.buffer]
  · simp [TcpMgr.waiting, h.pending, h.sendQueue]

/-- **One event.**  Reading and writing stay right, if a new connection finds no
leftovers. -/
theorem step_ok (hr : ReaderOk s) (hw : WriterOk s) (e : Event) (he : NoLeftovers s e) :
    ReaderOk (s.step e) ∧ WriterOk (s.step e) := by
  cases e with
  | tcpConnect =>
    show ReaderOk (connectToHost _) ∧ WriterOk (connectToHost _)
    by_cases hs : s.socket = .unconnected
    · obtain ⟨hbuffer, hrecv, hqueue, hbytes, hpending⟩ := he hs
      exact connectToHost_clean ⟨hbuffer, hrecv, hqueue, hbytes, hpending⟩ hs
    · unfold connectToHost
      rw [if_neg hs]
      exact ⟨hr.congr rfl, hw.congr rfl⟩
  | reconnectChat hostGiven portGiven =>
    show ReaderOk (slotReconnectChat _ _ _) ∧ WriterOk (slotReconnectChat _ _ _)
    unfold slotReconnectChat
    split_ifs with hrefused
    · exact ⟨hr, hw⟩
    · simp only [Bool.or_eq_true, Bool.not_eq_true', decide_eq_true_eq, not_or,
        Bool.not_eq_false, ne_eq, not_not] at hrefused
      obtain ⟨⟨⟨hinfo, hhost⟩, hport⟩, hs⟩ := hrefused
      have hbytes := he ⟨hinfo, hhost, hport, hs⟩
      exact connectToHost_clean ⟨rfl, rfl, rfl, hbytes, rfl⟩ hs
  | tcpClose =>
    have hclose : WriterOk { s with manualClose := true, reconnecting := false } := hw.congr rfl
    exact ⟨hr.congr hclose.closeSocket.2, hclose.closeSocket.1⟩
  | connected reqId login answers =>
    show ReaderOk (if _ then _ else _) ∧ WriterOk (if _ then _ else _)
    split_ifs with hs
    · obtain ⟨hw', hreader⟩ := hw.onConnected hs reqId login answers
      exact ⟨hr.congr hreader, hw'⟩
    · exact ⟨hr, hw⟩
  | disconnected =>
    show ReaderOk (if _ then _ else _) ∧ WriterOk (if _ then _ else _)
    split_ifs
    · obtain ⟨hw', hreader⟩ := onDisconnected_ok hw.written
      exact ⟨hr.congr hreader, hw'⟩
    · exact ⟨hr, hw⟩
  | socketError => exact ⟨hr.congr hw.onError.2, hw.onError.1⟩
  | sendData reqId data answers =>
    obtain ⟨hw', hreader⟩ := hw.slotSendData reqId data answers
    exact ⟨hr.congr hreader, hw'⟩
  | bytesWritten count answer answers =>
    have hpassed : WriterOk { s with bytesToWrite := s.bytesToWrite - count } := hw.congr rfl
    obtain ⟨hflush, hreader⟩ := hpassed.flushPendingSuffix answer
    obtain ⟨hw', hreader'⟩ := hflush.dequeueLoop _ answers
    exact ⟨hr.congr (hreader'.trans hreader), hw'⟩
  | incoming bytes =>
    show ReaderOk (if _ then _ else _) ∧ WriterOk (if _ then _ else _)
    split_ifs
    · obtain ⟨hr', hwriter⟩ := hr.readyRead bytes
      exact ⟨hr', hw.congr hwriter⟩
    · exact ⟨hr, hw⟩

/-- A reconnection empties the queue and leaves the count. -/
theorem step_reconnectChat {hostGiven portGiven : Bool}
    (hopens : Opens s (.reconnectChat hostGiven portGiven)) :
    s.step (.reconnectChat hostGiven portGiven) = { s with
      buffer := [], recvPending := false, messageType := 0, messageLen := 0, sendQueue := []
      currentBlock := [], pending := false, manualClose := false, disconnectNotified := false
      reconnecting := true, socket := .connecting, pendingClose := false, bytesToWrite := 0
      received := [], delivered := [], passed := [], written := [] } := by
  obtain ⟨hinfo, hhost, hport, hs⟩ := hopens
  show slotReconnectChat _ _ _ = _
  simp only [slotReconnectChat, connectToHost, hinfo, hhost, hport, hs, Bool.not_true,
    Bool.or_self, ne_eq, not_true_eq_false, decide_false, Bool.false_eq_true, if_false, if_true]

theorem step_tcpConnect (hs : s.socket = .unconnected) :
    s.step .tcpConnect = { s with
      manualClose := false, reconnecting := false, disconnectNotified := false, serverInfo := true
      socket := .connecting, pendingClose := false, bytesToWrite := 0, received := []
      delivered := [], passed := [], written := [] } :=
  if_pos hs

/-- Without leftovers a new connection starts as if nothing had been. -/
theorem step_cleared {e : Event} (he : Opens s e) (h : NoLeftovers s e) :
    s.cleared.step e = s.step e := by
  cases e with
  | tcpConnect => rw [(h he).cleared_eq]
  | reconnectChat hostGiven portGiven =>
    rw [step_reconnectChat (s := s.cleared) he, step_reconnectChat he, h he]
    rfl
  | _ => exact he.elim

/-! ### Leftovers show -/

/-- Whatever happens, the two deliver and write the same. -/
def Alike (s s' : TcpMgr) : Prop :=
  ∀ later, (s.run later).delivered = (s'.run later).delivered ∧
    (s.run later).written = (s'.run later).written

/-- A connection that was requested just now. -/
structure Requested (s : TcpMgr) : Prop where
  socket : s.socket = .connecting
  pendingClose : s.pendingClose = false
  bytesToWrite : s.bytesToWrite = 0
  received : s.received = []
  delivered : s.delivered = []
  written : s.written = []

theorem Opens.requested {e : Event} (he : Opens s e) : Requested (s.step e) := by
  cases e with
  | tcpConnect =>
    rw [step_tcpConnect he]
    exact ⟨rfl, rfl, rfl, rfl, rfl, rfl⟩
  | reconnectChat hostGiven portGiven =>
    rw [step_reconnectChat he]
    exact ⟨rfl, rfl, rfl, rfl, rfl, rfl⟩
  | _ => exact he.elim

theorem written_handleWriteFailure (s : TcpMgr) : (handleWriteFailure s).written = s.written := by
  unfold handleWriteFailure abort onDisconnected
  dsimp only
  repeat' split
  all_goals rfl

theorem length_frame (reqId : Nat) (data : List UInt8) :
    (frame reqId data).length = data.length + 4 := by
  rw [frame, List.length_append, Nat.add_comm]
  rfl

/-- A frame that finds room in the socket is taken as a whole. -/
theorem slotSendData_taken (hs : s.socket.Writable = true) (hclose : s.pendingClose = false)
    (hroom : s.bytesToWrite < sendHighWatermark) (hqueue : s.sendQueue = [])
    (hpending : s.pending = false) {reqId : Nat} {data : List UInt8}
    (hbound : s.sendQueueBytes + (frame reqId data).length ≤ maxQueueBytes) :
    s.slotSendData reqId data [] = { s with
      passed := s.passed ++ [frame reqId data], written := s.written ++ frame reqId data
      bytesToWrite := s.bytesToWrite + (frame reqId data).length, currentBlock := [] } := by
  have hfull : ¬sendHighWatermark ≤ s.bytesToWrite := Nat.not_le.mpr hroom
  unfold slotSendData
  dsimp only
  rw [if_neg (not_lt.mpr hbound), tryDequeueSend]
  simp [hqueue, dequeueLoop, hpending, hfull, write, hs, hclose, took]

theorem dequeueLoop_pending (h : s.pending = true) (n : Nat) (answers : List (Option Nat)) :
    dequeueLoop n answers s = s := by
  cases n with
  | zero => rfl
  | succ n =>
    unfold dequeueLoop
    split
    · rfl
    · rw [if_pos (by simp [h])]

section Requested

variable (h : Requested s)
include h

/-- The first frame is written, unless the count of the queue says no. -/
theorem Requested.sendData (hqueue : s.sendQueue = []) (hpending : s.pending = false)
    (data : List UInt8) : (s.step (.sendData 0 data [])).written =
      if s.sendQueueBytes + (data.length + 4 : Nat) > maxQueueBytes then [] else frame 0 data := by
  have hlen := length_frame 0 data
  show (s.slotSendData 0 data []).written = _
  split_ifs with hover
  · unfold slotSendData
    dsimp only
    rw [if_pos (by rwa [hlen]), written_handleWriteFailure, h.written]
  · rw [slotSendData_taken (by rw [h.socket]; rfl) h.pendingClose
      (by rw [h.bytesToWrite]; decide) hqueue hpending (by rw [hlen]; exact not_lt.mp hover)]
    show s.written ++ _ = _
    rw [h.written, List.nil_append]

/-- Behind a suffix that is pending nothing is written. -/
theorem Requested.sendData_pending (hpending : s.pending = true) (data : List UInt8) :
    (s.step (.sendData 0 data [])).written = [] := by
  show (s.slotSendData 0 data []).written = _
  unfold slotSendData
  dsimp only
  split_ifs
  · rw [written_handleWriteFailure, h.written]
  · rw [tryDequeueSend, dequeueLoop_pending]
    · exact h.written
    · exact hpending

end Requested

theorem dequeueLoop_written (n : Nat) (answers : List (Option Nat)) (s : TcpMgr) :
    s.written <+: (dequeueLoop n answers s).written := by
  induction n generalizing s answers with
  | zero => exact List.prefix_refl _
  | succ n ih =>
    unfold dequeueLoop
    dsimp only
    repeat' split
    · exact List.prefix_refl _
    · exact List.prefix_refl _
    · rw [written_handleWriteFailure]
    · exact List.prefix_append _ _
    · refine List.IsPrefix.trans ?_ (ih _ _)
      exact List.prefix_append _ _

theorem flushPendingSuffix_idle (h : s.pending = false) (answer : Option Nat) :
    s.flushPendingSuffix answer = s := by
  unfold flushPendingSuffix
  rw [if_pos (by simp [h])]

/-- A frame that waits is written as soon as the socket asks for more. -/
theorem Requested.bytesWritten (h : Requested s) (hpending : s.pending = false)
    {block : List UInt8} {rest : List (List UInt8)} (hqueue : s.sendQueue = block :: rest) :
    block <+: (s.step (.bytesWritten 0 none [])).written := by
  have hroom : ¬sendHighWatermark ≤ s.bytesToWrite := by
    rw [h.bytesToWrite]
    decide
  show block <+: (tryDequeueSend [] (flushPendingSuffix none s)).written
  rw [flushPendingSuffix_idle hpending, tryDequeueSend, hqueue, List.length_cons]
  unfold dequeueLoop
  simp only [hqueue, hpending, hroom, decide_false, Bool.or_self, Bool.false_eq_true, if_false,
    List.headD_nil, write, h.socket, SocketState.Writable, h.pendingClose, Bool.not_false,
    Bool.and_self, if_true, Option.map_some, min_self, lt_irrefl]
  refine List.IsPrefix.trans ?_ (dequeueLoop_written _ _ _)
  simp [took, h.written]

theorem readLoop_delivered (n : Nat) (s : TcpMgr) : s.delivered <+: (readLoop n s).delivered := by
  induction n generalizing s with
  | zero => exact List.prefix_refl _
  | succ n ih =>
    unfold readLoop
    cases hhead : s.readHead with
    | none => exact List.prefix_refl _
    | some s' =>
      have hsame : s'.delivered = s.delivered := by
        unfold readHead at hhead
        split_ifs at hhead
        · rw [← Option.some.inj hhead]
        · split at hhead
          · rw [← Option.some.inj hhead]
          · cases hhead
      dsimp only
      split_ifs
      · rw [hsame]
      · rw [← hsame]
        refine List.IsPrefix.trans ?_ (ih _)
        exact List.prefix_append _ _

/-- The first message of a stream begins with its first byte. -/
theorem splitFrames_head {a : UInt8} {rest : List UInt8} {m : Message} {ms : List Message}
    (h : (splitFrames (a :: rest)).1 = m :: ms) : ∃ b, m.messageType = beShort a b := by
  cases hnext : nextFrame (a :: rest) with
  | none =>
    rw [splitFrames_none hnext] at h
    cases h
  | some x =>
    obtain ⟨m', tail⟩ := x
    rw [splitFrames_some hnext, List.cons.injEq] at h
    unfold nextFrame at hnext
    split at hnext
    · rename_i hi lo c d tail' heq
      cases heq
      split_ifs at hnext
      obtain ⟨rfl, rfl⟩ := hnext
      exact ⟨lo, h.1 ▸ rfl⟩
    · cases hnext

/-- What comes in on a connection that was requested. -/
theorem Requested.incoming (h : Requested s) (hre : s.reconnecting = false) (x : List UInt8) :
    (s.run [.connected 0 [] [], .incoming x]).delivered =
      (readyRead x { s with socket := .connected, disconnectNotified := false }).delivered := by
  simp [run, step, h.socket, onConnected, hre, h.pendingClose]

theorem Requested.incoming_split (h : Requested s) (hre : s.reconnecting = false)
    (hp : s.recvPending = false) (x : List UInt8) :
    (s.run [.connected 0 [] [], .incoming x]).delivered = (splitFrames (s.buffer ++ x)).1 := by
  have hholds : Holds { s with
      socket := .connected, disconnectNotified := false
      buffer := s.buffer ++ x, received := s.received ++ x } (s.buffer ++ x) := by
    unfold Holds
    rw [if_neg (by simp [hp])]
  rw [h.incoming hre, readyRead, (readLoop_spec _ hholds (by dsimp only; omega)).1]
  show s.delivered ++ _ = _
  rw [h.delivered, List.nil_append]

/-- Half a frame of an earlier connection spoils the first message. -/
theorem Requested.reads (h : Requested s) (hre : s.reconnecting = false)
    (hleft : s.recvPending = true ∨ s.buffer ≠ []) :
    ∃ p : UInt8, (s.run [.connected 0 [] [], .incoming [p, 0, 0, 0]]).delivered ≠
      [⟨beShort p 0, 0, []⟩] := by
  by_cases hp : s.recvPending = true
  · -- a head is pending: the first message has its type
    obtain ⟨p, hne⟩ : ∃ p : UInt8, s.messageType ≠ beShort p 0 := by
      by_cases hzero : s.messageType = 0
      · exact ⟨1, by rw [hzero]; decide⟩
      · exact ⟨0, hzero⟩
    refine ⟨p, fun hd => ?_⟩
    rw [h.incoming hre, readyRead] at hd
    unfold readLoop readHead at hd
    simp only [hp, if_true] at hd
    split_ifs at hd
    · rw [h.delivered] at hd
      cases hd
    · obtain ⟨st, hst, hmore⟩ : ∃ st : TcpMgr,
          (readLoop (s.buffer ++ [p, 0, 0, 0]).length st).delivered = [⟨beShort p 0, 0, []⟩] ∧
          st.delivered = s.delivered ++ [⟨s.messageType, s.messageLen,
            (s.buffer ++ [p, 0, 0, 0]).take s.messageLen⟩] := ⟨_, hd, rfl⟩
      have hfirst := readLoop_delivered (s.buffer ++ [p, 0, 0, 0]).length st
      rw [hst, hmore, h.delivered, List.nil_append, List.cons_prefix_cons] at hfirst
      exact hne (congrArg Message.messageType hfirst.1)
  · have hp : s.recvPending = false := by simpa using hp
    obtain ⟨a, rest, hbuffer⟩ := List.exists_cons_of_ne_nil (hleft.resolve_left (by simp [hp]))
    refine ⟨a + 1, fun hd => ?_⟩
    rw [h.incoming_split hre hp, hbuffer] at hd
    obtain ⟨b, hb⟩ := splitFrames_head hd
    have hbyte := b.toNat_lt
    have hsucc : (a + 1).toNat = (a.toNat + 1) % 256 := UInt8.toNat_add a 1
    have hzero : (0 : UInt8).toNat = 0 := rfl
    simp only [beShort] at hb
    omega

section Alike

variable (h : Alike s s') (hr : Requested s) (hr' : Requested s') (hclean : Clean s')
include h hr hr' hclean

/-- A queue, a suffix or a wrong count would be seen in what is written. -/
theorem Alike.writer (hblocks : ∀ b ∈ s.sendQueue, b ≠ []) :
    s.sendQueue = [] ∧ s.sendQueueBytes = 0 ∧ s.pending = false := by
  have hframe : ∀ data, frame 0 data ≠ [] := fun data he => by
    have hlen := length_frame 0 data
    rw [he, List.length_nil] at hlen
    omega
  have hsends : ∀ data, (s.step (.sendData 0 data [])).written =
      if 0 + (data.length + 4 : Nat) > maxQueueBytes then [] else frame 0 data := fun data => by
    rw [← hclean.sendQueueBytes, ← hr'.sendData hclean.sendQueue hclean.pending data]
    exact (h [.sendData 0 data []]).2
  have hpending : s.pending = false := by
    by_contra hp
    have hnone := hr.sendData_pending (by simpa using hp) []
    rw [hsends [], if_neg (by decide)] at hnone
    exact hframe [] hnone
  have hqueue : s.sendQueue = [] := by
    by_contra hne
    obtain ⟨block, rest, hqueue⟩ := List.exists_cons_of_ne_nil hne
    have hnone : (s'.step (.bytesWritten 0 none [])).written = [] := by
      show (tryDequeueSend [] (flushPendingSuffix none s')).written = _
      rw [flushPendingSuffix_idle hclean.pending, tryDequeueSend, hclean.sendQueue]
      exact hr'.written
    have hsome := hr.bytesWritten hpending hqueue
    rw [show (s.step (.bytesWritten 0 none [])).written = _ from
      (h [.bytesWritten 0 none []]).2.trans hnone, List.prefix_nil] at hsome
    exact hblocks block (hqueue ▸ List.mem_cons_self) hsome
  refine ⟨hqueue, ?_, hpending⟩
  have hmax : maxQueueBytes = 2 ^ 26 := rfl
  -- a frame that fits the bound exactly, or is one byte too long
  rcases lt_trichotomy s.sendQueueBytes 0 with hneg | hzero | hpos
  · have hlong := hsends (List.replicate (2 ^ 26 - 3) 0)
    rw [hr.sendData hqueue hpending, List.length_replicate, if_neg (by omega),
      if_pos (by omega)] at hlong
    exact absurd hlong (hframe _)
  · exact hzero
  · have hlong := hsends (List.replicate (2 ^ 26 - 4) 0)
    rw [hr.sendData hqueue hpending, List.length_replicate, if_pos (by omega),
      if_neg (by omega)] at hlong
    exact absurd hlong.symm (hframe _)

/-- Half a frame would be seen in what is delivered. -/
theorem Alike.reader (hre : s.reconnecting = false) (hre' : s'.reconnecting = false) :
    s.buffer = [] ∧ s.recvPending = false := by
  by_contra hleft
  obtain ⟨p, hp⟩ := hr.reads hre (by
    by_cases hrecv : s.recvPending = true
    · exact .inl hrecv
    · exact .inr fun hbuffer => hleft ⟨hbuffer, by simpa using hrecv⟩)
  refine hp ((h _).1.trans ?_)
  rw [hr'.incoming_split hre' hclean.recvPending, hclean.buffer]
  rfl

end Alike

/-- **Leftovers show**: a connection that cannot be told from one without them found none. -/
theorem noLeftovers_of_alike {e : Event} (he : Opens s e) (hblocks : ∀ b ∈ s.sendQueue, b ≠ [])
    (h : Alike (s.step e) (s.cleared.step e)) : NoLeftovers s e := by
  have hr := he.requested
  cases e with
  | tcpConnect =>
    intro hs
    have hr' := Opens.requested (s := s.cleared) (e := .tcpConnect) hs
    rw [step_tcpConnect hs] at h hr
    rw [step_tcpConnect (s := s.cleared) hs] at h hr'
    obtain ⟨hqueue, hbytes, hpending⟩ := h.writer hr hr' ⟨rfl, rfl, rfl, rfl, rfl⟩ hblocks
    obtain ⟨hbuffer, hrecv⟩ := h.reader hr hr' ⟨rfl, rfl, rfl, rfl, rfl⟩ rfl rfl
    exact ⟨hbuffer, hrecv, hqueue, hbytes, hpending⟩
  | reconnectChat hostGiven portGiven =>
    intro hopens
    have hr' := Opens.requested (s := s.cleared) (e := .reconnectChat hostGiven portGiven) hopens
    rw [step_reconnectChat he] at h hr
    rw [step_reconnectChat (s := s.cleared) hopens] at h hr'
    exact (h.writer hr hr' ⟨rfl, rfl, rfl, rfl, rfl⟩ fun b hb => absurd hb List.not_mem_nil).2.1
  | _ => exact he.elim

/-! ### The queue and its count -/

/-- `_send_queue` and `_send_queue_bytes`. -/
def queue (s : TcpMgr) : List (List UInt8) × Int := (s.sendQueue, s.sendQueueBytes)

/-- What can happen to the queue and its count, but for a reconnection. -/
inductive QueueMove : List (List UInt8) × Int → List (List UInt8) × Int → Prop
  | push (q : List (List UInt8)) (n : Int) (reqId : Nat) (data : List UInt8) :
    QueueMove (q, n) (q ++ [frame reqId data], n + (frame reqId data).length)
  | pop (block : List UInt8) (rest : List (List UInt8)) (n : Int) :
    QueueMove (block :: rest, n) (rest, n - block.length)
  | reset (x : List (List UInt8) × Int) : QueueMove x ([], 0)

abbrev QueueMoves := Relation.ReflTransGen QueueMove

theorem queue_onDisconnected (s : TcpMgr) : (onDisconnected s).queue = s.queue := by
  unfold onDisconnected
  split_ifs <;> rfl

theorem queue_abort (s : TcpMgr) : (abort s).queue = s.queue := by
  unfold abort
  dsimp only
  split
  · rfl
  · rfl
  all_goals exact queue_onDisconnected _

theorem queue_closeSocket (s : TcpMgr) : s.closeSocket.queue = s.queue := by
  unfold closeSocket
  split
  · rfl
  · rfl
  all_goals
    split_ifs
    · rfl
    · exact queue_onDisconnected _

theorem queue_handleWriteFailure (s : TcpMgr) : (handleWriteFailure s).queue = ([], 0) := by
  have habort := queue_abort
    { s with sendQueue := [], sendQueueBytes := 0, currentBlock := [], pending := false }
  unfold handleWriteFailure
  dsimp only
  split_ifs <;> exact habort

section Moves

variable {x : List (List UInt8) × Int}

theorem moves_handleWriteFailure (s : TcpMgr) : QueueMoves x (handleWriteFailure s).queue := by
  rw [queue_handleWriteFailure]
  exact .single (.reset x)

theorem moves_dequeueLoop (n : Nat) (answers : List (Option Nat)) (h : QueueMoves x s.queue) :
    QueueMoves x (dequeueLoop n answers s).queue := by
  induction n generalizing s answers with
  | zero => exact h
  | succ n ih =>
    unfold dequeueLoop
    split
    · exact h
    · rename_i block rest hqueue
      have hpop : QueueMoves x (rest, s.sendQueueBytes - block.length) := by
        rw [queue, hqueue] at h
        exact h.tail (.pop block rest _)
      split_ifs
      · exact h
      · dsimp only
        split
        · exact moves_handleWriteFailure _
        · split_ifs
          · exact hpop
          · exact ih _ hpop

theorem moves_slotSendData (reqId : Nat) (data : List UInt8) (answers : List (Option Nat))
    (h : QueueMoves x s.queue) : QueueMoves x (s.slotSendData reqId data answers).queue := by
  unfold slotSendData
  dsimp only
  split_ifs
  · exact moves_handleWriteFailure _
  · exact moves_dequeueLoop _ _ (h.tail (.push _ _ reqId data))

theorem moves_flushPendingSuffix (answer : Option Nat) (h : QueueMoves x s.queue) :
    QueueMoves x (s.flushPendingSuffix answer).queue := by
  unfold flushPendingSuffix
  split_ifs
  · exact h
  · exact h
  · split
    · exact moves_handleWriteFailure _
    · dsimp only
      split_ifs <;> exact h

end Moves

theorem queue_readLoop (n : Nat) (s : TcpMgr) : (readLoop n s).queue = s.queue := by
  induction n generalizing s with
  | zero => rfl
  | succ n ih =>
    unfold readLoop readHead
    split_ifs
    · dsimp only
      split_ifs
      · rfl
      · exact ih _
    · split
      · rfl
      · rename_i hhead
        split at hhead
        · obtain rfl := Option.some.inj hhead
          split_ifs
          · rfl
          · exact ih _
        · cases hhead

theorem moves_of_not_opens (e : Event) (he : ∀ hostGiven portGiven,
    e = .reconnectChat hostGiven portGiven → ¬Opens s e) :
    QueueMoves s.queue (s.step e).queue := by
  have hsame : ∀ {s' : TcpMgr}, s'.queue = s.queue → QueueMoves s.queue s'.queue := fun h => by
    rw [h]
  cases e with
  | tcpConnect =>
    refine hsame ?_
    show (connectToHost _).queue = _
    unfold connectToHost
    split_ifs <;> rfl
  | reconnectChat hostGiven portGiven =>
    refine hsame ?_
    show (slotReconnectChat _ _ _).queue = _
    unfold slotReconnectChat
    split_ifs with hrefused
    · rfl
    · refine absurd ?_ (he hostGiven portGiven rfl)
      simpa [Opens, and_assoc] using hrefused
  | tcpClose => exact hsame (queue_closeSocket _)
  | connected reqId login answers =>
    show QueueMoves s.queue (if _ then _ else _ : TcpMgr).queue
    split_ifs
    · unfold onConnected
      dsimp only
      have hsent := moves_slotSendData (x := s.queue) reqId login answers
        (s := { s with socket := .connected, disconnectNotified := false }) .refl
      split_ifs <;> first
        | exact hsent
        | exact .refl
        | (rw [queue_closeSocket]; first | exact hsent | exact .refl)
    · exact .refl
  | disconnected =>
    refine hsame ?_
    show (if _ then _ else _ : TcpMgr).queue = _
    split_ifs
    · exact queue_onDisconnected _
    · rfl
  | socketError =>
    refine hsame ?_
    show (onError s).queue = _
    unfold onError
    dsimp only
    split_ifs <;> first | rfl | exact queue_abort _
  | sendData reqId data answers => exact moves_slotSendData reqId data answers .refl
  | bytesWritten count answer answers =>
    exact moves_dequeueLoop _ answers (moves_flushPendingSuffix answer .refl)
  | incoming bytes =>
    refine hsame ?_
    show (if _ then _ else _ : TcpMgr).queue = _
    split_ifs
    · exact queue_readLoop _ { s with
        buffer := s.buffer ++ bytes, received := s.received ++ bytes }
    · rfl

/-- **One event** moves the queue, or is a reconnection, which empties it and keeps the
count. -/
theorem step_moves (s : TcpMgr) (e : Event) : QueueMoves s.queue (s.step e).queue ∨
    ∃ hostGiven portGiven, e = .reconnectChat hostGiven portGiven ∧ Opens s e ∧
      (s.step e).queue = ([], s.sendQueueBytes) := by
  by_cases hopens : ∃ hostGiven portGiven, e = .reconnectChat hostGiven portGiven ∧ Opens s e
  · obtain ⟨hostGiven, portGiven, rfl, ho⟩ := hopens
    refine .inr ⟨hostGiven, portGiven, rfl, ho, ?_⟩
    rw [step_reconnectChat ho]
    rfl
  · exact .inl (moves_of_not_opens e fun hostGiven portGiven he ho =>
      hopens ⟨hostGiven, portGiven, he, ho⟩)

/-- The blocks of the queue are frames. -/
theorem QueueMoves.blocks {x y : List (List UInt8) × Int} (h : QueueMoves x y)
    (hx : ∀ b ∈ x.1, b ≠ []) : ∀ b ∈ y.1, b ≠ [] := by
  induction h with
  | refl => exact hx
  | tail _ hmove ih =>
    cases hmove with
    | push q n reqId data =>
      intro b hb
      rcases List.mem_append.mp hb with hb | hb
      · exact ih b hb
      · rw [List.mem_singleton.mp hb]
        exact List.cons_ne_nil _ _
    | pop block rest n => exact fun b hb => ih b (List.mem_cons_of_mem _ hb)
    | reset => exact fun b hb => absurd hb List.not_mem_nil

theorem run_concat (s : TcpMgr) (events : List Event) (e : Event) :
    run s (events ++ [e]) = (run s events).step e := by
  unfold run
  rw [List.foldl_append]
  rfl

theorem run_blocks (events : List Event) : ∀ b ∈ (run {} events).sendQueue, b ≠ [] := by
  induction events using List.reverseRecOn with
  | nil => exact fun b hb => absurd hb List.not_mem_nil
  | append_singleton events e ih =>
    rw [run_concat]
    rcases step_moves (run {} events) e with hmoves | ⟨-, -, -, -, hqueue⟩
    · exact hmoves.blocks ih
    · rw [show ((run {} events).step e).sendQueue = [] from congrArg Prod.fst hqueue]
      exact fun b hb => absurd hb List.not_mem_nil

/-- What isolation asks of a run: at every moment the messages delivered are the
frames of the bytes received on the connection and the bytes written are a prefix of
the frames passed since it was requested; and from the request of a connection on,
whatever happens later, what is delivered and written is as if nothing had been left
of the connections before. -/
def Isolated (events : List Event) : Prop :=
  ∀ before after, events = before ++ after →
    (run {} before).delivered = (splitFrames (run {} before).received).1 ∧
      (run {} before).written <+: (run {} before).passed.flatten ∧
      ∀ e rest, after = e :: rest → Opens (run {} before) e →
        Alike ((run {} before).step e) ((run {} before).cleared.step e)

theorem run_ok (events : List Event)
    (h : ∀ before e after, events = before ++ e :: after → NoLeftovers (run {} before) e) :
    ReaderOk (run {} events) ∧ WriterOk (run {} events) := by
  induction events using List.reverseRecOn with
  | nil => exact ⟨⟨rfl, rfl⟩, ⟨List.nil_prefix, fun _ => rfl⟩⟩
  | append_singleton events e ih =>
    obtain ⟨hr, hw⟩ := ih fun before e' after heq =>
      h before e' (after ++ [e]) (by rw [heq, List.append_assoc]; rfl)
    rw [run_concat]
    exact step_ok hr hw e (h events e [] rfl)

/-- **A run is isolated exactly if no connection finds leftovers.** -/
theorem connection_isolated_iff (events : List Event) :
    Isolated events ↔
      ∀ before e after, events = before ++ e :: after → NoLeftovers (run {} before) e := by
  constructor
  · intro h before e after heq
    obtain ⟨-, -, halike⟩ := h before (e :: after) heq
    by_cases hopens : Opens (run {} before) e
    · exact noLeftovers_of_alike hopens (run_blocks before) (halike e after rfl hopens)
    · cases e with
      | tcpConnect => exact fun hs => absurd hs hopens
      | reconnectChat hostGiven portGiven => exact fun hs => absurd hs hopens
      | _ => trivial
  · intro h before after heq
    have hbefore : ∀ before' e after', before = before' ++ e :: after' →
        NoLeftovers (run {} before') e := by
      intro before' e after' hb
      refine h before' e (after' ++ after) ?_
      rw [heq, hb, List.append_assoc]
      rfl
    obtain ⟨hr, hw⟩ := run_ok before hbefore
    refine ⟨hr.delivered, hw.written, fun e rest hafter hopens => ?_⟩
    rw [step_cleared hopens (h before e rest (hafter ▸ heq))]
    exact fun _ => ⟨rfl, rfl⟩

/-! ### A second login -/

/-- The first connection breaks off after one byte; the user logs in again, and the
server sends a message of one byte. -/
def secondLogin : List Event :=
  [.tcpConnect, .connected 0 [] [], .incoming [4], .disconnected, .tcpConnect, .connected 0 [] [],
    .incoming [0, 2, 0, 1, 170]]

/-- The message of the second connection is not delivered: it is read as the rest of a
head that began on the first. -/
theorem second_login_misframed :
    (run {} secondLogin).received = [0, 2, 0, 1, 170] ∧ (run {} secondLogin).delivered = [] ∧
      (splitFrames (run {} secondLogin).received).1 = [⟨2, 1, [170]⟩] := by decide

/-! ### The byte count of the queue -/

/-- The total size of the blocks in `_send_queue`. -/
def queued (s : TcpMgr) : Nat := (s.sendQueue.map List.length).sum

/-- `_send_queue_bytes` is the size of the queue. -/
def Counted (s : TcpMgr) : Prop := s.sendQueueBytes = s.queued

/-- How far the count is above the size of the queue. -/
def surplus (x : List (List UInt8) × Int) : Int := x.2 - ((x.1.map List.length).sum : Nat)

theorem counted_iff : Counted s ↔ surplus s.queue = 0 := Int.sub_eq_zero.symm

/-- A surplus stays what it is until a failed write resets the count. -/
theorem QueueMoves.surplus_eq {x y : List (List UInt8) × Int} (h : QueueMoves x y) :
    surplus y = surplus x ∨ surplus y = 0 := by
  induction h with
  | refl => exact .inl rfl
  | tail _ hmove ih =>
    cases hmove with
    | push q n reqId data =>
      have hsame : surplus (q ++ [frame reqId data], n + (frame reqId data).length) =
          surplus (q, n) := by
        simp only [surplus, List.map_append, List.map_singleton, List.sum_append,
          List.sum_singleton]
        omega
      rwa [hsame]
    | pop block rest n =>
      have hsame : surplus (rest, n - block.length) = surplus (block :: rest, n) := by
        simp only [surplus, List.map_cons, List.sum_cons]
        omega
      rwa [hsame]
    | reset => exact .inr rfl

/-- A reconnection that goes through finds no byte in the queue. -/
def FindsNoQueue (s : TcpMgr) : Event → Prop
  | .reconnectChat hostGiven portGiven =>
    Opens s (.reconnectChat hostGiven portGiven) → s.queued = 0
  | _ => True

/-- **One event** keeps the count, exactly if a reconnection finds no queue. -/
theorem Counted.step_iff (h : Counted s) (e : Event) : Counted (s.step e) ↔ FindsNoQueue s e := by
  by_cases hopens : ∃ hostGiven portGiven, e = .reconnectChat hostGiven portGiven ∧ Opens s e
  · obtain ⟨hostGiven, portGiven, rfl, ho⟩ := hopens
    have hcount : Counted (s.step (.reconnectChat hostGiven portGiven)) ↔
        s.sendQueueBytes = 0 := by
      rw [step_reconnectChat ho]
      rfl
    rw [hcount, show s.sendQueueBytes = s.queued from h, Int.natCast_eq_zero]
    exact ⟨fun h _ => h, fun h => h ho⟩
  · have hmoves := moves_of_not_opens e fun hostGiven portGiven he ho =>
      hopens ⟨hostGiven, portGiven, he, ho⟩
    have hcounted : Counted (s.step e) := by
      rw [counted_iff] at h ⊢
      exact hmoves.surplus_eq.elim (·.trans h) id
    refine iff_of_true hcounted ?_
    cases e with
    | reconnectChat hostGiven portGiven =>
      exact fun ho => absurd ⟨hostGiven, portGiven, rfl, ho⟩ hopens
    | _ => trivial

theorem run_counted (events : List Event)
    (h : ∀ before e after, events = before ++ e :: after → FindsNoQueue (run {} before) e) :
    Counted (run {} events) := by
  induction events using List.reverseRecOn with
  | nil => rfl
  | append_singleton events e ih =>
    have hevents := ih fun before e' after heq =>
      h before e' (after ++ [e]) (by rw [heq, List.append_assoc]; rfl)
    rw [run_concat]
    exact (hevents.step_iff e).mpr (h events e [] rfl)

/-- A count that is wrong is too high. -/
theorem run_surplus_nonneg (events : List Event) : 0 ≤ surplus (run {} events).queue := by
  induction events using List.reverseRecOn with
  | nil => exact le_refl _
  | append_singleton events e ih =>
    rw [run_concat]
    rcases step_moves (run {} events) e with hmoves | ⟨-, -, -, -, hqueue⟩
    · rcases hmoves.surplus_eq with hsame | hzero
      · rwa [hsame]
      · exact hzero.ge
    · rw [hqueue]
      simp only [surplus, queue, List.map_nil, List.sum_nil] at ih ⊢
      omega

theorem run_sendQueueBytes_nonneg (events : List Event) : 0 ≤ (run {} events).sendQueueBytes := by
  have hsurplus := run_surplus_nonneg events
  simp only [surplus, queue] at hsurplus
  omega

/-- **The count is right through a whole run, and so is the overflow test, exactly if every
reconnection finds no byte in the queue.** -/
theorem queue_bytes_counted_iff (events : List Event) :
    (∀ before after, events = before ++ after →
        (run {} before).sendQueueBytes = (run {} before).queued ∧
          ∀ block : List UInt8, (run {} before).sendQueueBytes + block.length > maxQueueBytes →
            ((run {} before).queued + block.length : Int) > maxQueueBytes) ↔
      ∀ before e after, events = before ++ e :: after → FindsNoQueue (run {} before) e := by
  constructor
  · intro h before e after heq
    have hbefore : Counted (run {} before) := (h before (e :: after) heq).1
    refine (hbefore.step_iff e).mp ?_
    rw [← run_concat]
    exact (h (before ++ [e]) after (by rw [heq, List.append_assoc]; rfl)).1
  · intro h before after heq
    have hcount : (run {} before).sendQueueBytes = (run {} before).queued :=
      run_counted before fun before' e after' hb =>
        h before' e (after' ++ after) (by rw [heq, hb, List.append_assoc]; rfl)
    exact ⟨hcount, fun block hover => hcount ▸ hover⟩

/-- Connected, with `n` bytes in the socket and nothing left to send. -/
structure Filled (n : Nat) (s : TcpMgr) : Prop where
  socket : s.socket = .connected
  pendingClose : s.pendingClose = false
  bytesToWrite : s.bytesToWrite = n
  serverInfo : s.serverInfo = true
  sendQueue : s.sendQueue = []
  sendQueueBytes : s.sendQueueBytes = 0
  pending : s.pending = false
  manualClose : s.manualClose = false
  reconnecting : s.reconnecting = false

/-- The longest frame that its length field can describe. -/
def sendLongest : Event := .sendData 1 (List.replicate 65535 0) []

theorem Filled.send {n : Nat} (h : Filled n s) (hn : n < sendHighWatermark) :
    Filled (n + 65539) (s.step sendLongest) := by
  have hlen : (frame 1 (List.replicate 65535 0)).length = 65539 := by
    rw [length_frame, List.length_replicate]
  have hbound : s.sendQueueBytes + (frame 1 (List.replicate 65535 0)).length ≤ maxQueueBytes := by
    rw [h.sendQueueBytes, hlen]
    decide
  show Filled _ (s.slotSendData 1 (List.replicate 65535 0) [])
  rw [slotSendData_taken (h.socket ▸ rfl) h.pendingClose (h.bytesToWrite ▸ hn) h.sendQueue
    h.pending hbound]
  refine { h with bytesToWrite := ?_ }
  rw [h.bytesToWrite, hlen]

theorem Filled.sends {n : Nat} (h : Filled n s) (k : Nat)
    (hk : ∀ j < k, n + 65539 * j < sendHighWatermark) :
    Filled (n + 65539 * k) (run s (List.replicate k sendLongest)) := by
  induction k generalizing n s with
  | zero => exact h
  | succ k ih =>
    have hrest := ih (h.send (hk 0 k.succ_pos)) fun j hj => by
      have := hk (j + 1) (Nat.succ_lt_succ hj)
      omega
    rw [show n + 65539 * (k + 1) = n + 65539 + 65539 * k by omega]
    exact hrest

/-- At the high watermark a frame waits; after the reconnection the queue is empty and
its four bytes are counted. -/
theorem Filled.miscounts {n : Nat} (h : Filled n s) (hn : sendHighWatermark ≤ n) :
    let s := run s [.sendData 1 [] [], .disconnected, .reconnectChat true true]
    s.sendQueueBytes = 4 ∧ s.queued = 0 := by
  have hsend : s.slotSendData 1 [] [] = { s with
      passed := s.passed ++ [frame 1 []], sendQueue := [frame 1 []], sendQueueBytes := 4 } := by
    unfold slotSendData
    dsimp only
    rw [h.sendQueueBytes, if_neg (by decide), tryDequeueSend, h.sendQueue]
    simp [dequeueLoop, h.bytesToWrite, hn, length_frame]
  simp [run, step, hsend, onDisconnected, slotReconnectChat, connectToHost, queued, h.socket,
    h.manualClose, h.reconnecting, h.serverInfo]

/-- The socket takes four MiB that it does not pass on, one more frame waits, the connection
breaks off and the client reconnects. -/
def stalled : List Event :=
  [.tcpConnect, .connected 0 [] []] ++ List.replicate 64 sendLongest ++
    [.sendData 1 [] [], .disconnected, .reconnectChat true true]

/-- The queue is empty, and four bytes are counted. -/
theorem reconnect_miscounts :
    (run {} stalled).sendQueueBytes = 4 ∧ (run {} stalled).queued = 0 := by
  have hconnected : Filled 0 (run {} [.tcpConnect, .connected 0 [] []]) :=
    ⟨rfl, rfl, rfl, rfl, rfl, rfl, rfl, rfl, rfl⟩
  have hfull := hconnected.sends 64 fun j hj => by
    have hmark : sendHighWatermark = 4194304 := rfl
    omega
  have hrun := hfull.miscounts (by decide)
  simpa only [stalled, run, List.foldl_append] using hrun

end TcpMgr

end LlfcChat.Net

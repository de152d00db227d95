/-
A text on its way from the chat page of the client to the handler of the
server.

`ChatPage::on_send_btn_clicked` counts the UTF-16 units of the text and lets
1024 of them pass.  The request it stores in the outbox is a JSON document,
which `TcpMgr::slot_send_data` puts behind a head with a 16-bit length.  The
server counts the bytes of that document and takes 2048.  So a text passes the
page and closes the connection when its characters are long in UTF-8 or have to
be escaped; the exact condition is a sum over its characters.
-/
import LlfcChat.Lib.JsonSize
import LlfcChat.Chat.Frames
import LlfcChat.Chat.LogicSystem
import LlfcChat.Client.TcpMgr

namespace LlfcChat

open Json (textBytes charBytes fieldBytes bytesAt)

/-! ### Qt texts -/

/-- A `QString`, by its UTF-16 units. -/
abbrev QString := List UInt16

namespace QString

def isHighSurrogate (u : UInt16) : Bool := decide (0xD800 ≤ u ∧ u < 0xDC00)

def isLowSurrogate (u : UInt16) : Bool := decide (0xDC00 ≤ u ∧ u < 0xE000)

/-- The character of a unit on its own.  Half a surrogate pair is written as a
question mark. -/
def single (u : UInt16) : Char :=
  if isHighSurrogate u || isLowSurrogate u then '?' else Char.ofNat u.toNat

/-- The character of a surrogate pair. -/
def pair (u v : UInt16) : Char :=
  Char.ofNat (0x10000 + (u.toNat - 0xD800) * 0x400 + (v.toNat - 0xDC00))

/-- The characters that `toUtf8` writes. -/
def chars : QString → List Char
  | [] => []
  | [u] => [single u]
  | u :: v :: us =>
    if isHighSurrogate u && isLowSurrogate v then pair u v :: chars us
    else single u :: chars (v :: us)

/-- `fromUtf8` skips a byte order mark at the start. -/
def skipBom : List Char → List Char
  | c :: cs => if c.toNat = 0xFEFF then cs else c :: cs
  | [] => []

/-- `QString::fromUtf8(text.toUtf8())`, a text without half pairs. -/
def roundTrip (text : QString) : String := String.ofList (skipBom (chars text))

theorem length_chars_le (text : QString) : (chars text).length ≤ text.length := by
  induction text using chars.induct with
  | case1 => exact Nat.le_refl 0
  | case2 u => exact Nat.le_refl 1
  | case3 u v us h ih =>
    rw [chars, if_pos h]
    simp only [List.length_cons]
    omega
  | case4 u v us h ih =>
    rw [chars, if_neg h]
    simp only [List.length_cons] at ih ⊢
    omega

theorem length_roundTrip_le (text : QString) : (roundTrip text).toList.length ≤ text.length := by
  have hskip : ∀ cs, (skipBom cs).length ≤ cs.length := by
    intro cs
    rcases cs with - | ⟨c, cs⟩
    · exact Nat.le_refl 0
    · show (if c.toNat = 0xFEFF then cs else c :: cs).length ≤ cs.length + 1
      split
      · exact Nat.le_succ _
      · exact Nat.le_refl _
  rw [roundTrip, String.toList_ofList]
  exact (hskip _).trans (length_chars_le text)

end QString

/-! ### The page, the outbox and the socket -/

/-- A `QUuid`, by its 32 hexadecimal digits. -/
structure Uuid where
  digits : List (Fin 16)
  length_digits : digits.length = 32

namespace Uuid

/-- The digits from `k` on, `n` of them. -/
def group (u : Uuid) (k n : Nat) : List Char :=
  ((u.digits.drop k).take n).map fun d => Json.hexDigit d.val

/-- `QUuid::toString`. -/
def toText (u : Uuid) : String :=
  String.ofList ('\x7b' :: u.group 0 8 ++ '-' :: u.group 8 4 ++ '-' :: u.group 12 4 ++
    '-' :: u.group 16 4 ++ '-' :: u.group 20 12 ++ ['\x7d'])

end Uuid

/-- The JSON request of a text. -/
def textRequestOf (uuid : Uuid) (threadId : Int64) (peer : Int32) (text : String) : Json :=
  Json.ofMembers [("client_message_id", .str uuid.toText),
    ("thread_id", .str (toString threadId.toInt)), ("target_user_id", .int peer.toInt),
    ("text_content", .str text)]

/-- `ChatPage::on_send_btn_clicked` for one text: the `payload_json` of the outbox
entry.  A text of more than 1024 units is skipped. -/
def onSendBtnClicked (uuid : Uuid) (threadId : Int64) (peer : Int32) (text : QString) :
    Option String :=
  if 1024 < text.length then none
  else some (textRequestOf uuid threadId peer (QString.roundTrip text)).dump

/-- The send queue of `TcpMgr`, as the sender of a text sees it; the connection around it
is `Net.TcpMgr`, see `slotSendData_run`. -/
structure TcpMgr where
  sendQueue : List (List UInt8) := []
  sendQueueBytes : Nat := 0

/-- `TcpMgr::slot_send_data`; `none` is the reset of a connection whose queue has
grown beyond 64 MiB.  Both fields of the head are `quint16`s. -/
def TcpMgr.slotSendData (mgr : TcpMgr) (reqId : Nat) (dataBytes : List UInt8) : Option TcpMgr :=
  let block := frame reqId dataBytes
  if 64 * 1024 * 1024 < mgr.sendQueueBytes + block.length then none
  else some { sendQueue := mgr.sendQueue ++ [block]
              sendQueueBytes := mgr.sendQueueBytes + block.length }

/-- `slot_send_data` of the connection, at any moment of a run, is that of its queue: it
resets the connection or goes on with the longer queue. -/
theorem slotSendData_run (events : List Net.TcpMgr.Event) (reqId : Nat) (dataBytes : List UInt8)
    (answers : List (Option Nat)) :
    let s := Net.TcpMgr.run {} events
    let passed := s.passed ++ [frame reqId dataBytes]
    s.slotSendData reqId dataBytes answers =
      match (TcpMgr.mk s.sendQueue s.sendQueueBytes.toNat).slotSendData reqId dataBytes with
      | none => { s with passed := passed }.handleWriteFailure
      | some mgr => { s with
          passed := passed, sendQueue := mgr.sendQueue
          sendQueueBytes := mgr.sendQueueBytes }.tryDequeueSend answers := by
  have hcount := Net.TcpMgr.run_sendQueueBytes_nonneg events
  generalize Net.TcpMgr.run {} events = s at hcount ⊢
  obtain ⟨n, hn⟩ := Int.eq_ofNat_of_zero_le hcount
  have hmax : Net.TcpMgr.maxQueueBytes = (64 * 1024 * 1024 : Nat) := rfl
  unfold Net.TcpMgr.slotSendData TcpMgr.slotSendData
  dsimp only
  rw [hn, Int.toNat_natCast]
  by_cases hover : 64 * 1024 * 1024 < n + (frame reqId dataBytes).length
  · rw [if_pos hover, if_pos (by omega)]
  · rw [if_neg hover, if_neg (by omega)]
    rfl

/-- `OutboxDispatcher::dispatchTextEntry`. -/
def TcpMgr.dispatchTextEntry (mgr : TcpMgr) (payloadJson : String) : Option TcpMgr :=
  mgr.slotSendData 1301 (Wire.utf8 payloadJson)

/-- The number in the length field of a block. -/
def lengthField (block : List UInt8) : Nat :=
  (block.getD 2 0).toNat * 256 + (block.getD 3 0).toNat

/-! ### The size of the request -/

/-- What the characters of the text take in the request. -/
def textCost (text : QString) : Nat := ((QString.roundTrip text).toList.map charBytes).sum

/-- The braces, the keys and the ids. -/
def requestOverhead (threadId : Int64) (peer : Int32) : Nat :=
  111 + textBytes (toString threadId.toInt) + (toString peer.toInt).utf8ByteSize

theorem textBytes_roundTrip (text : QString) :
    textBytes (QString.roundTrip text) = 2 + textCost text := rfl

theorem textBytes_uuid (u : Uuid) : textBytes u.toText = 40 := by
  have hhex : ∀ d : Fin 16, charBytes (Json.hexDigit d.val) = 1 := by decide
  have hgroup : ∀ k n, k + n ≤ 32 → ((u.group k n).map charBytes).sum = n := by
    intro k n hkn
    have hlen : ((u.digits.drop k).take n).length = n := by
      rw [List.length_take, List.length_drop, u.length_digits]
      omega
    have hconst : ∀ ds : List (Fin 16),
        ((ds.map fun d => Json.hexDigit d.val).map charBytes).sum = ds.length := by
      intro ds
      induction ds with
      | nil => rfl
      | cons d ds ih =>
        rw [List.map_cons, List.map_cons, List.sum_cons, ih, hhex, List.length_cons, Nat.add_comm]
    rw [Uuid.group, hconst, hlen]
  have hmarks : charBytes '\x7b' = 1 ∧ charBytes '-' = 1 ∧ charBytes '\x7d' = 1 := by decide
  obtain ⟨hopen, hdash, hclose⟩ := hmarks
  unfold textBytes Uuid.toText
  simp only [String.toList_ofList, List.map_append, List.map_cons, List.map_nil, List.sum_append,
    List.sum_cons, List.sum_nil, List.cons_append, hopen, hdash, hclose]
  rw [hgroup 0 8 (by decide), hgroup 8 4 (by decide), hgroup 12 4 (by decide),
    hgroup 16 4 (by decide), hgroup 20 12 (by decide)]
  rfl

/-- The size of the request is the overhead and the cost of the text. -/
theorem utf8ByteSize_request (uuid : Uuid) (threadId : Int64) (peer : Int32) (text : QString) :
    (textRequestOf uuid threadId peer (QString.roundTrip text)).dump.utf8ByteSize =
      requestOverhead threadId peer + textCost text := by
  have hnodup : ([("client_message_id", Json.str uuid.toText),
      ("thread_id", .str (toString threadId.toInt)), ("target_user_id", .int peer.toInt),
      ("text_content", .str (QString.roundTrip text))].map (·.1)).Nodup := by
    show ["client_message_id", "thread_id", "target_user_id", "text_content"].Nodup
    decide
  have hkeys : textBytes "client_message_id" = 19 ∧ textBytes "target_user_id" = 16 ∧
      textBytes "text_content" = 14 ∧ textBytes "thread_id" = 11 := by decide
  obtain ⟨h1, h2, h3, h4⟩ := hkeys
  show bytesAt false 0 (.obj _) = _
  rw [Json.bytesAt_compact (Json.update_nil_perm hnodup).2 (by simp)]
  simp only [List.map_cons, List.map_nil, List.sum_cons, List.sum_nil, fieldBytes,
    Json.bytesAt_str, Json.bytesAt_int, h1, h2, h3, h4, textBytes_uuid, textBytes_roundTrip,
    requestOverhead]
  omega

variable {text : QString} {payload : String}

/-- A text that the page lets through fits the length field. -/
theorem request_lt_short (threadId : Int64) (peer : Int32) (h : text.length ≤ 1024) :
    requestOverhead threadId peer + textCost text < 32768 := by
  have hthread : textBytes (toString threadId.toInt) ≤ 122 := by
    have hlen := Json.length_toString_le threadId.le_toInt threadId.toInt_lt
    have hle := Json.textBytes_le (toString threadId.toInt)
    omega
  have hpeer : (toString peer.toInt).utf8ByteSize ≤ 80 := by
    have hge := peer.le_toInt
    have hlt := peer.toInt_lt
    have hlen := Json.length_toString_le (i := peer.toInt) (by omega) (by omega)
    have hle := Json.utf8ByteSize_le (toString peer.toInt)
    omega
  have htext : 2 + textCost text ≤ 2 + 6 * 1024 := by
    have hlen := QString.length_roundTrip_le text
    have hle := Json.textBytes_le (QString.roundTrip text)
    rw [textBytes_roundTrip] at hle
    omega
  unfold requestOverhead
  omega

/-- The block of a request: one frame of type 1301 with the request as its
payload. -/
theorem dispatchTextEntry_eq {mgr mgr' : TcpMgr} (h : mgr.dispatchTextEntry payload = some mgr') :
    mgr'.sendQueue = mgr.sendQueue ++ [frame 1301 (Wire.utf8 payload)] := by
  unfold TcpMgr.dispatchTextEntry TcpMgr.slotSendData at h
  simp only [Option.ite_none_left_eq_some, Option.some.injEq] at h
  rw [← h.2]

/-- The payloads that the page produces: never empty, of the size counted above,
and short enough for the length field. -/
theorem onSendBtnClicked_eq {uuid : Uuid} {threadId : Int64} {peer : Int32}
    (h : onSendBtnClicked uuid threadId peer text = some payload) :
    (Wire.utf8 payload).length = requestOverhead threadId peer + textCost text ∧
      (Wire.utf8 payload).length < 32768 ∧ Wire.utf8 payload ≠ [] := by
  unfold onSendBtnClicked at h
  simp only [Option.ite_none_left_eq_some, Option.some.injEq] at h
  obtain ⟨hlen, hpayload⟩ := h
  have hsize : (Wire.utf8 payload).length = requestOverhead threadId peer + textCost text := by
    rw [Wire.length_utf8, ← hpayload]
    exact utf8ByteSize_request uuid threadId peer text
  refine ⟨hsize, hsize ▸ request_lt_short threadId peer (by omega), ?_⟩
  rw [← List.length_pos_iff, hsize, requestOverhead]
  omega

theorem lengthField_frame (msgType : Nat) {payload : List UInt8} (h : payload.length < 32768) :
    lengthField (frame msgType payload) = payload.length := by
  show (UInt8.ofNat (payload.length / 256)).toNat * 256 + (UInt8.ofNat payload.length).toNat =
    payload.length
  simp only [UInt8.toNat_ofNat']
  omega

/-! ### The main result -/

/-- **Whether a text reaches the server.**  Whatever text the page lets through,
the block that `slot_send_data` queues has the length of its payload in the
head.  A bound session that waits for a frame posts the payload if and only if
the overhead and the characters of the text come to at most `MAX_LENGTH` bytes,
however the block is cut, and goes on to wait for the next one; otherwise it
closes the connection.  What is posted goes to `DealChatTextMsg`. -/
theorem text_posted_iff (uuid : Uuid) (threadId : Int64) (peer : Int32) {text : QString}
    {payload : String} (h : onSendBtnClicked uuid threadId peer text = some payload)
    {mgr mgr' : TcpMgr} (hsend : mgr.dispatchTextEntry payload = some mgr') :
    ∃ block, mgr'.sendQueue = mgr.sendQueue ++ [block] ∧
      block.drop headTotalLen = Wire.utf8 payload ∧
      lengthField block = (Wire.utf8 payload).length ∧
      (∀ parse (s : CSession), s.AwaitsFrame → ∀ head body, CSession.Cuts block head body →
        ((CSession.run parse s (CSession.arrivals (head ++ body))).posted = s.posted ++
            [⟨(Wire.utf8 payload).length, (Wire.utf8 payload).length, idTextChatMsgReq,
              Wire.utf8 payload⟩] ∧
          (CSession.run parse s (CSession.arrivals (head ++ body))).AwaitsFrame ↔
            requestOverhead threadId peer + textCost text ≤ maxLength) ∧
        (maxLength < requestOverhead threadId peer + textCost text →
          (CSession.run parse s (CSession.arrivals (head ++ body))).lifecycle = .closing ∧
            (CSession.run parse s (CSession.arrivals (head ++ body))).posted = s.posted)) ∧
      ∀ {W : Type} (svc : Services W) (session : Session) (st : HandlerState W),
        svc.isOpen st.world = (true, st.world) → st.userUid ≠ 0 →
        st.userUid = session.routingUid →
        dispatchClientMessage svc session idTextChatMsgReq (Wire.utf8 payload) st =
          dealChatTextMsg svc (Wire.utf8 payload) st := by
  obtain ⟨hsize, hshort, hne⟩ := onSendBtnClicked_eq h
  refine ⟨frame 1301 (Wire.utf8 payload), dispatchTextEntry_eq hsend, rfl,
    lengthField_frame 1301 hshort, ?_, ?_⟩
  · intro parse s hs head body hcuts
    rw [← hsize]
    refine ⟨⟨?_, ?_⟩, ?_⟩
    · rintro ⟨-, hawaits⟩
      by_contra hlong
      have hclosing := (CSession.run_frame_too_long parse hs (by omega) hshort hcuts).1
      rw [hawaits.opened] at hclosing
      exact absurd hclosing (by decide)
    · intro hfits
      have hposts := CSession.run_frame parse hs (by decide) (by decide) hne hfits hcuts
      exact ⟨hposts.2, hposts.1⟩
    · intro hlong
      exact CSession.run_frame_too_long parse hs hlong hshort hcuts
  · intro W svc session st hopen huid hroute
    rw [dispatchClientMessage_eq hopen huid hroute (by decide), runCallback_text]

/-! ### Two texts -/

/-- Units outside the surrogates are characters of their own. -/
theorem chars_of_plain (h : ∀ u ∈ text, QString.isHighSurrogate u = false) :
    QString.chars text = text.map QString.single := by
  induction text using QString.chars.induct with
  | case1 | case2 u => rfl
  | case3 u v us hpair ih => simp [h u] at hpair
  | case4 u v us hpair ih =>
    rw [QString.chars, if_neg hpair, ih fun w hw => h w (List.mem_cons_of_mem _ hw)]
    rfl

/-- A session of user 1 that waits for a frame. -/
def boundSession : CSession :=
  { routingUid := 1, pending := some ⟨0, headTotalLen, .head⟩ }

theorem awaitsFrame_boundSession : boundSession.AwaitsFrame :=
  ⟨rfl, rfl, List.length_replicate, by decide⟩

/-- The head in one piece and the payload in another. -/
theorem cuts_frame (msgType : Nat) {payload : List UInt8} (h : payload ≠ []) :
    CSession.Cuts (frame msgType payload) [(frame msgType payload).take 4]
      [(frame msgType payload).drop 4] := by
  refine ⟨List.append_nil _, List.append_nil _, ?_⟩
  rintro b hb
  rcases List.mem_pair.mp hb with rfl | rfl
  · exact List.cons_ne_nil _ _
  · exact h

/-- An empty queue takes every request. -/
theorem dispatchTextEntry_empty (h : (Wire.utf8 payload).length < 32768) :
    ∃ mgr, ({} : TcpMgr).dispatchTextEntry payload = some mgr := by
  refine ⟨_, if_neg ?_⟩
  show ¬ 64 * 1024 * 1024 < 0 + ((Wire.utf8 payload).length + 4)
  omega

/-- The UUID of zeros. -/
def nilUuid : Uuid := ⟨List.replicate 32 0, List.length_replicate⟩

/-- A short text is posted, in two pieces. -/
theorem text_posted_hi :
    ∃ payload mgr block, onSendBtnClicked nilUuid 1 2 [104, 105] = some payload ∧
      ({} : TcpMgr).dispatchTextEntry payload = some mgr ∧ mgr.sendQueue = [block] ∧
      lengthField block = (Wire.utf8 payload).length ∧
      (CSession.run (fun _ => .null) boundSession
        (CSession.arrivals [block.take 4, block.drop 4])).posted =
          [⟨(Wire.utf8 payload).length, (Wire.utf8 payload).length, 1301, Wire.utf8 payload⟩] := by
  have hclick : onSendBtnClicked nilUuid 1 2 [104, 105] = some _ := if_neg (by decide)
  obtain ⟨-, hshort, hne⟩ := onSendBtnClicked_eq hclick
  obtain ⟨mgr, hsend⟩ := dispatchTextEntry_empty hshort
  obtain ⟨block, hqueue, -, hfield, hposts, -⟩ := text_posted_iff nilUuid 1 2 hclick hsend
  have hblock : block = frame 1301 (Wire.utf8 _) :=
    List.singleton_inj.mp (hqueue.symm.trans (dispatchTextEntry_eq hsend))
  have hcuts : CSession.Cuts block [block.take 4] [block.drop 4] := hblock ▸ cuts_frame 1301 hne
  have hfits : requestOverhead 1 2 + textCost [104, 105] ≤ maxLength := by decide
  exact ⟨_, mgr, block, hclick, hsend, hqueue, hfield,
    ((hposts _ _ awaitsFrame_boundSession _ _ hcuts).1.mpr hfits).1⟩

/-- A text of 1024 times U+4E2D. -/
@[irreducible] def chineseText : QString := List.replicate 1024 0x4E2D

theorem textCost_chineseText : textCost chineseText = 3072 := by
  have hplain : ∀ u ∈ List.replicate 1024 (0x4E2D : UInt16), QString.isHighSurrogate u = false := by
    intro u hu
    rw [List.eq_of_mem_replicate hu]
    rfl
  have hchars : QString.chars (List.replicate 1024 0x4E2D) = List.replicate 1024 '中' := by
    rw [chars_of_plain hplain, List.map_replicate]
    rfl
  have hbom : QString.skipBom (List.replicate 1024 '中') = List.replicate 1024 '中' := rfl
  have hchar : charBytes '中' = 3 := by decide
  have hbytes := Json.textBytes_replicate 1024 '中'
  rw [← hbom, ← hchars, hchar] at hbytes
  have hcost := textBytes_roundTrip chineseText
  rw [QString.roundTrip, chineseText, hbytes] at hcost
  rw [chineseText]
  omega

/-- **A text that passes the page and closes the connection.** -/
theorem chineseText_closes :
    ∃ payload mgr block, onSendBtnClicked nilUuid 1 2 chineseText = some payload ∧
      ({} : TcpMgr).dispatchTextEntry payload = some mgr ∧ mgr.sendQueue = [block] ∧
      (CSession.run (fun _ => .null) boundSession
        (CSession.arrivals [block.take 4, block.drop 4])).lifecycle = .closing ∧
      (CSession.run (fun _ => .null) boundSession
        (CSession.arrivals [block.take 4, block.drop 4])).posted = [] := by
  have hlength : ¬ 1024 < chineseText.length := by
    rw [chineseText, List.length_replicate]
    decide
  have hclick : onSendBtnClicked nilUuid 1 2 chineseText = some _ := if_neg hlength
  generalize (textRequestOf nilUuid 1 2 (QString.roundTrip chineseText)).dump = payload at hclick
  obtain ⟨hsize, hshort, hne⟩ := onSendBtnClicked_eq hclick
  obtain ⟨mgr, hsend⟩ := dispatchTextEntry_empty hshort
  have hlong : maxLength < (Wire.utf8 payload).length := by
    rw [hsize, textCost_chineseText]
    have hmax : maxLength = 2048 := rfl
    omega
  have hcloses := CSession.run_frame_too_long (fun _ => .null) awaitsFrame_boundSession hlong
    hshort (cuts_frame 1301 hne)
  exact ⟨payload, mgr, frame 1301 (Wire.utf8 payload), hclick, hsend, dispatchTextEntry_eq hsend,
    hcloses.1, hcloses.2⟩

end LlfcChat

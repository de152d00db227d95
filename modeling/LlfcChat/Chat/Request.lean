/-
What a ChatServer request is made of: the numbers of the protocol
(`protocol_ids.h`, `const.h`) and the functions at the head of
`LogicSystem.cpp` that take a field out of the request.

None of these functions lets an exception out.  Where the C++ code catches one
(`std::stoull` on a number that is too large), the model has the same `match`.
-/
import LlfcChat.Lib.Json
import LlfcChat.Lib.Wire

namespace LlfcChat

/-! ### Numbers of the protocol -/

/-- `ErrorCodes`, as far as the handlers of ChatServer use them. -/
inductive ErrorCodes
  | success | errorJson | rpcFailed | tokenInvalid | uidInvalid | createChatFailed
  | loadChatFailed | messageStoreFailed | serverBusy | messageConflict | resourceInvalid
  | resourceSizeExceeded | friendRequestNotFound | friendRequestHandled | alreadyFriends
  | friendActionInvalid | syncCursorInvalid
  deriving DecidableEq

def ErrorCodes.toInt : ErrorCodes → Int
  | .success => 0
  | .errorJson => 2001
  | .rpcFailed => 2002
  | .tokenInvalid => 2010
  | .uidInvalid => 2011
  | .createChatFailed => 2012
  | .loadChatFailed => 2013
  | .messageStoreFailed => 2014
  | .serverBusy => 2016
  | .messageConflict => 2017
  | .resourceInvalid => 2019
  | .resourceSizeExceeded => 2020
  | .friendRequestNotFound => 2021
  | .friendRequestHandled => 2022
  | .alreadyFriends => 2023
  | .friendActionInvalid => 2024
  | .syncCursorInvalid => 2025

/-- The value of the member `error` of a response. -/
def ErrorCodes.json (e : ErrorCodes) : Json := .int e.toInt

/-- The requests of a client, by their number. -/
def msgChatLogin : Int := 1101
def idHeartBeatReq : Int := 1103
def idSearchUserReq : Int := 1201
def idAddFriendReq : Int := 1203
def idHandleFriendReq : Int := 1205
def idTextChatMsgReq : Int := 1301
def idCreatePrivateChatReq : Int := 1303
def idLoadChatThreadReq : Int := 1401
def idLoadChatMsgReq : Int := 1403
def idSyncUserMessageReq : Int := 1405
def idCreateResourceMsgReq : Int := 1503

/-- The responses, and the notification of a user event. -/
def msgChatLoginRsp : Int := 1102
def idHeartbeatRsp : Int := 1104
def idSearchUserRsp : Int := 1202
def idAddFriendRsp : Int := 1204
def idHandleFriendRsp : Int := 1206
def idTextChatMsgRsp : Int := 1302
def idCreatePrivateChatRsp : Int := 1304
def idLoadChatThreadRsp : Int := 1402
def idLoadChatMsgRsp : Int := 1404
def idSyncUserMessageRsp : Int := 1406
def idCreateResourceMsgRsp : Int := 1504
def idNotifyUserMessage : Int := 1701

/-- `ReqToRspId`; 0 where there is no response to send. -/
def reqToRspId (reqId : Int) : Int :=
  if reqId = msgChatLogin then msgChatLoginRsp
  else if reqId = idSearchUserReq then idSearchUserRsp
  else if reqId = idAddFriendReq then idAddFriendRsp
  else if reqId = idHandleFriendReq then idHandleFriendRsp
  else if reqId = idTextChatMsgReq then idTextChatMsgRsp
  else if reqId = idHeartBeatReq then idHeartbeatRsp
  else if reqId = idLoadChatThreadReq then idLoadChatThreadRsp
  else if reqId = idCreatePrivateChatReq then idCreatePrivateChatRsp
  else if reqId = idLoadChatMsgReq then idLoadChatMsgRsp
  else if reqId = idCreateResourceMsgReq then idCreateResourceMsgRsp
  else if reqId = idSyncUserMessageReq then idSyncUserMessageRsp
  else 0

/-! ### Digits -/

/-- The exceptions a handler can meet: those of the JSON library and the two of
`std::stoi` and `std::stoull`. -/
inductive CppException
  | json (e : Json.Error)
  | invalidArgument
  | outOfRange
  deriving DecidableEq

def isDigit (c : Char) : Bool := decide ('0' ≤ c ∧ c ≤ '9')

/-- `LogicSystem::isPureDigit`.  A byte outside ASCII is no digit, so this may
look at characters; the empty text passes. -/
def isPureDigit (s : String) : Bool := s.toList.all isDigit

/-- The number that digits write. -/
def charsValue (cs : List Char) : Nat := cs.foldl (fun n c => 10 * n + (c.toNat - '0'.toNat)) 0

/-- The number that a text of digits writes. -/
def digitsValue (s : String) : Nat := charsValue s.toList

theorem toList_repr (n : Nat) : (Nat.repr n).toList = Nat.toDigits 10 n := String.toList_ofList

theorem repr_ne_empty (n : Nat) : Nat.repr n ≠ "" := fun h =>
  Nat.toDigits_ne_nil (n := n) (b := 10) (by rw [← toList_repr, h]; rfl)

theorem digitsValue_repr (n : Nat) : digitsValue (Nat.repr n) = n := by
  rw [digitsValue, toList_repr]
  exact Nat.ofDigitChars_toDigits (by decide) (by decide)

/-- `std::stoull` on a text of digits. -/
def stoull (s : String) : Except CppException Nat :=
  if s = "" then .error .invalidArgument
  else if 2 ^ 64 ≤ digitsValue s then .error .outOfRange
  else .ok (digitsValue s)

/-- `std::stoull` on any text, if it uses up the whole text: blanks, a sign and
digits. -/
def stoullWhole (s : String) : Option Nat :=
  let cs := s.toList.dropWhile fun c => c == ' ' || decide ('\t' ≤ c ∧ c ≤ '\r')
  let (negative, digits) := match cs with
    | '-' :: ds => (true, ds)
    | '+' :: ds => (false, ds)
    | ds => (false, ds)
  if digits = [] ∨ ¬digits.all isDigit ∨ 2 ^ 64 ≤ charsValue digits then none
  else some (if negative then (2 ^ 64 - charsValue digits) % 2 ^ 64 else charsValue digits)

/-- `std::stoi` on a text of digits. -/
def stoi (s : String) : Except CppException Int :=
  if s = "" then .error .invalidArgument
  else if 2 ^ 31 ≤ digitsValue s then .error .outOfRange
  else .ok (digitsValue s)

/-! ### Fields -/

/-- `ParseJsonId`: a decimal text below 2^63. -/
def parseJsonId : Json → Option Int
  | .str s =>
    if s = "" ∨ ¬isPureDigit s then none
    else match stoull s with
      | .ok n => if 2 ^ 63 - 1 < n then none else some n
      | .error _ => none
  | _ => none

/-- `ParseJsonInt`: a JSON integer that fits an `int`. -/
def parseJsonInt : Json → Option Int
  | .uint n => if 2 ^ 31 - 1 < n then none else some n
  | .int i => if i < -2 ^ 31 ∨ 2 ^ 31 - 1 < i then none else some i
  | _ => none

/-- `ParseJsonUid`. -/
def parseJsonUid (v : Json) : Option Int := (parseJsonInt v).filter fun uid => decide (0 < uid)

/-- The text of a member that must be there and be a text. -/
def stringField (root : Json) (key : String) : Option String :=
  match root.field key with
  | some (.str s) => some s
  | _ => none

/-- The bytes that `SanitizeFileName` keeps: no path separator and no control
character. -/
def keptInFileName (c : UInt8) : Bool := !(c == 0x2F || c == 0x5C || c < 0x20 || c == 0x7F)

/-- The loop that moves the cut down to the start of a character. -/
def cutBack (out : List UInt8) : Nat → Nat
  | 0 => 0
  | cut + 1 => if out.getD (cut + 1) 0 &&& 0xC0 = 0x80 then cutBack out cut else cut + 1

/-- `SanitizeFileName` on the bytes of the name. -/
def sanitizeBytes (name : List UInt8) : List UInt8 :=
  let out := name.filter keptInFileName
  if 255 < out.length then out.take (cutBack out 255) else out

/-- `SanitizeFileName`; `none` where it returns false. -/
def sanitizeFileName (name : String) : Option String :=
  let out := sanitizeBytes (Wire.utf8 name)
  if out = [] then none else String.fromUTF8? out.toByteArray

/-- `IsValidMimeType`: type and subtype, of letters, digits, dots, plus and
minus signs, with one slash between them. -/
def isValidMimeType (mime : String) : Bool :=
  let segOk (seg : List Char) : Bool := !seg.isEmpty && seg.all fun c =>
    decide ('A' ≤ c ∧ c ≤ 'Z') || decide ('a' ≤ c ∧ c ≤ 'z') || decide ('0' ≤ c ∧ c ≤ '9') ||
      c == '.' || c == '+' || c == '-'
  let cs := mime.toList
  !(mime.utf8ByteSize == 0 || decide (128 < mime.utf8ByteSize)) && cs.count '/' == 1 &&
    segOk (cs.takeWhile (· ≠ '/')) && segOk (cs.dropWhile (· ≠ '/')).tail

/-- `llfc::IsValidSha256Hex`. -/
def isValidSha256Hex (hex : String) : Bool :=
  hex.utf8ByteSize == 64 &&
    hex.toList.all fun c => decide ('0' ≤ c ∧ c ≤ '9') || decide ('a' ≤ c ∧ c ≤ 'f')

end LlfcChat

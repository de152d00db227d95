/-
The records that the servers pass around (`data.h` of ChatServer and
ResourceServer) and the numbers of the wire protocol they use
(`proto/protocol_ids.h`).

A C++ `int` or `std::int64_t` is an `Int`, an unsigned number a `Nat`; where
the width matters the code that computes says so.  A `std::string` that holds
text is a `String`: every text comes out of a JSON document or out of a
`utf8mb4` column and is valid UTF-8, and its `size()` is `utf8ByteSize`.
-/
import Mathlib

namespace LlfcChat

/-! ### Enumerations -/

/-- `MessageStatus`: the column `chat_messages.status`. -/
inductive MessageStatus
  | pending | published | failed
  deriving DecidableEq

/-- `FriendRequestStatus`: the column `friend_requests.status`. -/
inductive FriendRequestStatus
  | pending | accepted | rejected
  deriving DecidableEq

/-- The numbers behind the two status enumerations. -/
def MessageStatus.toInt : MessageStatus → Int
  | .pending => 0
  | .published => 1
  | .failed => 2

def FriendRequestStatus.toInt : FriendRequestStatus → Int
  | .pending => 0
  | .accepted => 1
  | .rejected => 2

/-- `ChatMsgType`.  The records carry it as a plain `int`. -/
def chatMsgText : Int := 0
def chatMsgPic : Int := 1
def chatMsgFile : Int := 3

/-- `UserEventType`. -/
def friendApplyEvent : Int := 10
def friendAcceptEvent : Int := 11
def friendRejectEvent : Int := 12

/-- `SaveMessageResult` of `MysqlDao::AddChatMsg`. -/
inductive SaveMessageResult
  | stored | duplicate | conflict | failed
  deriving DecidableEq

/-- `FriendOperationResult` of the two friend transactions. -/
inductive FriendOperationResult
  | stored | duplicate | conflict | notFound | alreadyHandled | alreadyFriends | forbidden | failed
  deriving DecidableEq

/-- `MysqlDao::PublishResult` of ResourceServer. -/
inductive PublishResult
  | published | alreadyPublished | notPending | notFound | transient
  deriving DecidableEq

/-! ### Records -/

structure UserInfo where
  userId : Int := 0
  username : String := ""
  email : String := ""
  nickname : String := ""
  profileBio : String := ""
  gender : Int := 0
  avatarKey : String := ""
  deriving DecidableEq

structure MessageResource where
  messageId : Int := 0
  originalFileName : String := ""
  fileSizeBytes : Nat := 0
  sha256 : String := ""
  mimeType : String := ""
  deriving DecidableEq

/-- `recipientUserId` and `eventSeq` are projections and never persisted. -/
structure ChatMessage where
  messageId : Int := 0
  threadId : Int := 0
  senderUserId : Int := 0
  recipientUserId : Int := 0
  clientMessageId : String := ""
  messageType : Int := chatMsgText
  textContent : String := ""
  status : MessageStatus := .published
  createdAt : String := ""
  resource : Option MessageResource := none
  eventSeq : Nat := 0
  deriving DecidableEq

structure FriendRequest where
  friendRequestId : Int := 0
  requesterUserId : Int := 0
  targetUserId : Int := 0
  clientRequestId : String := ""
  requestMessage : String := ""
  status : FriendRequestStatus := .pending
  threadId : Int := 0
  createdAt : String := ""
  eventSeq : Nat := 0
  deriving DecidableEq

structure FriendHandleOutput where
  request : Option FriendRequest := none
  threadId : Int := 0
  peerUserId : Int := 0
  deriving DecidableEq

structure UserEvent where
  eventSeq : Nat := 0
  eventType : Int := 0
  message : Option ChatMessage := none
  friendRequest : Option FriendRequest := none
  deriving DecidableEq

structure ContactInfo where
  user : UserInfo
  threadId : Int := 0
  deriving DecidableEq

structure ApplyInfo where
  request : FriendRequest
  peer : UserInfo
  deriving DecidableEq

structure ChatThreadInfo where
  threadId : Int := 0
  lowerUserId : Int := 0
  higherUserId : Int := 0
  lastMsgId : Int := 0
  deriving DecidableEq

structure PageResult where
  messages : List ChatMessage := []
  loadMore : Bool := false
  nextCursor : Int := 0
  deriving DecidableEq

/-- A resource message is a picture or a file. -/
def ChatMessage.isResource (m : ChatMessage) : Bool :=
  m.messageType = chatMsgPic ∨ m.messageType = chatMsgFile

/-! ### Fixed-width arithmetic -/

/-- The value of an expression of type `std::uint64_t`. -/
def u64 (n : Nat) : Nat := n % 2 ^ 64

theorem u64_of_lt {n : Nat} (h : n < 2 ^ 64) : u64 n = n := Nat.mod_eq_of_lt h

end LlfcChat

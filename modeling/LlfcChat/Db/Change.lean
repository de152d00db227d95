/-
What can ever happen to the database.

`Change db db'` lists the atomic ways in which a committed state turns into
the next one, with what the transactions have checked when they do it.  It
knows nothing of statements, faults or retries: `Db/Refine.lean` shows that
every transaction of the two servers, however it is interrupted, amounts to
finitely many changes, and the invariants of the tables are proved here and in
the modules that follow for one change at a time.
-/
import LlfcChat.Db.ResourceDao

namespace LlfcChat

/-! ### Notifying a user -/

/-- Append an event to a user's log: the next number is taken and the row that
carries it is inserted. -/
def Db.notify (db : Db) (recipient : Int) (row : Nat → UserEventRow) : Db :=
  (db.setLastEventSeq recipient (db.nextEventSeq recipient)).addUserEvent
    (row (db.nextEventSeq recipient))

section Notify

variable (db : Db) (recipient : Int) (row : Nat → UserEventRow)

theorem notify_userIds :
    (db.notify recipient row).users.map (·.userId) = db.users.map (·.userId) := by
  apply Table.map_update
  intro u
  rfl

end Notify

/-! ### Changes -/

/-- The messages that `storeText` and `storeResource` add: the id is the next
one, the sender is a member of the thread, the client id is new. -/
structure NewMessage (db : Db) (m : ChatMessageRow) (pc : PrivateChatRow) : Prop where
  id : m.messageId = db.nextMessageId
  admitted : db.AdmitsChatMessage m
  chat : db.privateChat m.threadId = some pc
  member : m.senderUserId = pc.lowerUserId ∨ m.senderUserId = pc.higherUserId

/-- One atomic change of the database. -/
inductive Change (db : Db) : Db → Prop
  /-- A transaction that was rolled back has used up some ids. -/
  | skipIds (users threads messages requests : Nat) :
      Change db
        { db with
          nextUserId := db.nextUserId + users
          nextThreadId := db.nextThreadId + threads
          nextMessageId := db.nextMessageId + messages
          nextFriendRequestId := db.nextFriendRequestId + requests }
  | newUser (u : UserRow) (hid : u.userId = db.nextUserId) (hseq : u.lastEventSeq = 0)
      (hu : db.AdmitsUser u) : Change db (db.addUser u)
  | newAvatar (userId : Int) (avatarKey : String) : Change db (db.setAvatarKey userId avatarKey)
  | newChat (pc : PrivateChatRow) (hid : pc.threadId = db.nextThreadId)
      (hlim : db.nextThreadId < idLimit) (hpc : db.AdmitsPair pc.lowerUserId pc.higherUserId)
      (hnew : ∀ q ∈ db.privateChats,
        ¬(q.lowerUserId = pc.lowerUserId ∧ q.higherUserId = pc.higherUserId)) :
      Change db (db.addPrivateChat pc)
  | newFriendship (f : FriendshipRow) (hf : db.AdmitsPair f.lowerUserId f.higherUserId)
      (hnew : f ∉ db.friendships) : Change db (db.addFriendship f)
  | apply (r : FriendRequestRow) (hid : r.friendRequestId = db.nextFriendRequestId)
      (hr : db.AdmitsFriendRequest r) (hs : r.status = .pending) (ht : r.threadId = none) :
      Change db ((db.addFriendRequest r).notify r.targetUserId
        (friendEventRow r.targetUserId friendApplyEvent r.friendRequestId))
  | accept (r : FriendRequestRow) (hr : r ∈ db.friendRequests) (hs : r.status = .pending)
      (pc : PrivateChatRow) (hpc : pc ∈ db.privateChats)
      (hlo : pc.lowerUserId = min r.requesterUserId r.targetUserId)
      (hhi : pc.higherUserId = max r.requesterUserId r.targetUserId)
      (hu : db.HasUser r.requesterUserId) :
      Change db
        ((db.acceptRequests pc.lowerUserId pc.higherUserId pc.threadId).notify r.requesterUserId
          (friendEventRow r.requesterUserId friendAcceptEvent r.friendRequestId))
  | reject (r : FriendRequestRow) (hr : r ∈ db.friendRequests) (hs : r.status = .pending)
      (hu : db.HasUser r.requesterUserId) :
      Change db
        ((db.rejectRequest r.friendRequestId).notify r.requesterUserId
          (friendEventRow r.requesterUserId friendRejectEvent r.friendRequestId))
  | storeText (m : ChatMessageRow) (pc : PrivateChatRow) (hm : NewMessage db m pc)
      (hs : m.status = .published) (hu : db.HasUser (pc.other m.senderUserId)) :
      Change db
        ((db.addChatMessage m).notify (pc.other m.senderUserId)
          (messageEventRow (pc.other m.senderUserId) m.messageType m.messageId))
  | storeResource (m : ChatMessageRow) (pc : PrivateChatRow) (hm : NewMessage db m pc)
      (hs : m.status = .pending) (r : MessageResource) (hr : r.messageId = m.messageId)
      (hadm : (db.addChatMessage m).AdmitsMessageResource r) :
      Change db ((db.addChatMessage m).addMessageResource r)
  | publish (m : ChatMessageRow) (hm : db.chatMessage m.messageId = some m)
      (hs : m.status = .pending) (pc : PrivateChatRow) (hpc : db.privateChat m.threadId = some pc)
      (hu : db.HasUser (pc.other m.senderUserId)) :
      Change db
        ((db.setPendingMessage m.messageId .published).notify (pc.other m.senderUserId)
          (messageEventRow (pc.other m.senderUserId) m.messageType m.messageId))
  | fail (messageId : Int) : Change db (db.setPendingMessage messageId .failed)

/-- Finitely many changes. -/
abbrev Changes : Db → Db → Prop := Relation.ReflTransGen Change

/-- An invariant of single changes is an invariant. -/
theorem Changes.invariant {P : Db → Prop} (hstep : ∀ db db', P db → Change db db' → P db')
    {db db' : Db} (h : Changes db db') (hdb : P db) : P db' := by
  induction h with
  | refl => exact hdb
  | tail _ hc ih => exact hstep _ _ ih hc

end LlfcChat

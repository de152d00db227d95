/-
A message is published exactly when its recipient's log says so.

`chat_messages.status` is written by three transactions of two programs and
`user_events` by four.  The invariant that ties the two tables together is
`Logged`: a published message is referred to by one event, addressed to the
other member of its private chat and of its own type, and a message that is
not published by none.  It rests on the keys of the tables (`Db.Keyed`), and
both are kept by every change.
-/
import LlfcChat.Db.EventLog

namespace LlfcChat

/-! ### The invariant -/

/-- The events that refer to a message. -/
def Db.eventsAbout (db : Db) (messageId : Int) : List UserEventRow :=
  db.userEvents.filter (·.messageId = some messageId)

/-- Ids and client ids are keys, and the ids still to be handed out are new. -/
structure Db.Keyed (db : Db) : Prop where
  threadIds : (db.privateChats.map (·.threadId)).Nodup
  threadsBelow : ∀ pc ∈ db.privateChats, pc.threadId < db.nextThreadId
  membersOrdered : ∀ pc ∈ db.privateChats, pc.lowerUserId < pc.higherUserId
  messageIds : (db.chatMessages.map (·.messageId)).Nodup
  messagesBelow : ∀ m ∈ db.chatMessages, m.messageId < db.nextMessageId
  clientIds : (db.chatMessages.map fun m => (m.senderUserId, m.clientMessageId)).Nodup
  referenced : ∀ e ∈ db.userEvents, ∀ id, e.messageId = some id →
    ∃ m ∈ db.chatMessages, m.messageId = id

/-- The private chat of a message, with its sender as one of the members. -/
def Db.ChatOf (db : Db) (m : ChatMessageRow) (pc : PrivateChatRow) : Prop :=
  db.privateChat m.threadId = some pc ∧
    (m.senderUserId = pc.lowerUserId ∨ m.senderUserId = pc.higherUserId)

/-- The event that tells the other member about the message. -/
def Announces (e : UserEventRow) (m : ChatMessageRow) (pc : PrivateChatRow) : Prop :=
  e.recipientUserId = pc.other m.senderUserId ∧ e.eventType = m.messageType

/-- The message has a private chat and the events its status stands for. -/
def Db.Logged (db : Db) (m : ChatMessageRow) : Prop :=
  ∃ pc, db.ChatOf m pc ∧
    if m.status = .published then ∃ e, db.eventsAbout m.messageId = [e] ∧ Announces e m pc
    else db.eventsAbout m.messageId = []

structure Db.Consistent (db : Db) : Prop extends db.Keyed where
  logged : ∀ m ∈ db.chatMessages, db.Logged m

theorem consistent_empty : Db.Consistent .empty where
  threadIds := List.nodup_nil
  threadsBelow _ h := absurd h List.not_mem_nil
  membersOrdered _ h := absurd h List.not_mem_nil
  messageIds := List.nodup_nil
  messagesBelow _ h := absurd h List.not_mem_nil
  clientIds := List.nodup_nil
  referenced _ h := absurd h List.not_mem_nil
  logged _ h := absurd h List.not_mem_nil

variable {m : ChatMessageRow} {db db' : Db} {id : Int} {es : List UserEventRow} {st : MessageStatus}
  {pc : PrivateChatRow} {e : UserEventRow}

theorem other_ne_sender (hk : db.Keyed) (h : db.ChatOf m pc) :
    pc.other m.senderUserId ≠ m.senderUserId := by
  have hlt := hk.membersOrdered pc (List.mem_of_find?_eq_some h.1)
  unfold PrivateChatRow.other
  split
  · omega
  · exact fun e => ‹¬_› e

/-! ### Changes that leave the messages alone -/

/-- No chat, no message and no event about a message is different. -/
structure SameMessages (db db' : Db) : Prop where
  privateChats : db'.privateChats = db.privateChats
  chatMessages : db'.chatMessages = db.chatMessages
  nextThreadId : db.nextThreadId ≤ db'.nextThreadId
  nextMessageId : db.nextMessageId ≤ db'.nextMessageId
  userEvents : ∃ es, db'.userEvents = db.userEvents ++ es ∧ ∀ e ∈ es, e.messageId = none

theorem SameMessages.eventsAbout (h : SameMessages db db') (id : Int) :
    db'.eventsAbout id = db.eventsAbout id := by
  obtain ⟨es, hes, hnone⟩ := h.userEvents
  have hnil : es.filter (·.messageId = some id) = [] := by
    rw [List.filter_eq_nil_iff]
    intro e he
    rw [hnone e he]
    simp
  rw [Db.eventsAbout, hes, List.filter_append, hnil, List.append_nil, Db.eventsAbout]

theorem SameMessages.logged (h : SameMessages db db') (hm : db.Logged m) : db'.Logged m := by
  unfold Db.Logged Db.ChatOf Db.privateChat at hm ⊢
  rw [h.privateChats, h.eventsAbout]
  exact hm

theorem Db.Consistent.same (hdb : db.Consistent) (h : SameMessages db db') : db'.Consistent where
  threadIds := h.privateChats ▸ hdb.threadIds
  threadsBelow pc hpc :=
    Int.lt_of_lt_of_le (hdb.threadsBelow pc (h.privateChats ▸ hpc))
      (by exact_mod_cast h.nextThreadId)
  membersOrdered := h.privateChats ▸ hdb.membersOrdered
  messageIds := h.chatMessages ▸ hdb.messageIds
  messagesBelow m hm :=
    Int.lt_of_lt_of_le (hdb.messagesBelow m (h.chatMessages ▸ hm))
      (by exact_mod_cast h.nextMessageId)
  clientIds := h.chatMessages ▸ hdb.clientIds
  referenced e he id hid := by
    obtain ⟨es, hes, hnone⟩ := h.userEvents
    rw [hes, List.mem_append] at he
    rcases he with he | he
    · rw [h.chatMessages]
      exact hdb.referenced e he id hid
    · rw [hnone e he] at hid
      cases hid
  logged m hm := h.logged (hdb.logged m (h.chatMessages ▸ hm))

/-! ### Changes of the messages -/

/-- A message is added, with the event that its status stands for. -/
structure AddsMessage (db db' : Db) (m : ChatMessageRow) (pc : PrivateChatRow)
    (es : List UserEventRow) : Prop where
  new : NewMessage db m pc
  privateChats : db'.privateChats = db.privateChats
  chatMessages : db'.chatMessages = db.chatMessages ++ [m]
  nextThreadId : db'.nextThreadId = db.nextThreadId
  nextMessageId : db'.nextMessageId = db.nextMessageId + 1
  userEvents : db'.userEvents = db.userEvents ++ es
  about : ∀ e ∈ es, e.messageId = some m.messageId
  announced : if m.status = .published then ∃ e, es = [e] ∧ Announces e m pc else es = []

/-- A pending message is moved on, with the event that its new status stands for. -/
structure MovesMessage (db db' : Db) (id : Int) (st : MessageStatus) (es : List UserEventRow) :
    Prop where
  privateChats : db'.privateChats = db.privateChats
  chatMessages : db'.chatMessages = (db.setPendingMessage id st).chatMessages
  nextThreadId : db'.nextThreadId = db.nextThreadId
  nextMessageId : db'.nextMessageId = db.nextMessageId
  userEvents : db'.userEvents = db.userEvents ++ es
  about : ∀ e ∈ es, e.messageId = some id
  status : st = .failed ∧ es = [] ∨ st = .published ∧ ∃ m pc e, db.chatMessage id = some m ∧
    m.status = .pending ∧ db.privateChat m.threadId = some pc ∧ es = [e] ∧ Announces e m pc

/-- **A change and the messages.** -/
theorem Change.messages (h : Change db db') :
    SameMessages db db' ∨
      (∃ pc : PrivateChatRow, pc.threadId = db.nextThreadId ∧ pc.lowerUserId < pc.higherUserId ∧
        db' = db.addPrivateChat pc) ∨
      (∃ m pc es, AddsMessage db db' m pc es) ∨ ∃ id st es, MovesMessage db db' id st es := by
  cases h with
  | skipIds u t m r =>
    exact .inl ⟨rfl, rfl, Nat.le_add_right _ _, Nat.le_add_right _ _, [], (List.append_nil _).symm,
      nofun⟩
  | newUser u hid hseq hu | newAvatar userId key | newFriendship f hf hnew =>
    exact .inl ⟨rfl, rfl, Nat.le_refl _, Nat.le_refl _, [], (List.append_nil _).symm, nofun⟩
  | newChat pc hid hlim hpc hnew => exact .inr (.inl ⟨pc, hid, hpc.1, rfl⟩)
  | apply r hid hr hs ht | accept r hr hs pc hpc hlo hhi hu | reject r hr hs hu =>
    exact .inl ⟨rfl, rfl, Nat.le_refl _, Nat.le_refl _, _, rfl, by simp [friendEventRow]⟩
  | storeText m pc hm hs hu =>
    refine .inr (.inr (.inl ⟨m, pc, _, hm, rfl, rfl, rfl, rfl, rfl, by simp [messageEventRow], ?_⟩))
    rw [if_pos hs]
    exact ⟨_, rfl, rfl, rfl⟩
  | storeResource m pc hm hs r hr hadm =>
    refine .inr (.inr (.inl ⟨m, pc, [], hm, rfl, rfl, rfl, rfl, (List.append_nil _).symm, nofun,
      ?_⟩))
    rw [if_neg (by rw [hs]; decide)]
  | publish m hm hs pc hpc hu =>
    exact .inr (.inr (.inr ⟨m.messageId, .published, _, rfl, rfl, rfl, rfl, rfl,
      by simp [messageEventRow], .inr ⟨rfl, m, pc, _, hm, hs, hpc, rfl, rfl, rfl⟩⟩))
  | fail id =>
    exact .inr (.inr (.inr ⟨id, .failed, [], rfl, rfl, rfl, rfl, (List.append_nil _).symm, nofun,
      .inl ⟨rfl, rfl⟩⟩))

theorem Db.Consistent.newChat (hdb : db.Consistent) (hid : pc.threadId = db.nextThreadId)
    (hlt : pc.lowerUserId < pc.higherUserId) :
    (db.addPrivateChat pc).Consistent where
  threadIds := Table.nodup_concat hdb.threadIds fun q hq => by
    have := hdb.threadsBelow q hq
    omega
  threadsBelow q hq := by
    have hq := List.mem_append.mp hq
    show q.threadId < ((db.nextThreadId + 1 : Nat) : Int)
    rcases hq with hq | hq
    · have := hdb.threadsBelow q hq
      omega
    · rw [List.mem_singleton.mp hq]
      omega
  membersOrdered q hq := by
    rcases List.mem_append.mp hq with hq | hq
    · exact hdb.membersOrdered q hq
    · rw [List.mem_singleton.mp hq]
      exact hlt
  messageIds := hdb.messageIds
  messagesBelow := hdb.messagesBelow
  clientIds := hdb.clientIds
  referenced := hdb.referenced
  logged m hm := by
    obtain ⟨q, ⟨hq, hsender⟩, hev⟩ := hdb.logged m hm
    exact ⟨q, ⟨Table.find?_append_of_some hq _, hsender⟩, hev⟩

theorem eventsAbout_append (h : db'.userEvents = db.userEvents ++ es)
    (hes : ∀ e ∈ es, e.messageId = some id) (i : Int) :
    db'.eventsAbout i = db.eventsAbout i ++ if i = id then es else [] := by
  rw [Db.eventsAbout, h, List.filter_append]
  congr 1
  split
  · rename_i hi
    refine List.filter_eq_self.mpr fun e he => ?_
    rw [hes e he, hi]
    simp
  · rename_i hi
    refine List.filter_eq_nil_iff.mpr fun e he => ?_
    rw [hes e he]
    simpa using fun h => hi h.symm

/-- An id that has not been handed out is in nobody's log. -/
theorem eventsAbout_next (hk : db.Keyed) : db.eventsAbout db.nextMessageId = [] := by
  refine List.filter_eq_nil_iff.mpr fun e he hid => ?_
  obtain ⟨m, hm, hmid⟩ := hk.referenced e he _ (of_decide_eq_true hid)
  have := hk.messagesBelow m hm
  omega

theorem Db.Consistent.addsMessage (hdb : db.Consistent) (h : AddsMessage db db' m pc es) :
    db'.Consistent := by
  have hid : m.messageId = db.nextMessageId := h.new.id
  have hev := eventsAbout_append h.userEvents h.about
  have hchat : ∀ n q, db.ChatOf n q → db'.ChatOf n q := by
    intro n q hq
    unfold Db.ChatOf Db.privateChat
    rw [h.privateChats]
    exact hq
  constructor
  constructor
  · rw [h.privateChats]
    exact hdb.threadIds
  · rw [h.privateChats, h.nextThreadId]
    exact hdb.threadsBelow
  · rw [h.privateChats]
    exact hdb.membersOrdered
  · rw [h.chatMessages]
    refine Table.nodup_concat hdb.messageIds fun n hn => ?_
    have := hdb.messagesBelow n hn
    omega
  · intro n hn
    rw [h.chatMessages, List.mem_append] at hn
    rw [h.nextMessageId]
    rcases hn with hn | hn
    · have := hdb.messagesBelow n hn
      omega
    · rw [List.mem_singleton.mp hn]
      omega
  · rw [h.chatMessages]
    refine Table.nodup_concat hdb.clientIds fun n hn he => ?_
    rw [Prod.mk.injEq] at he
    exact h.new.admitted.2.2.2.1 n hn he
  · intro e he i hi
    rw [h.userEvents, List.mem_append] at he
    rw [h.chatMessages]
    rcases he with he | he
    · obtain ⟨n, hn, hni⟩ := hdb.referenced e he i hi
      exact ⟨n, List.mem_append_left _ hn, hni⟩
    · rw [h.about e he, Option.some.injEq] at hi
      exact ⟨m, List.mem_append_right _ (List.mem_singleton_self m), hi⟩
  · intro n hn
    rw [h.chatMessages, List.mem_append] at hn
    rcases hn with hn | hn
    · obtain ⟨q, hq, hlog⟩ := hdb.logged n hn
      have hne : n.messageId ≠ m.messageId := by
        have := hdb.messagesBelow n hn
        omega
      refine ⟨q, hchat n q hq, ?_⟩
      rw [hev, if_neg hne, List.append_nil]
      exact hlog
    · rw [List.mem_singleton.mp hn]
      refine ⟨pc, hchat m pc ⟨h.new.chat, h.new.member⟩, ?_⟩
      rw [hev, if_pos rfl, hid, eventsAbout_next hdb.toKeyed]
      exact h.announced

theorem map_setPendingMessage {β : Type} (db : Db) (id : Int) (st : MessageStatus)
    {g : ChatMessageRow → β} (h : ∀ m st, g { m with status := st } = g m) :
    (db.setPendingMessage id st).chatMessages.map g = db.chatMessages.map g :=
  Table.map_update (fun m => h m st) _

theorem mem_setPendingMessage {n : ChatMessageRow} :
    n ∈ (db.setPendingMessage id st).chatMessages ↔
      (∃ m ∈ db.chatMessages, m.messageId = id ∧ m.status = .pending ∧
          n = { m with status := st }) ∨
        n ∈ db.chatMessages ∧ ¬(n.messageId = id ∧ n.status = .pending) := by
  refine Table.mem_update.trans ⟨?_, ?_⟩
  · rintro ⟨m, hm, rfl⟩
    by_cases hp : m.messageId = id ∧ m.status = .pending
    · exact .inl ⟨m, hm, hp.1, hp.2, if_pos hp⟩
    · have hsame : Table.updated (fun m : ChatMessageRow => m.messageId = id ∧ m.status = .pending)
          (fun m => { m with status := st }) m = m := if_neg hp
      exact .inr (hsame.symm ▸ ⟨hm, hp⟩)
  · rintro (⟨m, hm, hid, hs, rfl⟩ | ⟨hn, hp⟩)
    · exact ⟨m, hm, if_pos ⟨hid, hs⟩⟩
    · exact ⟨n, hn, if_neg hp⟩

theorem setPendingMessage_ids (hm : m ∈ db.chatMessages) :
    ∃ n ∈ (db.setPendingMessage id st).chatMessages, n.messageId = m.messageId := by
  have hmem : m.messageId ∈ (db.setPendingMessage id st).chatMessages.map (·.messageId) := by
    rw [map_setPendingMessage _ _ _ fun _ _ => rfl]
    exact List.mem_map_of_mem hm
  exact List.mem_map.mp hmem

theorem chatMessage_unique (hk : db.Keyed) {n : ChatMessageRow} (hm : m ∈ db.chatMessages)
    (hid : m.messageId = id) (hn : db.chatMessage id = some n) :
    m = n := by
  subst hid
  rw [Db.chatMessage, Table.find?_key hk.messageIds hm] at hn
  exact Option.some.inj hn

theorem Db.Consistent.movesMessage (hdb : db.Consistent) (h : MovesMessage db db' id st es) :
    db'.Consistent := by
  have hev := eventsAbout_append h.userEvents h.about
  constructor
  constructor
  · rw [h.privateChats]
    exact hdb.threadIds
  · rw [h.privateChats, h.nextThreadId]
    exact hdb.threadsBelow
  · rw [h.privateChats]
    exact hdb.membersOrdered
  · rw [h.chatMessages, map_setPendingMessage _ _ _ fun _ _ => rfl]
    exact hdb.messageIds
  · intro n hn
    rw [h.chatMessages, mem_setPendingMessage] at hn
    rw [h.nextMessageId]
    rcases hn with ⟨m, hm, -, -, rfl⟩ | ⟨hn, -⟩
    · exact hdb.messagesBelow m hm
    · exact hdb.messagesBelow n hn
  · rw [h.chatMessages, map_setPendingMessage _ _ _ fun _ _ => rfl]
    exact hdb.clientIds
  · intro e he i hi
    rw [h.userEvents, List.mem_append] at he
    obtain ⟨m, hm, hmi⟩ : ∃ m ∈ db.chatMessages, m.messageId = i := by
      rcases he with he | he
      · exact hdb.referenced e he i hi
      · rw [h.about e he, Option.some.injEq] at hi
        rcases h.status with ⟨-, rfl⟩ | ⟨-, m, -, -, hm, -⟩
        · cases he
        · have hid : m.messageId = id := by simpa using List.find?_some hm
          exact ⟨m, List.mem_of_find?_eq_some hm, hid.trans hi⟩
    rw [h.chatMessages]
    exact hmi ▸ setPendingMessage_ids hm
  · intro n hn
    rw [h.chatMessages, mem_setPendingMessage] at hn
    unfold Db.Logged Db.ChatOf Db.privateChat
    rw [h.privateChats, hev]
    rcases hn with ⟨m, hm, rfl, hs, rfl⟩ | ⟨hn, hp⟩
    · -- the message that was moved had no event and now has those of its new status
      obtain ⟨pc, hpc, hlog⟩ := hdb.logged m hm
      rw [if_neg (by rw [hs]; decide)] at hlog
      refine ⟨pc, hpc, ?_⟩
      rw [if_pos rfl, hlog]
      rcases h.status with ⟨rfl, rfl⟩ | ⟨rfl, m', pc', e, hm', -, hpc', rfl, hann⟩
      · rfl
      · obtain rfl : m = m' := chatMessage_unique hdb.toKeyed hm rfl hm'
        rw [hpc.1] at hpc'
        cases hpc'
        exact ⟨e, rfl, hann⟩
    · obtain ⟨pc, hpc, hlog⟩ := hdb.logged n hn
      refine ⟨pc, hpc, ?_⟩
      by_cases hid : n.messageId = id
      · -- it was not pending, so nothing has been published
        rcases h.status with ⟨-, rfl⟩ | ⟨-, m', -, -, hm', hs', -⟩
        · rw [ite_self, List.append_nil]
          exact hlog
        · obtain rfl : n = m' := chatMessage_unique hdb.toKeyed hn hid hm'
          exact absurd ⟨hid, hs'⟩ hp
      · rw [if_neg hid, List.append_nil]
        exact hlog

/-- **Every change keeps the tables consistent.** -/
theorem Db.Consistent.change (h : db.Consistent) (hc : Change db db') : db'.Consistent := by
  rcases hc.messages with hsame | ⟨pc, hid, hlt, rfl⟩ | ⟨m, pc, es, hadd⟩ | ⟨id, st, es, hmove⟩
  · exact h.same hsame
  · exact h.newChat hid hlt
  · exact h.addsMessage hadd
  · exact h.movesMessage hmove

theorem Reachable.consistent {s : Sys} (h : Reachable s) : s.db.Consistent :=
  (Steps.changes h).invariant (fun _ _ => Db.Consistent.change) consistent_empty

/-! ### Published and failed are final -/

theorem Change.keepsMessage (hm : m ∈ db.chatMessages) (hc : Change db db') :
    m ∈ db'.chatMessages ∨
      m.status = .pending ∧ ∃ st, { m with status := st } ∈ db'.chatMessages := by
  rcases hc.messages with hsame | ⟨pc, -, -, rfl⟩ | ⟨n, pc, es, hadd⟩ | ⟨id, st, es, hmove⟩
  · rw [hsame.chatMessages]
    exact .inl hm
  · exact .inl hm
  · rw [hadd.chatMessages]
    exact .inl (List.mem_append_left _ hm)
  · rw [hmove.chatMessages, mem_setPendingMessage]
    by_cases hp : m.messageId = id ∧ m.status = .pending
    · exact .inr ⟨hp.2, st, mem_setPendingMessage.mpr (.inl ⟨m, hm, hp.1, hp.2, rfl⟩)⟩
    · exact .inl (.inr ⟨hm, hp⟩)

/-- A message keeps everything but its status, and that once it is final. -/
theorem Changes.keepsMessage (hm : m ∈ db.chatMessages) (h : Changes db db') :
    ∃ st, { m with status := st } ∈ db'.chatMessages ∧ (m.status ≠ .pending → st = m.status) := by
  induction h with
  | refl => exact ⟨m.status, hm, fun _ => rfl⟩
  | tail _ hc ih =>
    obtain ⟨st, hst, hfinal⟩ := ih
    rcases hc.keepsMessage hst with hmem | ⟨hp, st', hmem⟩
    · exact ⟨st, hmem, hfinal⟩
    · refine ⟨st', hmem, fun hne => ?_⟩
      have hst' : st = .pending := hp
      exact absurd ((hfinal hne).symm.trans hst') hne

theorem Changes.keepsFinal (hm : m ∈ db.chatMessages) (hs : m.status ≠ .pending)
    (h : Changes db db') : m ∈ db'.chatMessages := by
  obtain ⟨st, hst, hfinal⟩ := h.keepsMessage hm
  rw [hfinal hs] at hst
  exact hst

/-! ### Friend events -/

/-- An event that is about no message is about a friend request that exists. -/
def Db.RequestsReferenced (db : Db) : Prop :=
  ∀ e ∈ db.userEvents, e.messageId = none →
    ∃ id ∈ db.friendRequests.map (·.friendRequestId), e.friendRequestId = some id

/-- Requests only come in, and a new event is about a message or about one of
them. -/
theorem Db.RequestsReferenced.extend (h : db.RequestsReferenced) (es : List UserEventRow)
    (hids : db.friendRequests.map (·.friendRequestId) ⊆ db'.friendRequests.map (·.friendRequestId))
    (hev : db'.userEvents = db.userEvents ++ es) (hes : ∀ e ∈ es, e.messageId = none →
      ∃ id ∈ db'.friendRequests.map (·.friendRequestId), e.friendRequestId = some id) :
    db'.RequestsReferenced := by
  intro e he hnone
  rw [hev] at he
  rcases List.mem_append.mp he with he | he
  · obtain ⟨id, hid, hreq⟩ := h e he hnone
    exact ⟨id, hids hid, hreq⟩
  · exact hes e he hnone

/-- Accepting and rejecting write other columns. -/
theorem map_acceptRequests (db : Db) (lower higher id : Int) :
    (db.acceptRequests lower higher id).friendRequests.map (·.friendRequestId) =
      db.friendRequests.map (·.friendRequestId) := by
  apply Table.map_update
  exact fun _ => rfl

theorem map_rejectRequest (db : Db) (id : Int) :
    (db.rejectRequest id).friendRequests.map (·.friendRequestId) =
      db.friendRequests.map (·.friendRequestId) := by
  apply Table.map_update
  exact fun _ => rfl

theorem Db.RequestsReferenced.change (h : db.RequestsReferenced) (hc : Change db db') :
    db'.RequestsReferenced := by
  have hnew : ∀ {recipient eventType id : Int} {n : Nat} {ids : List Int}, id ∈ ids →
      ∀ e ∈ [friendEventRow recipient eventType id n], e.messageId = none →
        ∃ id ∈ ids, e.friendRequestId = some id := by
    intro recipient eventType id n ids hid e he _
    obtain rfl := List.mem_singleton.mp he
    exact ⟨id, hid, rfl⟩
  have hmessage : ∀ {recipient eventType id : Int} {n : Nat} {ids : List Int},
      ∀ e ∈ [messageEventRow recipient eventType id n], e.messageId = none →
        ∃ id ∈ ids, e.friendRequestId = some id := by
    intro recipient eventType id n ids e he hnone
    obtain rfl := List.mem_singleton.mp he
    cases hnone
  cases hc with
  | apply r hid hr hs ht =>
    have hmap : ((db.addFriendRequest r).friendRequests.map (·.friendRequestId)) =
        db.friendRequests.map (·.friendRequestId) ++ [r.friendRequestId] := List.map_append
    exact h.extend [_] (hmap ▸ List.subset_append_left _ _) rfl
      (hnew (hmap ▸ List.mem_append_right _ (List.mem_singleton.mpr rfl)))
  | accept r hr hs pc hpc hlo hhi hu =>
    have hmap := map_acceptRequests db pc.lowerUserId pc.higherUserId pc.threadId
    exact h.extend [_] (fun _ hid => hmap ▸ hid) rfl (hnew (hmap ▸ List.mem_map_of_mem hr))
  | reject r hr hs hu =>
    have hmap := map_rejectRequest db r.friendRequestId
    exact h.extend [_] (fun _ hid => hmap ▸ hid) rfl (hnew (hmap ▸ List.mem_map_of_mem hr))
  | storeText m pc hm hs hu => exact h.extend [_] (List.Subset.refl _) rfl hmessage
  | publish m hm hs pc hpc hu => exact h.extend [_] (List.Subset.refl _) rfl hmessage
  | _ => exact h

theorem Reachable.requestsReferenced {s : Sys} (h : Reachable s) : s.db.RequestsReferenced :=
  (Steps.changes h).invariant (fun _ _ => Db.RequestsReferenced.change)
    fun _ he => absurd he List.not_mem_nil

theorem friendRequest_isSome (h : db.RequestsReferenced) (he : e ∈ db.userEvents)
    (hnone : e.messageId = none) :
    ∃ r, db.friendRequest (e.friendRequestId.getD 0) = some r := by
  obtain ⟨id, hid, hreq⟩ := h e he hnone
  obtain ⟨r, hr, hrid⟩ := List.mem_map.mp hid
  refine Option.isSome_iff_exists.mp (List.find?_isSome.mpr ⟨r, hr, ?_⟩)
  simp [hreq, hrid]

/-! ### Reading the log back -/

theorem published_of_event (h : db.Consistent) (he : e ∈ db.userEvents)
    (hid : e.messageId = some id) :
    ∃ m ∈ db.chatMessages, m.messageId = id ∧ m.status = .published := by
  obtain ⟨m, hm, rfl⟩ := h.referenced e he id hid
  refine ⟨m, hm, rfl, ?_⟩
  obtain ⟨pc, -, hlog⟩ := h.logged m hm
  have habout : e ∈ db.eventsAbout m.messageId := List.mem_filter.mpr ⟨he, decide_eq_true hid⟩
  split at hlog
  · assumption
  · rw [hlog] at habout
    cases habout

theorem publishedMessage_eq (h : db.Consistent) (hm : m ∈ db.chatMessages)
    (hs : m.status = .published) (hpc : db.privateChat m.threadId = some pc) :
    db.publishedMessage m.messageId =
      some (readMessage m pc (db.messageResource m.messageId)) := by
  obtain ⟨n, hn⟩ : ∃ n, (db.chatMessages.find? fun n =>
      decide (n.messageId = m.messageId ∧ n.status = .published)) = some n := by
    refine Option.isSome_iff_exists.mp (List.find?_isSome.mpr ⟨m, hm, ?_⟩)
    simpa using hs
  have hid := List.find?_some hn
  obtain rfl : n = m := List.inj_on_of_nodup_map h.messageIds (List.mem_of_find?_eq_some hn) hm
    (of_decide_eq_true hid).1
  rw [Db.publishedMessage, hn, Option.bind_some, Db.projectMessage, hpc, Option.map_some]

theorem publishedMessage_isSome (h : db.Consistent) (hm : m ∈ db.chatMessages)
    (hs : m.status = .published) :
    ∃ c, db.publishedMessage m.messageId = some c := by
  obtain ⟨pc, hpc, -⟩ := h.logged m hm
  exact ⟨_, publishedMessage_eq h hm hs hpc.1⟩

/-- The loop of `GetEventsAfterSeq` finds every message, whatever has been
committed since the rows were read. -/
theorem readEvents_ne_missingMessage (hdb : db.Consistent) {views : Nat → Option Db}
    (hviews : ∀ k db', views (k + 1) = some db' → Changes db db' ∧ db'.Consistent)
    (rows : List UserEventRow) (hrows : ∀ e ∈ rows, e ∈ db.userEvents) (k : Nat)
    (events : List UserEvent) : readEvents views (k + 1) events rows ≠ .missingMessage := by
  induction rows generalizing k events with
  | nil => nofun
  | cons row rows ih =>
    have ih := ih fun e he => hrows e (List.mem_cons_of_mem _ he)
    unfold readEvents
    rcases hv : views (k + 1) with - | db'
    · nofun
    obtain ⟨hch, hcons⟩ := hviews k db' hv
    rcases hid : row.messageId with - | id <;> simp only
    · rcases db'.friendRequest (row.friendRequestId.getD 0) with - | r
      · nofun
      · exact ih _ _
    · obtain ⟨m, hm, rfl, hs⟩ := published_of_event hdb (hrows row List.mem_cons_self) hid
      have hm' := hch.keepsFinal hm (by rw [hs]; decide)
      obtain ⟨c, hc⟩ := publishedMessage_isSome hcons hm' hs
      rw [hc]
      exact ih _ _

/-- What an event row is read as. -/
def Db.eventOf (db : Db) (row : UserEventRow) : UserEvent :=
  match row.messageId with
  | some messageId =>
    { eventSeq := row.eventSeq, eventType := row.eventType
      message := (db.publishedMessage messageId).map fun m => { m with eventSeq := row.eventSeq } }
  | none =>
    { eventSeq := row.eventSeq, eventType := row.eventType
      friendRequest := (db.friendRequest (row.friendRequestId.getD 0)).map fun r =>
        { readFriendRequest r with eventSeq := row.eventSeq } }

/-- While nothing is committed, every row is read. -/
theorem readEvents_eq_events (hdb : db.Consistent) (hreq : db.RequestsReferenced)
    (rows : List UserEventRow) (hrows : ∀ e ∈ rows, e ∈ db.userEvents) (k : Nat)
    (events : List UserEvent) :
    readEvents (fun _ => some db) k events rows = .events (events ++ rows.map db.eventOf) := by
  induction rows generalizing k events with
  | nil => simp [readEvents]
  | cons row rows ih =>
    have ih := ih fun e he => hrows e (List.mem_cons_of_mem _ he)
    have hrow := hrows row List.mem_cons_self
    unfold readEvents
    rcases hid : row.messageId with - | id <;> simp only
    · obtain ⟨r, hr⟩ := friendRequest_isSome hreq hrow hid
      rw [hr]
      simp only
      rw [ih]
      simp [Db.eventOf, hid, hr]
    · obtain ⟨m, hm, rfl, hs⟩ := published_of_event hdb hrow hid
      obtain ⟨c, hc⟩ := publishedMessage_isSome hdb hm hs
      rw [hc]
      simp only
      rw [ih]
      simp [Db.eventOf, hid, hc]

theorem mem_userEvents_of_mem_rows {u : Int} {after limit : Nat}
    (he : e ∈ db.eventRowsAfter u after limit) : e ∈ db.userEvents :=
  (List.mem_filter.mp ((List.mem_insertionSort _).mp (List.mem_of_mem_take he))).1

/-- The events of a user behind a cursor, up to one more than `limit`. -/
def Db.eventsAfter (db : Db) (u : Int) (after limit : Nat) : List UserEvent :=
  (db.eventRowsAfter u after limit).map db.eventOf

/-- **The events of a reachable state**, read in one piece. -/
theorem getEventsAfterSeq_eq_events {s : Sys} (h : Reachable s) (u : Int) (after limit : Nat) :
    getEventsAfterSeq u after limit (fun _ => some s.db) =
      .events (s.db.eventsAfter u after limit) := by
  exact readEvents_eq_events h.consistent h.requestsReferenced _
    (fun e he => mem_userEvents_of_mem_rows he) 1 []

/-! ### The main result -/

/-- The database one statement after another sees while the system goes on
from `s`: first the state of `s`, then any states that follow it. -/
def ViewsFrom (s : Sys) (views : Nat → Option Db) : Prop :=
  views 0 = some s.db ∧ ∀ k db, views (k + 1) = some db → ∃ s', Steps s s' ∧ s'.db = db

/-- **Published means announced.**  In every reachable state a message is
published if and only if exactly one event refers to it; that event goes to
the member of the private chat who is not the sender and has the type of the
message.  A message that is published or failed stays as it is.  Hence
`GetEventsAfterSeq` never misses the message of an event. -/
theorem published_iff_one_event {s : Sys} (h : Reachable s) :
    (∀ m ∈ s.db.chatMessages,
      (m.status = .published ↔ (s.db.eventsAbout m.messageId).length = 1) ∧
        ∀ e ∈ s.db.eventsAbout m.messageId, ∃ pc, s.db.privateChat m.threadId = some pc ∧
          (m.senderUserId = pc.lowerUserId ∧ e.recipientUserId = pc.higherUserId ∨
            m.senderUserId = pc.higherUserId ∧ e.recipientUserId = pc.lowerUserId) ∧
          e.recipientUserId ≠ m.senderUserId ∧ e.eventType = m.messageType) ∧
      (∀ s', Steps s s' → ∀ m ∈ s.db.chatMessages, m.status ≠ .pending →
        ∀ m' ∈ s'.db.chatMessages, m'.messageId = m.messageId → m'.status = m.status) ∧
      ∀ recipient afterEventSeq limit views, ViewsFrom s views →
        getEventsAfterSeq recipient afterEventSeq limit views ≠ .missingMessage := by
  have hcons := h.consistent
  refine ⟨fun m hm => ?_, fun s' hsteps m hm hs m' hm' hid => ?_, fun u a n views hviews => ?_⟩
  · obtain ⟨pc, hpc, hlog⟩ := hcons.logged m hm
    have hother := other_ne_sender hcons.toKeyed hpc
    split at hlog
    · rename_i hs
      obtain ⟨e, he, hrec, htype⟩ := hlog
      rw [he]
      refine ⟨iff_of_true hs rfl, fun e' he' => ?_⟩
      obtain rfl := List.mem_singleton.mp he'
      refine ⟨pc, hpc.1, ?_, hrec ▸ hother, htype⟩
      rw [hrec, PrivateChatRow.other]
      rcases hpc.2 with hlo | hhi
      · rw [if_pos hlo.symm]
        exact .inl ⟨hlo, rfl⟩
      · rw [if_neg]
        · exact .inr ⟨hhi, rfl⟩
        · have := hcons.membersOrdered pc (List.mem_of_find?_eq_some hpc.1)
          omega
    · rename_i hs
      rw [hlog]
      exact ⟨iff_of_false hs (by decide), List.forall_mem_nil _⟩
  · -- the final message is still there, and ids are keys
    have hreach : Reachable s' := Relation.ReflTransGen.trans h hsteps
    have hmem := (Steps.changes hsteps).keepsFinal hm hs
    rw [List.inj_on_of_nodup_map hreach.consistent.messageIds hm' hmem hid]
  · unfold getEventsAfterSeq
    rw [hviews.1]
    refine readEvents_ne_missingMessage hcons (fun k db' hk => ?_) _ (fun e he => ?_) 0 []
    · obtain ⟨s', hsteps, rfl⟩ := hviews.2 k db' hk
      exact ⟨Steps.changes hsteps, Reachable.consistent (Relation.ReflTransGen.trans h hsteps)⟩
    · exact mem_userEvents_of_mem_rows he

/-- Two users, their private chat, and one text in it. -/
def textSent : Sys :=
  [.regUser "ann" "ann@mail", .regUser "bob" "bob@mail", .createPrivateChat 1 2,
    .addChatMsg .dealChatTextMsg 2
      { threadId := 1, senderUserId := 1, clientMessageId := "k1", textContent := "hi",
        createdAt := "2026-08-30 12:00:00" }].foldl Sys.serve {}

theorem published_iff_one_event_textSent :
    ∃ m ∈ textSent.db.chatMessages,
      m.status = .published ∧ (textSent.db.eventsAbout m.messageId).length = 1 := by
  have hreach : Reachable textSent := reachable_serve .refl _
  have hone : ∃ m ∈ textSent.db.chatMessages, m.status = .published := by decide
  obtain ⟨m, hm, hs⟩ := hone
  exact ⟨m, hm, hs, ((published_iff_one_event hreach).1 m hm).1.mp hs⟩

/-- **Catching up.**  Whatever is committed after a checkpoint was taken, the events
behind it are the rows added since, in their order: none is missing and none comes
again. -/
theorem events_since_checkpoint {s s' : Sys} (h : Reachable s) (hsteps : Steps s s') (u : Int) :
    ∃ since, s'.db.eventsOf u = s.db.eventsOf u ++ since ∧ ∀ limit,
      getEventsAfterSeq u (s.db.lastEventSeq u) limit (fun _ => some s'.db) =
        .events ((since.take (limit + 1)).map s'.db.eventOf) := by
  have hreach : Reachable s' := Relation.ReflTransGen.trans h hsteps
  obtain ⟨since, hsince⟩ := (Steps.changes hsteps).eventsOf u
  refine ⟨since, hsince.symm, fun limit => ?_⟩
  -- the numbers of the rows added go on behind the checkpoint
  have hseqs := hreach.numbered.2.eventSeqs u
  rw [Db.eventSeqs, ← hsince, List.map_append] at hseqs
  obtain ⟨k, -, hold, hnew⟩ := List.range'_eq_append_iff.mp hseqs.symm
  obtain rfl : s.db.lastEventSeq u = k := by
    rw [h.numbered.2.lastEventSeq, Db.journal, List.length_map]
    simpa using congrArg List.length hold
  have hrows : (s'.db.userEvents.filter fun e =>
      e.recipientUserId = u ∧ s.db.lastEventSeq u < e.eventSeq) = since := by
    simp only [Bool.decide_and, Bool.and_comm (decide (_ = u)), ← List.filter_filter]
    rw [← Db.eventsOf, ← hsince, List.filter_append, List.filter_eq_nil_iff.mpr,
      List.filter_eq_self.mpr, List.nil_append]
    all_goals
      intro e he
      have := List.mem_map_of_mem (f := (·.eventSeq)) he
      simp only [hold, hnew, List.mem_range'_1, decide_eq_true_eq] at this ⊢
      omega
  have hsorted : since.Pairwise fun e f => e.eventSeq ≤ f.eventSeq :=
    List.pairwise_map.mp (hnew ▸ List.pairwise_le_range')
  rw [getEventsAfterSeq_eq_events hreach, Db.eventsAfter, Db.eventRowsAfter, hrows,
    hsorted.insertionSort_eq]

theorem events_since_checkpoint_textSent :
    getEventsAfterSeq 2 0 9 (fun _ => some textSent.db) =
      .events (((textSent.db.eventsOf 2).take 10).map textSent.db.eventOf) := by
  have hreach : Reachable textSent := reachable_serve .refl _
  obtain ⟨since, hall, hget⟩ := events_since_checkpoint .refl hreach 2
  rw [hall]
  exact hget 9

end LlfcChat

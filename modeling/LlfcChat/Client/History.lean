/-
A page of history and the client's own pending messages.

A message the user has sent is in the table under the client's id before the server
has answered, and without the server's id.  A page of history that brings the same
message with both ids is stopped by the UNIQUE client id, and the row in the way is
then looked up by the server's id, which it does not have yet: the whole page is
rolled back.  After the confirmation the row has both ids and the page goes in.

`history_page_iff` is the exact account: of the two orders of `confirmTextSent` and
`insertHistoryPage` only the first succeeds, and only if no other own message of the
page still waits for its confirmation.
-/
import LlfcChat.Client.LocalInvariant

namespace LlfcChat.LocalDb

/-! ### The situation -/

/-- A page of history: messages of the thread with complete resources, as TcpMgr lets
them pass.  The server's id and the client's id of a message belong together. -/
structure ValidPage (threadId : Int) (page : List (LocalMessageDTO × LocalMessageResourceDTO)) :
    Prop where
  ids : ∀ x ∈ page, 0 < x.1.messageId ∧ x.1.threadId = threadId ∧ 0 < x.1.senderUserId
  types : ∀ x ∈ page, KnownType x.1.messageType ∧ (x.1.messageType ≠ 0 → x.2.Complete)
  clients : ∀ x ∈ page, ∀ y ∈ page, x.1.clientMessageId ≠ "" →
    x.1.clientMessageId = y.1.clientMessageId → x.1.messageId = y.1.messageId
  same : ∀ x ∈ page, ∀ y ∈ page, x.1.messageId = y.1.messageId →
    x.1.clientMessageId = y.1.clientMessageId

/-- The text `k` was stored by `enqueueSend` and waits for its confirmation; the server
has stored it as message `m`, and no other row has that id. -/
structure Pending (db : LocalDb) (k : String) (m : Int) : Prop where
  unique : (db.messages.filterMap (·.clientMessageId)).Nodup
  stored : ∃ r ∈ db.messages, r.clientMessageId = some k ∧ r.messageType = 0 ∧ r.messageId = none
  fresh : ∀ r ∈ db.messages, r.messageId ≠ some m
  named : k ≠ ""
  positive : 0 < m

/-- The rows of own messages agree with the server: a row with the client id of a
message of the page has the server id of that message or none yet, and a row with its
server id has its client id. -/
structure Agrees (db : LocalDb) (page : List (LocalMessageDTO × LocalMessageResourceDTO)) :
    Prop where
  clients : ∀ x ∈ page, x.1.clientMessageId ≠ "" → ∀ r ∈ db.messages,
    r.clientMessageId = some x.1.clientMessageId →
      r.messageId = none ∨ r.messageId = some x.1.messageId
  servers : ∀ x ∈ page, x.1.clientMessageId ≠ "" → ∀ r ∈ db.messages,
    r.messageId = some x.1.messageId → r.clientMessageId = some x.1.clientMessageId

/-- The message waits for its confirmation. -/
def Waits (db : LocalDb) (message : LocalMessageDTO) : Prop :=
  message.clientMessageId ≠ "" ∧
    ∃ r ∈ db.messages, r.clientMessageId = some message.clientMessageId ∧ r.messageId = none

/-- A row for the client id `k` or the server id `m`. -/
def mentions (k : String) (m : Int) (r : MessageRow) : Bool :=
  r.clientMessageId = some k || r.messageId = some m

variable {db db' : LocalDb} {k : String} {m threadId : Int}
  {message : LocalMessageDTO} {resource : LocalMessageResourceDTO}
  {page : List (LocalMessageDTO × LocalMessageResourceDTO)}

/-! ### One message of the page -/

theorem any_clashes_iff : db.messages.any (clashes message) = true ↔
    ∃ r ∈ db.messages, r.messageId = some message.messageId ∨
      (message.clientMessageId ≠ "" ∧ r.clientMessageId = some message.clientMessageId) := by
  simp [List.any_eq_true, clashes]

/-- Inserting a message only adds a row, and only if it clashes with none. -/
theorem insertOrIgnore_cases (message : LocalMessageDTO) (db : LocalDb) :
    (db.messages.any (clashes message) = true ∧ db.insertOrIgnore message = (none, db)) ∨
      (db.messages.any (clashes message) = false ∧ ∃ row db',
        db.insertOrIgnore message = (some db.nextLocalMessageId, db') ∧
        db'.messages = db.messages ++ [row] ∧ db'.conversations = db.conversations ∧
        row.messageId = some message.messageId ∧
        row.clientMessageId = nullableText message.clientMessageId) := by
  unfold insertOrIgnore
  cases h : db.messages.any (clashes message) with
  | true => exact .inl ⟨rfl, if_pos rfl⟩
  | false => exact .inr ⟨rfl, _, _, if_neg (by simp), rfl, rfl, rfl, rfl⟩

theorem upsertResource_messages (localId : Int) (resource : LocalMessageResourceDTO)
    (db : LocalDb) : (db.upsertResource localId resource).messages = db.messages ∧
      (db.upsertResource localId resource).conversations = db.conversations := by
  unfold upsertResource
  dsimp only
  split_ifs <;> exact ⟨rfl, rfl⟩

/-- A message passes the checks of `insertMessageIgnore`. -/
structure ValidMessage (message : LocalMessageDTO) (resource : LocalMessageResourceDTO) : Prop where
  messageId : 0 < message.messageId
  threadId : 0 < message.threadId
  sender : 0 < message.senderUserId
  type : KnownType message.messageType
  resource : message.messageType ≠ 0 → resource.Complete

/-- What an accepted message does to the tables: nothing, or one new row. -/
structure Inserted (message : LocalMessageDTO) (db db' : LocalDb) : Prop where
  conversations : db'.conversations = db.conversations
  present : ∃ r ∈ db'.messages, r.messageId = some message.messageId
  rows : db'.messages = db.messages ∨ ∃ row, db'.messages = db.messages ++ [row] ∧
    row.messageId = some message.messageId ∧
    row.clientMessageId = nullableText message.clientMessageId ∧
    db.messages.any (clashes message) = false

/-- **One message** goes in, unless a row with its client id is in the way and no row
has its server id. -/
theorem insertMessageIgnore_spec (db : LocalDb) (hv : ValidMessage message resource) :
    (∃ b db', db.insertMessageIgnore message resource = some (b, db') ∧ Inserted message db db') ∨
      (db.insertMessageIgnore message resource = none ∧
        db.messages.any (clashes message) = true ∧
        ∀ r ∈ db.messages, r.messageId ≠ some message.messageId) := by
  have hchecks : ¬(message.messageId ≤ 0 ∨ message.threadId ≤ 0 ∨ message.senderUserId ≤ 0 ∨
      ¬KnownType message.messageType) := by
    have h₁ := hv.messageId
    have h₂ := hv.threadId
    have h₃ := hv.sender
    have h₄ := hv.type
    rintro (h | h | h | h)
    · omega
    · omega
    · omega
    · exact h h₄
  -- behind the lookup only the resource is missing
  have hrest : ∀ {newId : Option Int} {db₁ : LocalDb} {localId : Int},
      db.insertOrIgnore message = (newId, db₁) →
      newId.or ((db₁.messages.find? (·.messageId = some message.messageId)).map
        (·.localMessageId)) = some localId → Inserted message db db₁ →
      ∃ b db', db.insertMessageIgnore message resource = some (b, db') ∧
        Inserted message db db' := by
    intro newId db₁ localId e hfound hin
    unfold insertMessageIgnore
    rw [if_neg hchecks, e]
    dsimp only
    rw [hfound]
    by_cases ht : message.messageType = 0
    · exact ⟨_, db₁, if_pos ht, hin⟩
    · obtain ⟨hm, hc⟩ := upsertResource_messages localId resource db₁
      refine ⟨newId.isSome, db₁.upsertResource localId resource, ?_, ?_⟩
      · dsimp only
        rw [if_neg ht, if_neg (not_not.mpr (hv.resource ht))]
      · exact ⟨hc.trans hin.conversations, by rw [hm]; exact hin.present,
          by rw [hm]; exact hin.rows⟩
  rcases insertOrIgnore_cases message db
    with ⟨hclash, e⟩ | ⟨hclash, row, db₁, e, hrows, hconv, hid, hk⟩
  · cases hfind : db.messages.find? (·.messageId = some message.messageId) with
    | some r =>
      have hmem := List.mem_of_find?_eq_some hfind
      have hr : r.messageId = some message.messageId := by
        simpa using List.find?_some hfind
      refine .inl (hrest e (by rw [hfind]; rfl) ⟨rfl, ⟨r, hmem, hr⟩, .inl rfl⟩)
    | none =>
      refine .inr ⟨?_, hclash, fun r hr he => ?_⟩
      · unfold insertMessageIgnore
        rw [if_neg hchecks, e]
        dsimp only
        rw [hfind]
        rfl
      · exact absurd he (by simpa using List.find?_eq_none.mp hfind r hr)
  · refine .inl (hrest e rfl ⟨hconv, ?_, .inr ⟨row, hrows, hid, hk, hclash⟩⟩)
    exact ⟨row, by rw [hrows]; exact List.mem_append_right _ (List.mem_singleton_self _), hid⟩

/-! ### The whole page -/

/-- No message of the page waits, so that a row with its client id has its server id. -/
def Settled (db : LocalDb) (page : List (LocalMessageDTO × LocalMessageResourceDTO)) : Prop :=
  ∀ x ∈ page, x.1.clientMessageId ≠ "" → ∀ r ∈ db.messages,
    r.clientMessageId = some x.1.clientMessageId → r.messageId = some x.1.messageId

variable {x : LocalMessageDTO × LocalMessageResourceDTO}

theorem ValidPage.valid (hv : ValidPage threadId page) (hthread : 0 < threadId) (hx : x ∈ page) :
    ValidMessage x.1 x.2 := by
  obtain ⟨hid, ht, hs⟩ := hv.ids x hx
  obtain ⟨htype, hresource⟩ := hv.types x hx
  exact ⟨hid, ht ▸ hthread, hs, htype, hresource⟩

theorem ValidPage.tail (hv : ValidPage threadId (x :: page)) : ValidPage threadId page :=
  ⟨fun y hy => hv.ids y (List.mem_cons_of_mem _ hy),
    fun y hy => hv.types y (List.mem_cons_of_mem _ hy),
    fun y hy z hz => hv.clients y (List.mem_cons_of_mem _ hy) z (List.mem_cons_of_mem _ hz),
    fun y hy z hz => hv.same y (List.mem_cons_of_mem _ hy) z (List.mem_cons_of_mem _ hz)⟩

/-- A new row does not unsettle the rest of the page. -/
theorem Settled.insert (h : Settled db (x :: page)) (hv : ValidPage threadId (x :: page))
    (hin : Inserted x.1 db db') : Settled db' page := by
  intro y hy hne r hr hk
  have hold := h y (List.mem_cons_of_mem _ hy) hne
  rcases hin.rows with he | ⟨row, he, hid, hclient, -⟩
  · exact hold r (he ▸ hr) hk
  · rw [he] at hr
    rcases List.mem_append.mp hr with hr | hr
    · exact hold r hr hk
    · obtain rfl := List.mem_singleton.mp hr
      rw [hclient, nullableText] at hk
      split_ifs at hk with hempty
      have heq := Option.some.inj hk
      rw [hid, hv.clients x (List.mem_cons_self ..) y (List.mem_cons_of_mem _ hy) hempty heq]

/-- The rows behind a page: the old ones, and new ones that mention neither `k` nor `m`
if the old ones did. -/
structure PageInserted (page : List (LocalMessageDTO × LocalMessageResourceDTO)) (k : String)
    (m : Int) (db db' : LocalDb) : Prop where
  conversations : db'.conversations = db.conversations
  present : ∀ x ∈ page, ∃ r ∈ db'.messages, r.messageId = some x.1.messageId
  kept : ∀ r ∈ db.messages, r ∈ db'.messages
  mentions : (∃ r ∈ db.messages, r.clientMessageId = some k ∧ r.messageId = some m) →
    db'.messages.filter (mentions k m) = db.messages.filter (mentions k m)

/-- One message does not add to the rows of `(k, m)` once there is such a row. -/
theorem Inserted.filter_mentions (hin : Inserted message db db')
    (h : ∃ r ∈ db.messages, r.clientMessageId = some k ∧ r.messageId = some m) :
    db'.messages.filter (LocalDb.mentions k m) = db.messages.filter (LocalDb.mentions k m) := by
  obtain ⟨r, hr, hrk, hrm⟩ := h
  rcases hin.rows with he | ⟨row, he, hid, hclient, hclash⟩
  · rw [he]
  · have hno := mt any_clashes_iff.mpr (Bool.eq_false_iff.mp hclash)
    have hrow : LocalDb.mentions k m row = false := by
      unfold LocalDb.mentions
      rw [hid, hclient, nullableText]
      simp only [Bool.or_eq_false_iff, decide_eq_false_iff_not, Option.some.injEq]
      constructor
      · split_ifs with hempty
        · exact nofun
        · intro e
          exact hno ⟨r, hr, .inr ⟨hempty, hrk.trans e.symm⟩⟩
      · rintro rfl
        exact hno ⟨r, hr, .inl hrm⟩
    rw [he, List.filter_append, List.filter_cons_of_neg (by simp [hrow]), List.filter_nil,
      List.append_nil]

theorem Inserted.kept (hin : Inserted message db db') {r : MessageRow} (hr : r ∈ db.messages) :
    r ∈ db'.messages := by
  rcases hin.rows with he | ⟨row, he, -⟩
  · exact he ▸ hr
  · rw [he]
    exact List.mem_append_left _ hr

/-- **A settled page goes in.** -/
theorem insertPageLoop_settled (hv : ValidPage threadId page) (hthread : 0 < threadId)
    (hsettled : Settled db page) (oldest : Int) :
    ∃ o db', insertPageLoop threadId page oldest db = some (o, db') ∧
      PageInserted page k m db db' := by
  induction page generalizing db oldest with
  | nil => exact ⟨oldest, db, rfl, ⟨rfl, by simp, fun r hr => hr, fun _ => rfl⟩⟩
  | cons x page ih =>
    obtain ⟨message, resource⟩ := x
    have hx := List.mem_cons_self (a := (message, resource)) (l := page)
    rcases insertMessageIgnore_spec db (hv.valid hthread hx) with
      ⟨b, db₁, e, hin⟩ | ⟨-, hclash, hnone⟩
    · obtain ⟨o, db', e', hpage⟩ := ih hv.tail (hsettled.insert hv hin)
        (if oldest = 0 ∨ message.messageId < oldest then message.messageId else oldest)
      refine ⟨o, db', ?_, ⟨hpage.conversations.trans hin.conversations, ?_, ?_, ?_⟩⟩
      · unfold insertPageLoop
        rw [if_neg (not_not.mpr (hv.ids _ hx).2.1), e]
        exact e'
      · intro y hy
        rcases List.mem_cons.mp hy with rfl | hy
        · obtain ⟨r, hr, hid⟩ := hin.present
          exact ⟨r, hpage.kept r hr, hid⟩
        · exact hpage.present y hy
      · exact fun r hr => hpage.kept r (hin.kept hr)
      · rintro ⟨r, hr, hrk⟩
        rw [hpage.mentions ⟨r, hin.kept hr, hrk⟩, hin.filter_mentions ⟨r, hr, hrk⟩]
    · -- a row in the way has the client id, and then the server id too
      obtain ⟨r, hr, hid | ⟨hne, hclient⟩⟩ := any_clashes_iff.mp hclash
      · exact absurd hid (hnone r hr)
      · exact absurd (hsettled _ hx hne r hr hclient) (hnone r hr)

/-- **A message that waits stops the page.** -/
theorem insertPageLoop_waits (hv : ValidPage threadId page) (hthread : 0 < threadId) (hx : x ∈ page)
    (hwaits : Waits db x.1) (hfresh : ∀ r ∈ db.messages, r.messageId ≠ some x.1.messageId)
    (oldest : Int) :
    insertPageLoop threadId page oldest db = none := by
  induction page generalizing db oldest with
  | nil => cases hx
  | cons y page ih =>
    obtain ⟨message, resource⟩ := y
    have hy := List.mem_cons_self (a := (message, resource)) (l := page)
    unfold insertPageLoop
    rw [if_neg (not_not.mpr (hv.ids _ hy).2.1)]
    obtain ⟨hne, r, hr, hclient, hnull⟩ := hwaits
    rcases insertMessageIgnore_spec db (hv.valid hthread hy) with
      ⟨b, db₁, e, hin⟩ | ⟨e, -, -⟩
    · rw [e]
      dsimp only
      -- the message itself cannot have gone in: its client id is taken
      have hother : ∀ row, row.messageId = some message.messageId →
          db₁.messages = db.messages ++ [row] → db.messages.any (clashes message) = false →
          message.messageId ≠ x.1.messageId := by
        intro row _ _ hclash he
        have hno := mt any_clashes_iff.mpr (Bool.eq_false_iff.mp hclash)
        have hsame : message.clientMessageId = x.1.clientMessageId := hv.same _ hy x hx he
        exact hno ⟨r, hr, .inr ⟨hsame ▸ hne, hsame ▸ hclient⟩⟩
      rcases List.mem_cons.mp hx with rfl | hx'
      · exfalso
        obtain ⟨r', hr', hid⟩ := hin.present
        rcases hin.rows with he | ⟨row, he, hrow, -, hclash⟩
        · exact hfresh r' (he ▸ hr') hid
        · exact hother row hrow he hclash rfl
      · refine ih hv.tail hx' ⟨hne, r, hin.kept hr, hclient, hnull⟩ ?_ _
        intro r' hr' hid
        rcases hin.rows with he | ⟨row, he, hrow, -, hclash⟩
        · exact hfresh r' (he ▸ hr') hid
        · rw [he] at hr'
          rcases List.mem_append.mp hr' with hr' | hr'
          · exact hfresh r' hr' hid
          · obtain rfl := List.mem_singleton.mp hr'
            exact hother r' hrow he hclash (Option.some.inj (hrow.symm.trans hid))
    · rw [e]

/-! ### Confirmation -/

/-- Under UNIQUE client ids one row has the id `k`. -/
theorem filter_clientMessageId (h : (db.messages.filterMap (·.clientMessageId)).Nodup)
    {r : MessageRow} (hr : r ∈ db.messages) (hk : r.clientMessageId = some k) :
    db.messages.filter (·.clientMessageId = some k) = [r] := by
  generalize db.messages = rows at h hr
  induction rows with
  | nil => cases hr
  | cons a rows ih =>
    have hrows : (rows.filterMap (·.clientMessageId)).Nodup := by
      cases ha : a.clientMessageId with
      | none => rwa [List.filterMap_cons_none ha] at h
      | some c =>
        rw [List.filterMap_cons_some ha] at h
        exact h.of_cons
    by_cases hak : a.clientMessageId = some k
    · have hnot : ∀ b ∈ rows, b.clientMessageId ≠ some k := by
        rw [List.filterMap_cons_some hak] at h
        intro b hb hbk
        exact (List.nodup_cons.mp h).1 (List.mem_filterMap.mpr ⟨b, hb, hbk⟩)
      have hnil : rows.filter (·.clientMessageId = some k) = [] :=
        List.filter_eq_nil_iff.mpr fun b hb => by simpa using hnot b hb
      rcases List.mem_cons.mp hr with rfl | hr
      · rw [List.filter_cons_of_pos (by simpa using hak), hnil]
      · exact absurd hk (hnot r hr)
    · rcases List.mem_cons.mp hr with rfl | hr
      · exact absurd hk hak
      · rw [List.filter_cons_of_neg (by simpa using hak), ih hrows hr]

/-- The row of `k` after its confirmation. -/
def confirmedRow (now m createdAt : Int) (r : MessageRow) : MessageRow :=
  { r with
    messageId := some m
    sendStatus := .sent
    createdAt := if 0 < createdAt then createdAt else now }

/-- What the confirmation does: the row of `k` gets the id `m`, and it is the only row
that mentions one of them. -/
structure Confirmed (k : String) (m : Int) (db db' : LocalDb) : Prop where
  conversations : db'.conversations = db.conversations
  row : ∃ r, db'.messages.filter (mentions k m) = [r] ∧ r.clientMessageId = some k ∧
    r.messageId = some m ∧ r.sendStatus = .sent
  others : ∀ r ∈ db'.messages, r.clientMessageId ≠ some k → r ∈ db.messages
  back : ∀ r ∈ db.messages, r.clientMessageId ≠ some k → r ∈ db'.messages

theorem confirmTextSent_spec (h : Pending db k m) (now createdAt : Int) :
    ∃ db', db.confirmTextSent now k m createdAt = some db' ∧ Confirmed k m db db' := by
  obtain ⟨r, hr, hk, htype, hnull⟩ := h.stored
  obtain ⟨p, hp⟩ : ∃ p : MessageRow → Bool, p = fun r =>
    r.clientMessageId = some k && r.messageType = 0 := ⟨_, rfl⟩
  have hfilter := filter_clientMessageId h.unique hr hk
  -- `k` is a text, so the condition on the type changes nothing
  have hpk : ∀ a ∈ db.messages, p a = decide (a.clientMessageId = some k) := by
    intro a ha
    by_cases hak : a.clientMessageId = some k
    · have har : a ∈ db.messages.filter (·.clientMessageId = some k) :=
        List.mem_filter.mpr ⟨ha, by simpa using hak⟩
      rw [hfilter, List.mem_singleton] at har
      subst har
      simp [hp, hak, htype]
    · simp [hp, hak]
  have hcount : db.messages.countP p = 1 := by
    rw [List.countP_eq_length_filter, List.filter_congr hpk, hfilter]
    rfl
  have hno : ¬((some m).isSome = true ∧
      db.messages.any (fun a => !p a && a.messageId = some m) = true) := by
    rintro ⟨-, hany⟩
    obtain ⟨a, ha, hpa⟩ := List.any_eq_true.mp hany
    simp only [Bool.and_eq_true, decide_eq_true_eq] at hpa
    exact h.fresh a ha hpa.2
  have hpos : ∀ a, p a = true → Table.updated (p · = true) (confirmedRow now m createdAt) a =
    confirmedRow now m createdAt a := fun a ha => if_pos ha
  have hneg : ∀ a, ¬p a = true → Table.updated (p · = true) (confirmedRow now m createdAt) a = a :=
    fun a ha => if_neg ha
  have hupdate : db.confirmTextSent now k m createdAt = some (deleteOutbox k
      { db with
        messages := Table.update (p · = true) (confirmedRow now m createdAt) db.messages }) := by
    unfold confirmTextSent updateMessage
    rw [if_neg (Int.not_le.mpr h.positive), ← hp, if_neg (not_not.mpr hcount), if_neg hno]
    rfl
  refine ⟨_, hupdate, ⟨rfl, ?_, ?_, ?_⟩⟩
  · refine ⟨confirmedRow now m createdAt r, ?_, hk, rfl, rfl⟩
    show (Table.update (p · = true) (confirmedRow now m createdAt) db.messages).filter
      (mentions k m) = _
    rw [Table.update_eq_map, List.filter_map]
    have hsame : ∀ a ∈ db.messages,
        (mentions k m ∘ Table.updated (p · = true) (confirmedRow now m createdAt)) a =
          decide (a.clientMessageId = some k) := by
      intro a ha
      by_cases hak : a.clientMessageId = some k
      · have hpa : p a = true := by rw [hpk a ha]; simpa using hak
        simp [Function.comp, hpos a hpa, mentions, confirmedRow, hak]
      · have hpa : ¬p a = true := by rw [hpk a ha]; simpa using hak
        simp [Function.comp, hneg a hpa, mentions, hak, h.fresh a ha]
    rw [List.filter_congr hsame, hfilter]
    have hpr : p r = true := by rw [hpk r hr]; simpa using hk
    simp [hpos r hpr]
  · intro a ha hak
    obtain ⟨b, hb, rfl⟩ := Table.mem_update.mp ha
    by_cases hpb : p b = true
    · rw [hpos b hpb] at hak
      have hbk := hpk b hb
      rw [hpb] at hbk
      exact absurd (of_decide_eq_true hbk.symm) hak
    · rw [hneg b hpb]
      exact hb
  · intro a ha hak
    refine Table.mem_update.mpr ⟨a, ha, hneg a ?_⟩
    rw [hpk a ha]
    simpa using hak

/-! ### Both orders -/

/-- The two calls, in either order. -/
inductive Order
  | confirmFirst
  | historyFirst
  deriving DecidableEq

/-- Both calls one after the other: whether each succeeded, and the tables in the end.
A call that fails leaves them as they were. -/
def bothCalls (order : Order) (confirm history : LocalDb → Option LocalDb) (db : LocalDb) :
    Bool × Bool × LocalDb :=
  match order with
  | .confirmFirst =>
    let db₁ := (confirm db).getD db
    ((confirm db).isSome, (history db₁).isSome, (history db₁).getD db₁)
  | .historyFirst =>
    let db₁ := (history db).getD db
    ((confirm db₁).isSome, (history db).isSome, (confirm db₁).getD db₁)

/-- Both calls succeeded, one row is left for `(k, m)`, it is Sent, and every message of
the page is in the table. -/
def Merged (k : String) (m : Int) (page : List (LocalMessageDTO × LocalMessageResourceDTO))
    (out : Bool × Bool × LocalDb) : Prop :=
  out.1 = true ∧ out.2.1 = true ∧
    (∃ r, out.2.2.messages.filter (mentions k m) = [r] ∧ r.clientMessageId = some k ∧
      r.messageId = some m ∧ r.sendStatus = .sent) ∧
    ∀ x ∈ page, ∃ r ∈ out.2.2.messages, r.messageId = some x.1.messageId

theorem insertHistoryPage_of_loop {messages : List LocalMessageDTO}
    {resources : List LocalMessageResourceDTO} (hlen : messages.length = resources.length)
    {o : Int} (hloop : insertPageLoop threadId (messages.zip resources) 0 db = some (o, db'))
    (hconv : db'.conversations.countP (·.threadId = threadId) = 1) (complete : Bool) :
    ∃ db'', db.insertHistoryPage threadId messages resources complete = some db'' ∧
      db''.messages = db'.messages := by
  unfold insertHistoryPage
  rw [if_neg (not_not.mpr hlen), hloop]
  dsimp only
  rw [if_neg (not_not.mpr hconv)]
  exact ⟨_, rfl, rfl⟩

theorem insertHistoryPage_none {messages : List LocalMessageDTO}
    {resources : List LocalMessageResourceDTO} {complete : Bool}
    (hloop : insertPageLoop threadId (messages.zip resources) 0 db = none) :
    db.insertHistoryPage threadId messages resources complete = none := by
  unfold insertHistoryPage
  split_ifs
  · rfl
  · rw [hloop]

/-- **History and own messages.**  For a text `k` that waits for its confirmation as
message `m`, a valid page of its thread that brings `m` with `k`, and a conversation row:
both calls succeed and leave one Sent row for `(k, m)` and all messages of the page if
and only if the confirmation comes first and no other message of the page waits. -/
theorem history_page_iff {messages : List LocalMessageDTO}
    {resources : List LocalMessageResourceDTO} (order : Order) (now createdAt : Int)
    (complete : Bool) (hpending : Pending db k m) (hlen : messages.length = resources.length)
    (hv : ValidPage threadId (messages.zip resources)) (hthread : 0 < threadId)
    (hagrees : Agrees db (messages.zip resources))
    (hown : ∃ x ∈ messages.zip resources, x.1.messageId = m ∧ x.1.clientMessageId = k)
    (hconv : db.conversations.countP (·.threadId = threadId) = 1) :
    Merged k m (messages.zip resources)
        (bothCalls order (confirmTextSent now k m createdAt)
          (insertHistoryPage threadId messages resources complete) db) ↔
      order = .confirmFirst ∧
        ∀ x ∈ messages.zip resources, x.1.clientMessageId ≠ k → ¬Waits db x.1 := by
  obtain ⟨db₁, hconfirm, hconfirmed⟩ := confirmTextSent_spec hpending now createdAt
  cases order with
  | historyFirst =>
    refine iff_of_false ?_ (by simp)
    -- `k` itself waits, so the page is rolled back
    obtain ⟨x, hx, hid, hclient⟩ := hown
    obtain ⟨r, hr, hk, -, hnull⟩ := hpending.stored
    have hwaits : Waits db x.1 := ⟨hclient ▸ hpending.named, r, hr, hclient ▸ hk, hnull⟩
    have hloop := insertPageLoop_waits hv hthread hx hwaits (hid ▸ hpending.fresh) 0
    rintro ⟨-, hhistory, -⟩
    simp [bothCalls, insertHistoryPage_none hloop] at hhistory
  | confirmFirst =>
    simp only [bothCalls, hconfirm, Option.getD_some, Option.isSome_some, true_and]
    constructor
    · rintro ⟨-, hhistory, -⟩ x hx hne hwaits
      obtain ⟨hnamed, r, hr, hclient, hnull⟩ := hwaits
      have hr₁ : r ∈ db₁.messages := by
        refine hconfirmed.back r hr fun hk => hne ?_
        exact Option.some.inj (hclient.symm.trans hk)
      -- a row with the server id of `x` would be its row, which has none
      have hfresh : ∀ r' ∈ db₁.messages, r'.messageId ≠ some x.1.messageId := by
        intro r' hr' hid
        by_cases hk : r'.clientMessageId = some k
        · obtain ⟨r₁, hfilter, -, hm, -⟩ := hconfirmed.row
          have hmem : r' ∈ db₁.messages.filter (mentions k m) :=
            List.mem_filter.mpr ⟨hr', by simp [mentions, hk]⟩
          rw [hfilter, List.mem_singleton] at hmem
          obtain ⟨y, hy, hyid, hyk⟩ := hown
          rw [hmem, hm, ← hyid, Option.some.injEq] at hid
          exact hne ((hv.same x hx y hy hid.symm).trans hyk)
        · have hr₀ := hconfirmed.others r' hr' hk
          have hclient' := hagrees.servers x hx hnamed r' hr₀ hid
          have heq : [r'] = [r] := (filter_clientMessageId hpending.unique hr₀ hclient').symm.trans
            (filter_clientMessageId hpending.unique hr hclient)
          rw [List.singleton_inj.mp heq, hnull] at hid
          cases hid
      have hloop := insertPageLoop_waits hv hthread hx ⟨hnamed, r, hr₁, hclient, hnull⟩ hfresh 0
      rw [insertHistoryPage_none hloop] at hhistory
      cases hhistory
    · intro hothers
      have hsettled : Settled db₁ (messages.zip resources) := by
        intro x hx hne r hr hclient
        by_cases hk : x.1.clientMessageId = k
        · obtain ⟨r', hfilter, -, hm, -⟩ := hconfirmed.row
          have hmem : r ∈ db₁.messages.filter (mentions k m) :=
            List.mem_filter.mpr ⟨hr, by simp [mentions, hclient, hk]⟩
          rw [hfilter, List.mem_singleton] at hmem
          obtain ⟨y, hy, hyid, hyk⟩ := hown
          have hid := hv.clients x hx y hy hne (hk.trans hyk.symm)
          rw [hmem, hm, hid, hyid]
        · have hr₀ := hconfirmed.others r hr fun h => hk (Option.some.inj (hclient.symm.trans h))
          rcases hagrees.clients x hx hne r hr₀ hclient with hnull | hid
          · exact absurd ⟨hne, r, hr₀, hclient, hnull⟩ (hothers x hx hk)
          · exact hid
      obtain ⟨o, db₂, hloop, hpage⟩ :=
        insertPageLoop_settled (k := k) (m := m) hv hthread hsettled 0
      have hconv₂ : db₂.conversations.countP (·.threadId = threadId) = 1 := by
        rw [hpage.conversations, hconfirmed.conversations]
        exact hconv
      obtain ⟨db₃, hhistory, hmessages⟩ :=
        insertHistoryPage_of_loop hlen hloop hconv₂ complete
      rw [hhistory]
      obtain ⟨r, hfilter, hk, hm, hsent⟩ := hconfirmed.row
      refine ⟨rfl, rfl, ⟨r, ?_, hk, hm, hsent⟩, ?_⟩
      · rw [Option.getD_some, hmessages, ← hfilter]
        refine hpage.mentions ⟨r, ?_, hk, hm⟩
        exact (List.mem_filter.mp (hfilter ▸ List.mem_singleton_self r)).1
      · intro x hx
        rw [Option.getD_some, hmessages]
        exact hpage.present x hx

/-! ### The methods on the connection -/

section Methods

open LocalStore Sqlite

variable {c : Conn Store} {message : LocalMessageDTO} {resource : LocalMessageResourceDTO}
  {outbox entry : OutboxEntryDTO} {now createdAt : Int}

/-- `enqueueSend` brings the situation about: a text that it has stored waits for its
confirmation. -/
theorem pending_enqueueSend
    (h : (LocalStore.enqueueSend now message resource outbox c).1 = some entry)
    (htext : message.messageType = 0)
    (hunique : (c.committed.db.messages.filterMap (·.clientMessageId)).Nodup)
    (hfresh : ∀ r ∈ c.committed.db.messages, r.messageId ≠ some m) (hm : 0 < m) :
    Pending (LocalStore.enqueueSend now message resource outbox c).2.committed.db
      message.clientMessageId m := by
  refine of_check_transaction (Q := fun _ w => Pending w.db message.clientMessageId m)
    (fun hok => ?_) h
  refine Holds.bind (holds_onDb fun localId db₁ h₁ => ?_)
  rw [if_neg (by rw [htext]; decide)]
  refine holds_onDb fun e db₂ h₂ => ?_
  obtain ⟨hfree, r, -, hid, hclient, htype, -, -, hmessages, -⟩ := insertMessage_some h₁
  obtain ⟨-, -, -, hsame, -⟩ := insertOutbox_some h₂
  have hrows : db₂.messages = c.committed.db.messages ++ [r] := hsame.trans hmessages
  refine ⟨?_, ⟨r, ?_, hclient, htype.trans htext, hid⟩, ?_, fun he => hok (.inl he), hm⟩
  · show (db₂.messages.filterMap (·.clientMessageId)).Nodup
    rw [hrows, List.filterMap_append, List.nodup_append]
    refine ⟨hunique, by simp [hclient], ?_⟩
    rintro k hk k' hk' rfl
    obtain ⟨r', hr', hk⟩ := List.mem_filterMap.mp hk
    rw [List.filterMap_cons_some hclient, List.filterMap_nil, List.mem_singleton] at hk'
    exact hfree r' hr' (hk' ▸ hk)
  · exact hrows ▸ List.mem_append_right _ (List.mem_singleton_self r)
  · intro r' hr'
    rcases List.mem_append.mp (hrows ▸ hr') with hr' | hr'
    · exact hfresh r' hr'
    · rw [List.mem_singleton.mp hr', hid]
      exact nofun

/-- `confirmTextSent` commits what the function of `LocalDb` computes. -/
theorem confirmTextSent_committed {out : Bool} {a : Option MessageRow}
    (h : (LocalStore.confirmTextSent now k m createdAt out c).1 = some a) :
    confirmTextSent now k m createdAt c.committed.db =
      some (LocalStore.confirmTextSent now k m createdAt out c).2.committed.db := by
  refine of_check_transaction
    (Q := fun _ w => confirmTextSent now k m createdAt c.committed.db = some w.db)
    (fun hm => ?_) h
  refine Holds.bind (holds_quiet fun db₁ h₁ => ?_)
  refine holds_leaveOutbox out k fun _ => ?_
  rw [confirmTextSent, if_neg (not_le.mpr hm), h₁]
  rfl

/-- So does `insertHistoryPage`. -/
theorem insertHistoryPage_committed {messages : List LocalMessageDTO}
    {resources : List LocalMessageResourceDTO} {complete : Bool}
    (h : (LocalStore.insertHistoryPage threadId messages resources complete c).1 = some ()) :
    insertHistoryPage threadId messages resources complete c.committed.db =
      some
        (LocalStore.insertHistoryPage threadId messages resources complete c).2.committed.db := by
  refine of_check_transaction (Q := fun _ w =>
    insertHistoryPage threadId messages resources complete c.committed.db = some w.db)
    (fun hlen => ?_) h
  refine Holds.bind (holds_insertPageLoop threadId _ _ _ fun oldest db₁ hloop => ?_)
  refine holds_quiet fun db₂ h₂ => ?_
  rw [insertHistoryPage, if_neg (not_not.mpr hlen), hloop]
  exact h₂

end Methods

/-! ### A text and its history -/

/-- User 1 has written to user 2, and the server has not answered yet. -/
def textWritten : Option LocalDb :=
  let c : Sqlite.Conn LocalStore.Store :=
    { committed := { db := { conversations := [⟨1, 2, none, none, false, 0⟩] } } }
  match LocalStore.enqueueSend 5
      { clientMessageId := "k", threadId := 1, senderUserId := 1, textContent := "hi" } {}
      ⟨0, "k", .sendText, .none, "request"⟩ c with
  | (some _, c) => some c.committed.db
  | (none, _) => none

/-- The history of the thread: the text, stored as message 7, and an answer. -/
def textAndAnswer : List LocalMessageDTO :=
  [{ messageId := 8, threadId := 1, senderUserId := 2, textContent := "ho", createdAt := 7 },
    { messageId := 7, clientMessageId := "k", threadId := 1, senderUserId := 1, textContent := "hi",
      createdAt := 6 }]

/-- The page that comes before the confirmation is rolled back, and the answer is not
in the table. -/
theorem history_page_rolled_back :
    (textWritten.map fun db =>
      let out := bothCalls .historyFirst (confirmTextSent 5 "k" 7 6)
        (insertHistoryPage 1 textAndAnswer [{}, {}] true) db
      (out.1, out.2.1, out.2.2.messages.map (·.messageId))) =
      some (true, false, [some 7]) := by decide

/-- After the confirmation the page goes in. -/
theorem history_page_confirmed :
    ∃ db, textWritten = some db ∧
      Merged "k" 7 (textAndAnswer.zip [{}, {}])
        (bothCalls .confirmFirst (confirmTextSent 5 "k" 7 6)
          (insertHistoryPage 1 textAndAnswer [{}, {}] true) db) := by
  refine ⟨_, rfl, ?_⟩
  refine (history_page_iff .confirmFirst 5 6 true ?_ rfl ?_ (by decide) ?_ (by decide)
    (by decide)).mpr ⟨rfl, ?_⟩
  · exact ⟨by decide, by decide, by decide, by decide, by decide⟩
  · exact ⟨by decide, by decide, by decide, by decide⟩
  · exact ⟨by decide, by decide⟩
  · rintro x hx hne ⟨hnamed, -⟩
    simp only [textAndAnswer, List.zip_cons_cons, List.zip_nil_right, List.mem_cons,
      List.not_mem_nil, or_false] at hx
    rcases hx with rfl | rfl
    · exact hnamed rfl
    · exact hne rfl

end LlfcChat.LocalDb

/-
What the answers say about publication.

Three requests can end in the answer that a message is published, and the
number of its event comes from different places: from the transaction that has
just published it, from one that finds it published, or from a row that was
read.  All of them are the number of the one event of the message, because the
database never takes a published message or an event back: what a handler has
learnt is still true when it answers.
-/
import LlfcChat.Resource.Steps

namespace LlfcChat.Resource.Replies

/-- The answers to the three requests. -/
def Reports (reply : Reply) : Prop :=
  reply.msgType = idResourceChunkUploadRsp ∨ reply.msgType = idResourceUploadProgressRsp ∨
    reply.msgType = idResourceInstantProofRsp

/-- An answer to them, or an error, calls a message published only if it is, and
a success names the number of its event. -/
def Truthful (db : Db) (reply : Reply) : Prop :=
  Reports reply ∨ reply.error ≠ .success → reply.status = some MessageStatus.published.toInt →
    ∃ seq, db.AnnouncedAs reply.messageId seq ∧ (reply.error = .success → reply.eventSeq = some seq)

/-- The recipient is told of published messages only. -/
def TrueNotice (db : Db) (n : Notification) : Prop := ∃ seq, db.AnnouncedAs n.messageId seq

variable {db : Db} {n : Notification} {reply : Reply}

theorem Truthful.changes {db' : Db} (h : Truthful db reply) (hc : Changes db db') :
    Truthful db' reply := by
  intro hrep hs
  obtain ⟨seq, hseq, hsucc⟩ := h hrep hs
  exact ⟨seq, hseq.changes hc, hsucc⟩

theorem TrueNotice.changes {db' : Db} (h : TrueNotice db n) (hc : Changes db db') :
    TrueNotice db' n := by
  obtain ⟨seq, hseq⟩ := h
  exact ⟨seq, hseq.changes hc⟩

/-- What is asked of a call. -/
def CallOk (w : World) : Op → Prop
  | .send _ reply => Truthful w.db reply
  | .post n => TrueNotice w.db n
  | _ => True

theorem truthful_of_status (h : reply.status ≠ some MessageStatus.published.toInt) (db : Db) :
    Truthful db reply :=
  fun _ hs => absurd hs h

theorem truthful_of_downloads (h : reply.Downloads) (db : Db) :
    Truthful db reply := by
  obtain ⟨htype, hstatus⟩ := h
  rintro hrep hs
  rcases hrep with hrep | herror
  · -- other message types
    rcases htype with e | e <;> rw [Reports, e] at hrep <;> exact absurd hrep (by decide)
  · rcases hstatus with e | e
    · exact absurd e herror
    · rw [e] at hs
      cases hs

/-- What an answer may say: an answer to the three requests, or an error, that
calls a message published speaks of one that is published and whose recipient is
told by the event `e`; a success carries the number of that event. -/
def SaysTrue (db : Db) (reply : Reply) : Prop :=
  Reports reply ∨ reply.error ≠ .success → reply.status = some MessageStatus.published.toInt →
    ∃ e, db.PublishedAs reply.messageId e ∧
      (reply.error = .success → reply.eventSeq = some e.eventSeq ∧ 0 < e.eventSeq)

theorem Truthful.saysTrue (h : Truthful db reply) (hdb : db.Consistent) (hnumbered : db.Numbered) :
    SaysTrue db reply := by
  intro hrep hs
  obtain ⟨seq, hseq, hsucc⟩ := h hrep hs
  obtain ⟨e, he, rfl⟩ := hseq.publishedAs hdb
  have hmem : e ∈ db.userEvents := by
    obtain ⟨-, -, -, -, -, -, habout, -⟩ := he
    exact List.mem_of_mem_filter (habout ▸ List.mem_singleton_self e)
  exact ⟨e, he, fun herror => ⟨hsucc herror, hnumbered.eventSeq_pos hmem⟩⟩

theorem TrueNotice.publishedAs (h : TrueNotice db n) (hdb : db.Consistent) :
    ∃ e, db.PublishedAs n.messageId e := by
  obtain ⟨seq, hseq⟩ := h
  obtain ⟨e, he, -⟩ := hseq.publishedAs hdb
  exact ⟨e, he⟩

/-- A message has one event. -/
theorem SaysTrue.eventSeq_eq {reply' : Reply} (h : SaysTrue db reply)
    (h' : SaysTrue db reply') (hrep : Reports reply) (hrep' : Reports reply')
    (hid : reply.messageId = reply'.messageId) (herror : reply.error = .success)
    (herror' : reply'.error = .success) (hs : reply.status = some MessageStatus.published.toInt)
    (hs' : reply'.status = some MessageStatus.published.toInt) :
    reply.eventSeq = reply'.eventSeq := by
  obtain ⟨e, ⟨-, -, -, -, -, -, he, -⟩, hseq⟩ := h (.inl hrep) hs
  obtain ⟨e', ⟨-, -, -, -, -, -, he', -⟩, hseq'⟩ := h' (.inl hrep') hs'
  rw [hid, he'] at he
  cases he
  rw [(hseq herror).1, (hseq' herror').1]

end LlfcChat.Resource.Replies

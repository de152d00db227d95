/-
One `.part` file, from the point of view of the worker that owns it.

The worker of a message is the only thread that writes its `.part` file.  The
others may at most take the file away (the cleanup thread does so with old
ones), and they do not give its inode a name in the blob store.  So what the
worker knows of the file stays true between two of its calls, as long as the
name it has unlinked is really gone: a file that kept its `.part` name next to
the name of a blob would be changed under that name as well.

The rules of this module are about one message; `Conc.Rules.Safe.frame` brings
the other messages of the worker back in.
-/
import LlfcChat.Resource.Accepted
import LlfcChat.Resource.Gc

namespace LlfcChat.Resource.Upload

open Conc Conc.Rules FileSystem
open Conc.Prog hiding pure bind

/-! ### Rules -/

/-- What is assumed of a run: whether a `.part` file may vanish, and the byte strings it
meets, among which the digest has no collision. -/
structure Care (sha : List UInt8 → String) where
  vanish : Prop
  met : Set (List UInt8)
  inj : met.InjOn sha

/-- `digest` is the digest of a byte string of the run. -/
def Care.Digest {sha : List UInt8 → String} (care : Care sha) (data : List UInt8)
    (digest : String) : Prop := data ∈ care.met ∧ sha data = digest

theorem Care.Digest.unique {sha : List UInt8 → String} {care : Care sha} {a b : List UInt8}
    {digest : String} (h : care.Digest a digest) (h' : care.Digest b digest) : a = b :=
  care.inj h.1 h'.1 (h.2.trans h'.2.symm)

/-- The byte strings that a call hashes, or reads as a whole. -/
def meets (w : World) : Op → Set (List UInt8)
  | .sha256Hex data | .digestFinal data => {data}
  | .readAll i => {w.disk.data i}
  | _ => ∅

/-- The old name of a file that was linked goes away: `unlink` does not fail
where there is a file, and the process does not die in between.  Without
`vanish` the cleanup thread finds no `.part` file that is old enough. -/
def carefulDisk {sha : List UInt8 → String} (care : Care sha) : Policy where
  call t op c w :=
    (∀ path, op = .unlink path → c.fails = false) ∧
      (t = .cleanup → ∀ m, op = .remove (resourceUploadingPartPath m) → care.vanish) ∧
      meets w op ⊆ care.met
  crash w := ∀ m h i, w.disk.names (resourceUploadingPartPath m) = some i →
    w.disk.names (resourceBlobPath h) ≠ some i

/-- Blobs have the content their name says, and all chunks of a `.part` file but
the last were accepted. -/
structure FileInv (sha : List UInt8 → String) (w : World) : Prop where
  numbered : w.disk.Numbered
  blobs : ∀ h i, w.disk.names (resourceBlobPath h) = some i → sha (w.disk.data i) = h
  births : ∀ m i, w.disk.names (resourceUploadingPartPath m) = some i →
    i.birth = resourceUploadingPartPath m
  kept : ∀ m i, w.disk.names (resourceUploadingPartPath m) = some i →
    Kept (acceptedAt (w.journal m)) (w.disk.data i)

/-- The `.part` files of the messages in `S` are left alone, but may go away if
that is assumed. -/
structure Frame {sha : List UInt8 → String} (care : Care sha) (S : Int → Prop) (w w' : World) :
    Prop where
  db : Changes w.db w'.db
  parts : ∀ m, S m → w'.disk.names (resourceUploadingPartPath m) =
      w.disk.names (resourceUploadingPartPath m) ∨
    care.vanish ∧ w'.disk.names (resourceUploadingPartPath m) = none
  data : ∀ m i, S m → i.birth = resourceUploadingPartPath m → w'.disk.data i = w.disk.data i
  linked : ∀ m i h, S m → i.birth = resourceUploadingPartPath m →
    w'.disk.names (resourceBlobPath h) = some i → w.disk.names (resourceBlobPath h) = some i
  journal : ∀ m, S m → acceptedAt (w'.journal m) = acceptedAt (w.journal m)

/-- Blobs stay as they are while `t` holds the lock. -/
structure Locked (t : Thread) (w w' : World) : Prop where
  mutex : w.mutex = some t → w'.mutex = some t
  blobs : w.mutex = some t → ∀ h i, w.disk.names (resourceBlobPath h) = some i →
    w'.disk.names (resourceBlobPath h) = some i ∧ w'.disk.data i = w.disk.data i

variable {sha : List UInt8 → String} {care : Care sha} {S S' : Int → Prop} {w w' w'' : World}
  {t : Thread} {m : Int}

/-- The disk and the accepted chunks are the same. -/
theorem frame_of_eq (hdb : Changes w.db w'.db) (hdisk : w'.disk = w.disk)
    (hjournal : ∀ m, acceptedAt (w'.journal m) = acceptedAt (w.journal m)) :
    Frame care S w w' where
  db := hdb
  parts _ _ := .inl (by rw [hdisk])
  data _ _ _ _ := by rw [hdisk]
  linked _ _ _ _ _ h := by rwa [hdisk] at h
  journal m _ := hjournal m

theorem Frame.refl (w : World) : Frame care S w w := frame_of_eq .refl rfl fun _ => rfl

theorem Frame.trans (h : Frame care S w w') (h' : Frame care S w' w'') :
    Frame care S w w'' where
  db := Relation.ReflTransGen.trans h.db h'.db
  parts m hm := by
    rcases h'.parts m hm with e | ⟨hv, e⟩
    · rcases h.parts m hm with e' | ⟨hv, e'⟩
      · exact .inl (e.trans e')
      · exact .inr ⟨hv, e.trans e'⟩
    · exact .inr ⟨hv, e⟩
  data m i hm hi := (h'.data m i hm hi).trans (h.data m i hm hi)
  linked m i s hm hi hs := h.linked m i s hm hi (h'.linked m i s hm hi hs)
  journal m hm := (h'.journal m hm).trans (h.journal m hm)

theorem Frame.mono (h : Frame care S w w') (hS : ∀ m, S' m → S m) : Frame care S' w w' where
  db := h.db
  parts m hm := h.parts m (hS m hm)
  data m i hm := h.data m i (hS m hm)
  linked m i s hm := h.linked m i s (hS m hm)
  journal m hm := h.journal m (hS m hm)

theorem locked_of_eq (hmutex : w'.mutex = w.mutex) (hdisk : w'.disk = w.disk) (t : Thread) :
    Locked t w w' where
  mutex h := hmutex.trans h
  blobs _ _ _ hi := by
    rw [hdisk]
    exact ⟨hi, rfl⟩

theorem Locked.refl (t : Thread) (w : World) : Locked t w w := locked_of_eq rfl rfl t

theorem Locked.trans (h : Locked t w w') (h' : Locked t w' w'') : Locked t w w'' where
  mutex hw := h'.mutex (h.mutex hw)
  blobs hw s i hi := by
    obtain ⟨hi', hd⟩ := h.blobs hw s i hi
    obtain ⟨hi'', hd'⟩ := h'.blobs (h.mutex hw) s i hi'
    exact ⟨hi'', hd'.trans hd⟩

/-- A lock that nobody else holds. -/
theorem locked_of_holder (h : w.mutex = some t) {t' : Thread} (hne : t' ≠ t) :
    Locked t' w w' := by
  have hno := ne_of_holder h hne
  exact ⟨fun e => absurd e hno, fun e => absurd e hno⟩

/-- A file is linked into the blob store under the digest that its message
declares, and its content has this digest. -/
def LinkOk (sha : List UInt8 → String) (care : Care sha) (op : Op) (w : World) : Prop :=
  ∀ source target, op = .link source target → ∃ m r,
    source = resourceUploadingPartPath m ∧ w.db.messageResource m = some r ∧
      target = resourceBlobPath r.sha256 ∧
      (∀ data, w.disk.contents source = some data → sha data = r.sha256) ∧
      (¬care.vanish → (w.disk.contents source).isSome)

section Rules

variable (sha : List UInt8 → String) (fmt : Int → String) (care : Care sha)

/-- The rules for a thread that works on the message `m`. -/
@[reducible] def partRules (t : Thread) (m : Int) : Rules Op Res World where
  sem := (server sha fmt (carefulDisk care)).sem t
  inv := FileInv sha
  rely w w' := Frame care (· = m) w w' ∧ Locked t w w'
  guar op w w' := Frame care (· ≠ m) w w' ∧
    (∀ t', (op = .unlock → t' ≠ t) → Locked t' w w') ∧ LinkOk sha care op w
  rely_refl w := ⟨.refl w, .refl t w⟩
  rely_trans _ _ _ h h' := ⟨h.1.trans h'.1, h.2.trans h'.2⟩

end Rules

variable {fmt : Int → String}

/-! ### Steps of the owner -/

/-- What a step of the owner of `m` must do. -/
def OwnStep (sha : List UInt8 → String) (care : Care sha) (m : Int) (w w' : World) : Prop :=
  Frame care (· ≠ m) w w' ∧ (∀ t, Locked t w w') ∧ FileInv sha w'

section

variable (h : FileInv sha w)

include h

theorem ownStep_refl : OwnStep sha care m w w :=
  ⟨.refl w, fun t => .refl t w, h⟩

/-- Other bytes for an inode of the message that is not in the blob store. -/
theorem ownStep_setData {i : Handle} {bytes : List UInt8}
    (hbirth : i.birth = resourceUploadingPartPath m)
    (hclear : ∀ s, w.disk.names (resourceBlobPath s) ≠ some i)
    (hkept : Kept (acceptedAt (w.journal m)) bytes) :
    OwnStep sha care m w { w with disk := w.disk.setData i bytes } := by
  have hblob : ∀ s j, w.disk.names (resourceBlobPath s) = some j →
      (w.disk.setData i bytes).data j = w.disk.data j := by
    intro s j hj
    refine Disk.setData_data_of_ne ?_ bytes
    rintro rfl
    exact hclear s hj
  refine ⟨⟨.refl, fun _ _ => .inl rfl, fun n j hn hj => ?_, fun _ _ _ _ _ hs => hs, fun _ _ => rfl⟩,
    fun _ => ⟨id, fun _ s j hj => ⟨hj, hblob s j hj⟩⟩,
    ⟨h.numbered, fun s j hj => ?_, h.births, fun n j hj => ?_⟩⟩
  · refine Disk.setData_data_of_ne ?_ bytes
    rintro rfl
    exact hn (partPath_inj.mp (hj.symm.trans hbirth))
  · rw [hblob s j hj]
    exact h.blobs s j hj
  · by_cases e : j = i
    · subst e
      obtain rfl : n = m := partPath_inj.mp ((h.births n j hj).symm.trans hbirth)
      rw [Disk.setData_data_self]
      exact hkept
    · rw [Disk.setData_data_of_ne e]
      exact h.kept n j hj

/-- The `.part` file is made. -/
theorem ownStep_create (hnone : w.disk.names (resourceUploadingPartPath m) = none) :
    OwnStep sha care m w { w with disk := w.disk.create (resourceUploadingPartPath m) } := by
  have hblobName : ∀ s, (w.disk.create (resourceUploadingPartPath m)).names (resourceBlobPath s) =
      w.disk.names (resourceBlobPath s) := fun s =>
    Disk.create_names_of_ne (blobPath_ne_partPath s m)
  have hdata : ∀ p j, w.disk.names p = some j →
      (w.disk.create (resourceUploadingPartPath m)).data j = w.disk.data j := fun p j hj =>
    Disk.create_data_of_ne (h.numbered.ne_next hj)
  have hother : ∀ n, n ≠ m → (w.disk.create (resourceUploadingPartPath m)).names
      (resourceUploadingPartPath n) = w.disk.names (resourceUploadingPartPath n) := fun n hn =>
    Disk.create_names_of_ne fun e => hn (partPath_inj.mp e)
  refine ⟨⟨.refl, fun n hn => .inl (hother n hn), fun n j hn hj => ?_, fun n j s _ _ hs => ?_,
    fun _ _ => rfl⟩, fun _ => ⟨id, fun _ s j hj => ⟨(hblobName s).trans hj, hdata _ j hj⟩⟩,
    ⟨h.numbered.create _, fun s j hj => ?_, fun n j hj => ?_, fun n j hj => ?_⟩⟩
  · refine Disk.create_data_of_ne ?_
    rintro rfl
    exact hn (partPath_inj.mp hj.symm)
  · exact (hblobName s).symm.trans hs
  · have hj' := (hblobName s).symm.trans hj
    rw [hdata _ j hj']
    exact h.blobs s j hj'
  · by_cases e : n = m
    · subst e
      have hj' := (Disk.create_names_self (resourceUploadingPartPath n)).symm.trans hj
      rw [← Option.some.inj hj']
    · exact h.births n j ((hother n e).symm.trans hj)
  · by_cases e : n = m
    · subst e
      have hj' := (Disk.create_names_self (resourceUploadingPartPath n)).symm.trans hj
      rw [← Option.some.inj hj', Disk.create_data_self]
      exact kept_nil
    · have hj' := (hother n e).symm.trans hj
      rw [hdata _ j hj']
      exact h.kept n j hj'

/-- The `.part` file is taken away. -/
theorem ownStep_unlink :
    OwnStep sha care m w { w with disk := w.disk.unlink (resourceUploadingPartPath m) } := by
  have hblobName : ∀ s, (w.disk.unlink (resourceUploadingPartPath m)).names (resourceBlobPath s) =
      w.disk.names (resourceBlobPath s) := fun s =>
    Disk.unlink_names_of_ne (blobPath_ne_partPath s m)
  have hback : ∀ n j, (w.disk.unlink (resourceUploadingPartPath m)).names
      (resourceUploadingPartPath n) = some j →
      w.disk.names (resourceUploadingPartPath n) = some j := by
    intro n j hj
    by_cases e : n = m
    · subst e
      rw [Disk.unlink_names_self] at hj
      cases hj
    · exact (Disk.unlink_names_of_ne fun e' => e (partPath_inj.mp e')).symm.trans hj
  refine ⟨⟨.refl, fun n hn => .inl ?_, fun _ _ _ _ => rfl, fun n j s _ _ hs => ?_, fun _ _ => rfl⟩,
    fun _ => ⟨id, fun _ s j hj => ⟨(hblobName s).trans hj, rfl⟩⟩,
    ⟨h.numbered.unlink _, fun s j hj => ?_, fun n j hj => ?_, fun n j hj => ?_⟩⟩
  · exact Disk.unlink_names_of_ne fun e => hn (partPath_inj.mp e)
  · exact (hblobName s).symm.trans hs
  · exact h.blobs s j ((hblobName s).symm.trans hj)
  · exact h.births n j (hback n j hj)
  · exact h.kept n j (hback n j hj)

/-- The `.part` file gets a name in the blob store. -/
theorem ownStep_link {i : Handle} {s : String}
    (hi : w.disk.names (resourceUploadingPartPath m) = some i)
    (hnone : w.disk.names (resourceBlobPath s) = none) (hsha : sha (w.disk.data i) = s) :
    OwnStep sha care m w { w with disk := w.disk.link i (resourceBlobPath s) } := by
  have hpart : ∀ n, (w.disk.link i (resourceBlobPath s)).names (resourceUploadingPartPath n) =
      w.disk.names (resourceUploadingPartPath n) := fun n =>
    Disk.link_names_of_ne i (partPath_ne_blobPath n s)
  have hblob : ∀ s' j, (w.disk.link i (resourceBlobPath s)).names (resourceBlobPath s') = some j →
      s' = s ∧ j = i ∨ w.disk.names (resourceBlobPath s') = some j := by
    intro s' j hj
    by_cases e : resourceBlobPath s' = resourceBlobPath s
    · rw [e, Disk.link_names_self, Option.some.injEq] at hj
      exact .inl ⟨blobPath_inj.mp e, hj.symm⟩
    · exact .inr ((Disk.link_names_of_ne i e).symm.trans hj)
  refine ⟨⟨.refl, fun n _ => .inl (hpart n), fun _ _ _ _ => rfl, fun n j s' hn hj hs => ?_,
    fun _ _ => rfl⟩, fun _ => ⟨id, fun _ s' j hj => ⟨?_, rfl⟩⟩,
    ⟨h.numbered.link hi, fun s' j hj => ?_, fun n j hj => ?_, fun n j hj => ?_⟩⟩
  · rcases hblob s' j hs with ⟨-, rfl⟩ | hs
    · exact absurd (partPath_inj.mp (hj.symm.trans (h.births m j hi))) hn
    · exact hs
  · refine (Disk.link_names_of_ne i fun e => ?_).trans hj
    rw [e, hnone] at hj
    cases hj
  · rcases hblob s' j hj with ⟨rfl, rfl⟩ | hj
    · exact hsha
    · exact h.blobs s' j hj
  · exact h.births n j ((hpart n).symm.trans hj)
  · exact h.kept n j ((hpart n).symm.trans hj)

/-- One more event of the message. -/
theorem ownStep_note {e : Event}
    (hkept : ∀ i, w.disk.names (resourceUploadingPartPath m) = some i →
      Kept (acceptedAt (w.journal m ++ [e])) (w.disk.data i)) :
    OwnStep sha care m w
      { w with journal := fun n => if n = m then w.journal n ++ [e] else w.journal n } := by
  refine ⟨⟨.refl, fun _ _ => .inl rfl, fun _ _ _ _ => rfl, fun _ _ _ _ _ hs => hs, fun n hn => ?_⟩,
    fun _ => ⟨id, fun _ s j hj => ⟨hj, rfl⟩⟩, ⟨h.numbered, h.blobs, h.births, fun n j hj => ?_⟩⟩
  · show acceptedAt (if n = m then _ else _) = _
    rw [if_neg hn]
  · show Kept (acceptedAt (if n = m then _ else _)) _
    split
    · rename_i e'
      subst e'
      exact hkept j hj
    · exact h.kept n j hj

end

/-! ### What the owner knows -/

/-- The `.part` file of `m` has the bytes `d` and no other name, and `acc` are
the chunks that were accepted.  A file that may vanish may have done so. -/
structure Part {sha : List UInt8 → String} (care : Care sha) (m : Int)
    (acc : Nat → Option (List UInt8)) (d : List UInt8) (w : World) : Prop where
  content : ∀ i, w.disk.names (resourceUploadingPartPath m) = some i → w.disk.data i = d
  clear : ∀ i s, w.disk.names (resourceUploadingPartPath m) = some i →
    w.disk.names (resourceBlobPath s) ≠ some i
  there : ¬care.vanish → d ≠ [] → (w.disk.names (resourceUploadingPartPath m)).isSome
  journal : acceptedAt (w.journal m) = acc

/-- The same of a file that is open. -/
structure Open {sha : List UInt8 → String} (care : Care sha) (m : Int)
    (acc : Nat → Option (List UInt8)) (d : List UInt8) (i : Handle) (w : World) : Prop where
  birth : i.birth = resourceUploadingPartPath m
  data : w.disk.data i = d
  clear : ∀ s, w.disk.names (resourceBlobPath s) ≠ some i
  only : ∀ j, w.disk.names (resourceUploadingPartPath m) = some j → j = i
  there : ¬care.vanish → w.disk.names (resourceUploadingPartPath m) = some i
  journal : acceptedAt (w.journal m) = acc

/-- There is no `.part` file. -/
def Missing (m : Int) (w : World) : Prop := w.disk.names (resourceUploadingPartPath m) = none

variable {acc : Nat → Option (List UInt8)} {d : List UInt8} {i : Handle}

theorem Open.part (h : Open care m acc d i w) : Part care m acc d w where
  content j hj := by rw [h.only j hj, h.data]
  clear j s hj := by
    rw [h.only j hj]
    exact h.clear s
  there hv _ := Option.isSome_of_eq_some (h.there hv)
  journal := h.journal

/-- A file that is not there counts as empty. -/
theorem Missing.part (h : Missing m w) : Part care m (acceptedAt (w.journal m)) [] w where
  content i hi := by
    rw [show w.disk.names (resourceUploadingPartPath m) = none from h] at hi
    cases hi
  clear i s hi := by
    rw [show w.disk.names (resourceUploadingPartPath m) = none from h] at hi
    cases hi
  there _ hne := absurd rfl hne
  journal := rfl

theorem Part.open (h : Part care m acc d w) (hinv : FileInv sha w)
    (hi : w.disk.names (resourceUploadingPartPath m) = some i) : Open care m acc d i w where
  birth := hinv.births m i hi
  data := h.content i hi
  clear s := h.clear i s hi
  only _ hj := Option.some.inj (hj.symm.trans hi)
  there _ := hi
  journal := h.journal

/-- What the owner sees of a file that the frame leaves alone. -/
theorem Frame.names_back (h : Frame care (· = m) w w')
    (hi : w'.disk.names (resourceUploadingPartPath m) = some i) :
    w.disk.names (resourceUploadingPartPath m) = some i := by
  rcases h.parts m rfl with e | ⟨-, e⟩
  · exact e.symm.trans hi
  · rw [e] at hi
    cases hi

theorem Part.frame (h : Part care m acc d w) (hf : Frame care (· = m) w w')
    (hinv : FileInv sha w') : Part care m acc d w' := by
  refine ⟨fun i hi => ?_, fun i s hi hs => ?_, fun hv hne => ?_, (hf.journal m rfl).trans h.journal⟩
  · rw [hf.data m i rfl (hinv.births m i hi)]
    exact h.content i (hf.names_back hi)
  · exact h.clear i s (hf.names_back hi) (hf.linked m i s rfl (hinv.births m i hi) hs)
  · rcases hf.parts m rfl with e | ⟨hvanish, -⟩
    · rw [e]
      exact h.there hv hne
    · exact absurd hvanish hv

theorem stable_part : (partRules sha fmt care t m).Stable (Part care m acc d) :=
  fun _ _ h hrely hinv => h.frame hrely.1 hinv

theorem stable_open : (partRules sha fmt care t m).Stable (Open care m acc d i) := by
  intro w w' h hrely _
  obtain ⟨hf, -⟩ := hrely
  refine ⟨h.birth, (hf.data m i rfl h.birth).trans h.data, fun s hs => ?_, fun j hj => ?_,
    fun hv => ?_, (hf.journal m rfl).trans h.journal⟩
  · exact h.clear s (hf.linked m i s rfl h.birth hs)
  · exact h.only j (hf.names_back hj)
  · rcases hf.parts m rfl with e | ⟨hvanish, -⟩
    · exact e.trans (h.there hv)
    · exact absurd hvanish hv

theorem stable_missing : (partRules sha fmt care t m).Stable (Missing m) := by
  intro w w' h hrely _
  rcases hrely.1.parts m rfl with e | ⟨-, e⟩
  · exact e.trans h
  · exact e

theorem stable_holds : (partRules sha fmt care t m).Stable fun w => w.mutex = some t :=
  fun _ _ h hrely _ => hrely.2.mutex h

variable {op : Op} {F P : World → Prop}

theorem dbFact_stable (h : DbFact P) : (partRules sha fmt care t m).Stable P :=
  fun w w' hw hrely _ => h w w' hrely.1.db hw

/-! ### Quiet calls -/

/-- Calls that leave the files and the accepted chunks alone. -/
def Hushed : Op → Prop
  | .send .. | .post _ | .dao .. => True
  | .note _ e => ∀ o, e.chunkAt o = none
  | op => op.Observes

theorem linkOk_of_ne (h : ∀ source target, op ≠ .link source target) :
    LinkOk sha care op w := fun source target e => absurd e (h source target)

/-- What such a call does. -/
theorem hushed_step (h : Hushed op) {c : Choice} {r : Res op} (hinv : FileInv sha w)
    (he : exec sha t op c w = some (r, w')) :
    (∀ S, Frame care S w w') ∧ (∀ t, Locked t w w') ∧ FileInv sha w' ∧
      LinkOk sha care op w := by
  have spread : ∀ {w₁ : World}, Changes w.db w₁.db → w₁.disk = w.disk → w₁.mutex = w.mutex →
      (∀ n, acceptedAt (w₁.journal n) = acceptedAt (w.journal n)) →
      (∀ source target, op ≠ .link source target) →
      (∀ S, Frame care S w w₁) ∧ (∀ t, Locked t w w₁) ∧ FileInv sha w₁ ∧
        LinkOk sha care op w := by
    intro w₁ hdb hdisk hmutex hjournal hne
    refine ⟨fun S => frame_of_eq hdb hdisk hjournal, locked_of_eq hmutex hdisk,
      ⟨hdisk ▸ hinv.numbered, hdisk ▸ hinv.blobs, hdisk ▸ hinv.births, ?_⟩, linkOk_of_ne hne⟩
    intro n i hi
    rw [hjournal n, hdisk]
    exact hinv.kept n i (hdisk ▸ hi)
  cases op with
  | send session reply =>
    obtain rfl := exec_send he
    exact spread .refl rfl rfl (fun _ => rfl) nofun
  | post n =>
    obtain rfl := exec_post he
    exact spread .refl rfl rfl (fun _ => rfl) nofun
  | dao call attempt =>
    obtain ⟨-, rfl⟩ := exec_dao he
    exact spread (turn_changes _ _ _ _) rfl rfl (fun _ => rfl) nofun
  | note n e =>
    obtain rfl := exec_note he
    refine spread .refl rfl rfl (fun n' => ?_) nofun
    show acceptedAt (if n' = n then _ else _) = _
    split
    · exact acceptedAt_append_other h
    · rfl
  | link source target => exact h.elim
  | _ =>
    have hobs := fun hop => exec_observes hop he
    obtain rfl := hobs h
    exact spread .refl rfl rfl (fun _ => rfl) nofun

theorem quiet_of_hushed (h : Hushed op) : (partRules sha fmt care t m).Quiet op := by
  rintro w r w' hinv ⟨c, -, he⟩
  obtain ⟨hf, hl, hinv', hlink⟩ := hushed_step h hinv he
  exact ⟨⟨hf _, fun t' _ => hl t', hlink⟩, hinv', hf _, hl t⟩

theorem quiet_call (h : Hushed op) : (call op).Calls (partRules sha fmt care t m).Quiet :=
  calls_perform (quiet_of_hushed h)

theorem hushed_of_observes (h : op.Observes) : Hushed op := by
  cases op <;> first | exact h | exact h.elim

theorem quiet_observes {α : Type} {p : Prog α} (h : p.Calls Op.Observes) :
    p.Calls (partRules sha fmt care t m).Quiet :=
  h.mono fun _ hop => quiet_of_hushed (hushed_of_observes hop)

theorem quiet_send (session : Nat) (reply : Reply) :
    (partRules sha fmt care t m).Quiet (.send session reply) := quiet_of_hushed trivial

/-! ### Calls on the file -/

/-- A call of the owner, by what it does to the state. -/
theorem safe_own {Q : Res op → World → Prop} (hP : (partRules sha fmt care t m).Stable P)
    (h : P w) (hQ : ∀ r, (partRules sha fmt care t m).Stable (Q r))
    (hlink : ∀ w, P w → LinkOk sha care op w)
    (hop : ∀ c w r w', P w → FileInv sha w → (carefulDisk care).call t op c w →
      exec sha t op c w = some (r, w') → OwnStep sha care m w w' ∧ Q r w') :
    (partRules sha fmt care t m).Safe Q (call op) w := by
  refine safe_perform hP h hQ ?_
  rintro w r w' hw hinv ⟨c, hc, he⟩
  obtain ⟨⟨hf, hl, hinv'⟩, hq⟩ := hop c w r w' hw hinv hc he
  exact ⟨⟨hf, fun t' _ => hl t', hlink w hw⟩, hinv', hq⟩

/-- A call that only looks. -/
theorem safe_look {Q : Res op → World → Prop} (hop : op.Observes)
    (hP : (partRules sha fmt care t m).Stable P) (h : P w)
    (hQ : ∀ r, (partRules sha fmt care t m).Stable (Q r))
    (hpost : ∀ c w r, P w → FileInv sha w ∧ meets w op ⊆ care.met →
      exec sha t op c w = some (r, w) → Q r w) :
    (partRules sha fmt care t m).Safe (fun r w => P w ∧ Q r w) (call op) w := by
  refine safe_own hP h (fun r => hP.and (hQ r)) (fun _ _ => linkOk_of_ne ?_)
    fun c w r w' hw hinv hc he => ?_
  · rintro source target rfl
    exact hop
  · obtain rfl := exec_observes hop he
    exact ⟨ownStep_refl hinv, hw, hpost c _ r hw ⟨hinv, hc.2.2⟩ he⟩

/-- The inode of the message gets other bytes. -/
theorem Open.setData (h : Open care m acc d i w) (bytes : List UInt8) :
    Open care m acc bytes i { w with disk := w.disk.setData i bytes } where
  birth := h.birth
  data := Disk.setData_data_self i bytes
  clear := h.clear
  only := h.only
  there := h.there
  journal := h.journal

theorem safe_resizeFile (h : Part care m acc d w) {size : Nat} (hsize : size ≤ d.length) :
    (partRules sha fmt care t m).Safe
      (fun ok => Part care m acc (if ok = true then d.take size else d))
      (call (.resizeFile (resourceUploadingPartPath m) size)) w := by
  refine safe_own stable_part h (fun _ => stable_part) (fun _ _ => linkOk_of_ne nofun) ?_
  intro c w r w' hw hinv _ he
  obtain ⟨rfl, rfl⟩ | ⟨rfl, i, hi, rfl⟩ := exec_resizeFile he
  · exact ⟨ownStep_refl hinv, hw⟩
  · have hopen := hw.open hinv hi
    have hbytes : resized (w.disk.data i) size = d.take size := by
      rw [hopen.data, resized_of_le hsize]
    rw [hbytes]
    refine ⟨ownStep_setData hinv hopen.birth hopen.clear ?_, (hopen.setData _).part⟩
    rw [← hopen.data]
    exact (hinv.kept m i hi).take size

theorem safe_openFile (h : Part care m acc d w) :
    (partRules sha fmt care t m).Safe
      (fun r w => Part care m acc d w ∧ ∀ i, r = some i → Open care m acc d i w)
      (call (.openFile (resourceUploadingPartPath m))) w := by
  refine safe_look trivial stable_part h
    (fun _ => stable_forall fun _ => stable_imp stable_open) fun c w r hw hinv he i hi => ?_
  simp only [exec, Option.some.injEq, Prod.mk.injEq, and_true] at he
  subst he
  split at hi
  · cases hi
  · exact hw.open hinv.1 hi

/-- A new file of the message is open and empty. -/
theorem open_create (h : FileInv sha w) (hw : Part care m acc d w) :
    Open care m acc [] ⟨resourceUploadingPartPath m, w.disk.serial⟩
      { w with disk := w.disk.create (resourceUploadingPartPath m) } where
  birth := rfl
  data := Disk.create_data_self _
  clear s hs := h.numbered.ne_next
    ((Disk.create_names_of_ne (blobPath_ne_partPath s m)).symm.trans hs) rfl
  only _ hj := by
    rw [Disk.create_names_self, Option.some.injEq] at hj
    exact hj.symm
  there _ := Disk.create_names_self _
  journal := hw.journal

theorem safe_createFile (h : Part care m acc d w) :
    (partRules sha fmt care t m).Safe
      (fun _ w => ∃ d', (d' = d ∨ d' = []) ∧ Part care m acc d' w)
      (call (.createFile (resourceUploadingPartPath m))) w := by
  refine safe_own stable_part h (fun _ => stable_exists fun _ => (stable_const _).and stable_part)
    (fun _ _ => linkOk_of_ne nofun) ?_
  intro c w r w' hw hinv _ he
  obtain ⟨-, rfl⟩ | ⟨-, -, rfl⟩ | ⟨-, hnone, rfl⟩ := exec_createFile he
  · exact ⟨ownStep_refl hinv, d, .inl rfl, hw⟩
  · exact ⟨ownStep_refl hinv, d, .inl rfl, hw⟩
  · exact ⟨ownStep_create hinv hnone, [], .inr rfl, (open_create hinv hw).part⟩

theorem safe_createNew (h : Part care m acc d w) :
    (partRules sha fmt care t m).Safe
      (fun r w => (r = none → Part care m acc d w) ∧ ∀ i, r = some i → Open care m acc [] i w)
      (call (.createNew (resourceUploadingPartPath m))) w := by
  refine safe_own stable_part h
    (fun _ => (stable_imp stable_part).and (stable_forall fun _ => stable_imp stable_open))
    (fun _ _ => linkOk_of_ne nofun) ?_
  intro c w r w' hw hinv _ he
  obtain ⟨rfl, rfl⟩ | ⟨hnone, rfl, rfl⟩ := exec_createNew he
  · exact ⟨ownStep_refl hinv, fun _ => hw, nofun⟩
  · refine ⟨ownStep_create hinv hnone, nofun, fun i hi => ?_⟩
    cases hi
    exact open_create hinv hw

/-- A write, of which at least a part gets to the disk. -/
theorem safe_write (h : Open care m acc d i w) {offset : Nat} {data : List UInt8}
    (hkept : ∀ n, Kept acc (overlay d offset (data.take n))) :
    (partRules sha fmt care t m).Safe
      (fun ok w => ∃ n, (ok = true → data.length ≤ n) ∧
        Open care m acc (overlay d offset (data.take n)) i w)
      (call (.write i offset data)) w := by
  refine safe_own stable_open h (fun _ => stable_exists fun _ => (stable_const _).and stable_open)
    (fun _ _ => linkOk_of_ne nofun) ?_
  intro c w r w' hw hinv _ he
  obtain ⟨n, hn, rfl⟩ := exec_write he
  rw [hw.data]
  refine ⟨ownStep_setData hinv hw.birth hw.clear ?_, n, hn, hw.setData _⟩
  rw [hw.journal]
  exact hkept n

/-- `remove`, or any other way to lose the name. -/
theorem missing_unlink : Missing m { w with disk := w.disk.unlink (resourceUploadingPartPath m) } :=
  Disk.unlink_names_self _

theorem safe_remove (h : Part care m acc d w) :
    (partRules sha fmt care t m).Safe
      (fun r => Part care m acc (if r = .failed then d else []))
      (call (.remove (resourceUploadingPartPath m))) w := by
  refine safe_own stable_part h (fun _ => stable_part) (fun _ _ => linkOk_of_ne nofun) ?_
  intro c w r w' hw hinv _ he
  obtain ⟨rfl, rfl⟩ | ⟨rfl, hnone, rfl⟩ | ⟨rfl, rfl⟩ := exec_remove he
  · exact ⟨ownStep_refl hinv, hw⟩
  · exact ⟨ownStep_refl hinv, hw.journal ▸ Missing.part hnone⟩
  · exact ⟨ownStep_unlink hinv, hw.journal ▸ Missing.part missing_unlink⟩

/-- The chunks that were accepted. -/
def Journal (m : Int) (acc : Nat → Option (List UInt8)) (w : World) : Prop :=
  acceptedAt (w.journal m) = acc

theorem stable_journal : (partRules sha fmt care t m).Stable (Journal m acc) :=
  fun _ _ h hrely _ => (hrely.1.journal m rfl).trans h

/-- After `unlink` there is no file, whatever it says. -/
theorem safe_unlink (h : Journal m acc w) :
    (partRules sha fmt care t m).Safe (fun _ => Part care m acc [])
      (call (.unlink (resourceUploadingPartPath m))) w := by
  refine safe_own stable_journal h (fun _ => stable_part) (fun _ _ => linkOk_of_ne nofun) ?_
  intro c w r w' hw hinv hc he
  obtain ⟨-, hnone, rfl⟩ | ⟨-, rfl⟩ := exec_unlink he
  · rcases hnone with hfails | hnone
    · rw [hc.1 _ rfl] at hfails
      cases hfails
    · exact ⟨ownStep_refl hinv, hw ▸ Missing.part hnone⟩
  · exact ⟨ownStep_unlink hinv, hw ▸ Missing.part missing_unlink⟩

/-- A link of a file that has the digest its message declares.  Only the link
itself is allowed to give the file a second name. -/
theorem safe_link {s : String} (h : Part care m acc d w) (hrow : Row m s w) (hsha : sha d = s)
    (hne : d ≠ []) :
    (partRules sha fmt care t m).Safe
      (fun r w => Journal m acc w ∧ (r ≠ .linked → Part care m acc d w))
      (call (.link (resourceUploadingPartPath m) (resourceBlobPath s))) w := by
  refine safe_own (stable_part.and (dbFact_stable (dbFact_row m s))) ⟨h, hrow⟩
    (fun _ => stable_journal.and (stable_imp stable_part)) ?_ ?_
  · rintro w ⟨hw, r, hr, rfl⟩ source target e
    cases e
    refine ⟨m, r, rfl, hr, rfl, fun data hdata => ?_, fun hv => ?_⟩
    · obtain ⟨i, hi, rfl⟩ := Option.map_eq_some_iff.mp hdata
      rw [hw.content i hi, hsha]
    · rw [Disk.contents, Option.isSome_map]
      exact hw.there hv hne
  · rintro c w r w' ⟨hw, -⟩ hinv _ he
    obtain ⟨rfl, rfl⟩ | ⟨rfl, -, rfl⟩ | ⟨rfl, i, hi, hnone, rfl⟩ := exec_link he
    · exact ⟨ownStep_refl hinv, hw.journal, fun _ => hw⟩
    · exact ⟨ownStep_refl hinv, hw.journal, fun _ => hw⟩
    · exact ⟨ownStep_link hinv hi hnone ((congrArg sha (hw.content i hi)).trans hsha), hw.journal,
        fun e => absurd rfl e⟩

/-- A chunk is recorded as accepted. -/
theorem safe_note {offset : Nat} {data : List UInt8} (h : Part care m acc d w)
    (hkept : Kept (acceptChunk acc offset data) d) :
    (partRules sha fmt care t m).Safe
      (fun _ => Part care m (acceptChunk acc offset data) d)
      (call (.note m (.chunkAccepted offset data))) w := by
  refine safe_own stable_part h (fun _ => stable_part) (fun _ _ => linkOk_of_ne nofun) ?_
  intro c w r w' hw hinv _ he
  obtain rfl := exec_note he
  refine ⟨ownStep_note hinv fun i hi => ?_, hw.content, hw.clear, hw.there, ?_⟩
  · rw [acceptedAt_append_chunk, hw.journal, hw.content i hi]
    exact hkept
  · show acceptedAt (if m = m then _ else _) = _
    rw [if_pos rfl, acceptedAt_append_chunk, hw.journal]

/-! ### What the lock keeps -/

/-- What holds of the database for good, and of the blobs while the lock is
held. -/
def LockFact (t : Thread) (F : World → Prop) : Prop :=
  ∀ w w', Changes w.db w'.db → Locked t w w' → F w → F w'

theorem lockFact_db (h : DbFact F) : LockFact t F :=
  fun w w' hc _ hw => h w w' hc hw

theorem lockFact_holds : LockFact t fun w => w.mutex = some t := fun _ _ _ hl hw => hl.mutex hw

/-- The blob of a digest is this file. -/
def BlobIs (t : Thread) (s : String) (i : Handle) (w : World) : Prop :=
  w.mutex = some t ∧ w.disk.names (resourceBlobPath s) = some i

theorem lockFact_blobIs {s : String} : LockFact t (BlobIs t s i) :=
  fun _ _ _ hl hw => ⟨hl.mutex hw.1, (hl.blobs hw.1 s i hw.2).1⟩

theorem LockFact.and {F' : World → Prop} (h : LockFact t F) (h' : LockFact t F') :
    LockFact t fun w => F w ∧ F' w := fun w w' hc hl hw => ⟨h w w' hc hl hw.1, h' w w' hc hl hw.2⟩

theorem LockFact.stable (h : LockFact t F) : (partRules sha fmt care t m).Stable F :=
  fun w w' hw hrely _ => h w w' hrely.1.db hrely.2 hw

theorem files_ne_unlock {α : Type} {p : Prog α} (h : p.Calls Op.Files) : p.Calls (· ≠ .unlock) := by
  refine h.mono fun op hop e => ?_
  subst e
  exact hop.elim

/-- A program that does not give the lock back keeps it. -/
theorem safe_with {α : Type} {Q : α → World → Prop} {p : Prog α} (hF : LockFact t F)
    (h : (partRules sha fmt care t m).Safe Q p w) (hp : p.Calls (· ≠ .unlock)) (hw : F w) :
    (partRules sha fmt care t m).Safe (fun a w => Q a w ∧ F w) p w :=
  h.and_calls hp hF.stable
    (fun _ w w' hop hw _ hg => hF w w' hg.1.db (hg.2.1 t fun e => absurd e hop) hw) hw

/-- Taking the lock changes nothing else. -/
theorem safe_lock (hP : (partRules sha fmt care t m).Stable P)
    (hmutex : ∀ w x, P w → P { w with mutex := x }) (h : P w) :
    (partRules sha fmt care t m).Safe (fun _ w => w.mutex = some t ∧ P w)
      (call .lock) w := by
  refine safe_perform hP h (fun _ => stable_holds.and hP) ?_
  rintro w r w' hw hinv ⟨c, -, he⟩
  obtain ⟨nobody, rfl⟩ := exec_lock he
  exact ⟨⟨frame_of_eq .refl rfl fun _ => rfl,
    fun t' _ => ⟨fun e => absurd e (nobody t'), fun e => absurd e (nobody t')⟩,
    linkOk_of_ne nofun⟩, ⟨hinv.numbered, hinv.blobs, hinv.births, hinv.kept⟩, rfl,
    hmutex w _ hw⟩

theorem safe_unlock (hP : (partRules sha fmt care t m).Stable P)
    (hmutex : ∀ w x, P w → P { w with mutex := x }) (hheld : w.mutex = some t) (h : P w) :
    (partRules sha fmt care t m).Safe (fun _ => P) (call .unlock) w := by
  refine safe_perform (stable_holds.and hP) ⟨hheld, h⟩ (fun _ => hP) ?_
  rintro w r w' ⟨hheld, hw⟩ hinv ⟨c, -, he⟩
  obtain rfl := exec_unlock he
  exact ⟨⟨frame_of_eq .refl rfl fun _ => rfl, fun t' hne => locked_of_holder hheld (hne rfl),
    linkOk_of_ne nofun⟩, ⟨hinv.numbered, hinv.blobs, hinv.births, hinv.kept⟩, hmutex w _ hw⟩

end LlfcChat.Resource.Upload

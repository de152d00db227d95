/-
Database transactions, statement by statement.

A transaction program runs on a connection.  The connection knows the state
the rest of the world sees (`committed`), the state the open transaction sees
(`working`), the out-parameter the program fills in (`out`) and a script of
faults, one for every statement still to be executed.  A statement may throw
before it had an effect or after it; the second is how a commit whose answer
was lost looks like.  Whatever a program did to `working` becomes visible only
through `commit`.

The rules at the end are a weakest-precondition calculus for such programs.
`wp m Q E s w o` says that `m`, started with committed state `s`, working
state `w` and out-parameter `o`, ends in `Q` when it returns and in `E` when
it throws, *for every fault script*.  No rule mentions the script, so a proof
about a transaction is a walk along its statements.
-/
import Mathlib

namespace Txn

variable {σ μ ε α β : Type}

/-! ### Connections -/

/-- What the server does to one statement. -/
inductive Fault (ε : Type)
  | none
  | before (e : ε)
  | after (e : ε)

/-- A connection with an open transaction. -/
structure Conn (σ μ ε : Type) where
  committed : σ
  working : σ
  out : μ
  faults : List (Fault ε)

/-- A fresh transaction on the committed state `s`. -/
def Conn.start (s : σ) (o : μ) (fs : List (Fault ε)) : Conn σ μ ε := ⟨s, s, o, fs⟩

/-- The fault of the next statement; an exhausted script means no fault. -/
def Conn.fault (c : Conn σ μ ε) : Fault ε := c.faults.headD .none

/-- The connection with the next statement's fault used up. -/
def Conn.next (c : Conn σ μ ε) : Conn σ μ ε := { c with faults := c.faults.tail }

/-! ### Transaction programs -/

/-- A transaction program: it returns or throws, and the connection survives
either way. -/
def Program (σ μ ε α : Type) : Type := Conn σ μ ε → Except ε α × Conn σ μ ε

namespace Program

def pure (a : α) : Program σ μ ε α := fun c => (.ok a, c)

def bind (m : Program σ μ ε α) (f : α → Program σ μ ε β) : Program σ μ ε β := fun c =>
  match m c with
  | (.ok a, c') => f a c'
  | (.error e, c') => (.error e, c')

instance : Monad (Program σ μ ε) where
  pure := Program.pure
  bind := Program.bind

end Program

/-- One statement of the open transaction.  A statement that violates a
constraint of the store throws and has no effect. -/
def exec (f : σ → Except ε (α × σ)) : Program σ μ ε α := fun c =>
  match c.fault, f c.working with
  | .none, .ok (a, w) => (.ok a, { c.next with working := w })
  | .none, .error e => (.error e, c.next)
  | .before e, _ => (.error e, c.next)
  | .after e, .ok (_, w) => (.error e, { c.next with working := w })
  | .after e, .error _ => (.error e, c.next)

/-- A statement that only reads. -/
def query (f : σ → α) : Program σ μ ε α := exec fun w => .ok (f w, w)

/-- A statement without an effect on the tables (`SET autocommit`). -/
def touch : Program σ μ ε Unit := query fun _ => ()

/-- Make the working state visible. -/
def commit : Program σ μ ε Unit := fun c =>
  match c.fault with
  | .none => (.ok (), { c.next with committed := c.working })
  | .before e => (.error e, c.next)
  | .after e => (.error e, { c.next with committed := c.working })

/-- Drop the working state.  It is dropped even when the call throws: the
server rolls back the transaction of a connection it lost. -/
def rollback : Program σ μ ε Unit := fun c =>
  match c.fault with
  | .none => (.ok (), { c.next with working := c.committed })
  | .before e | .after e => (.error e, { c.next with working := c.committed })

/-- A statement in autocommit mode is a transaction of its own. -/
def autoExec (f : σ → Except ε (α × σ)) : Program σ μ ε α := fun c =>
  match c.fault, f c.committed with
  | .none, .ok (a, s) => (.ok a, { c.next with committed := s, working := s })
  | .none, .error e => (.error e, c.next)
  | .before e, _ => (.error e, c.next)
  | .after e, .ok (_, s) => (.error e, { c.next with committed := s, working := s })
  | .after e, .error _ => (.error e, c.next)

/-- Read the out-parameter. -/
def getOut : Program σ μ ε μ := fun c => (.ok c.out, c)

/-- Change the out-parameter. -/
def modifyOut (g : μ → μ) : Program σ μ ε Unit := fun c => (.ok (), { c with out := g c.out })

/-- `try`/`catch`: the handler runs on the connection as the exception left it. -/
def tryCatch (m : Program σ μ ε α) (h : ε → Program σ μ ε α) : Program σ μ ε α := fun c =>
  match m c with
  | (.ok a, c') => (.ok a, c')
  | (.error e, c') => h e c'

/-- Leave the transaction through `commit`. -/
def commitWith (r : α) : Program σ μ ε α := do commit; return r

/-- Leave the transaction through `rollback`. -/
def rollbackWith (r : α) : Program σ μ ε α := do rollback; return r

/-! ### Weakest preconditions -/

/-- The end of a run satisfies `Q` if it returned and `E` if it threw. -/
def EndsIn (Q : α → σ → σ → μ → Prop) (E : σ → μ → Prop) : Except ε α × Conn σ μ ε → Prop
  | (.ok a, c) => Q a c.committed c.working c.out
  | (.error _, c) => E c.committed c.out

/-- `m` returns in `Q` and throws in `E`, whatever the faults are. -/
def wp (m : Program σ μ ε α) (Q : α → σ → σ → μ → Prop) (E : σ → μ → Prop)
    (s w : σ) (o : μ) : Prop :=
  ∀ fs, EndsIn Q E (m ⟨s, w, o, fs⟩)

variable {Q : α → σ → σ → μ → Prop} {E : σ → μ → Prop} {s w : σ} {o : μ}

variable {c : Conn σ μ ε} {fs : List (Fault ε)} {m : Program σ μ ε α} {a : α}
  {f : σ → Except ε (α × σ)}

theorem wp.of_ok (h : wp m Q E s w o) (hm : m ⟨s, w, o, fs⟩ = (.ok a, c)) :
    Q a c.committed c.working c.out := by
  have := h fs
  rw [hm] at this
  exact this

theorem wp_pure (h : Q a s w o) : wp (pure a : Program σ μ ε α) Q E s w o :=
  fun _ => h

theorem wp_bind {m : Program σ μ ε β} {f : β → Program σ μ ε α}
    (h : wp m (fun b => wp (f b) Q E) E s w o) : wp (m >>= f) Q E s w o := by
  intro fs
  have hm := h fs
  show EndsIn Q E (Program.bind m f ⟨s, w, o, fs⟩)
  unfold Program.bind
  rcases e : m ⟨s, w, o, fs⟩ with ⟨r | b, c⟩
  · rw [e] at hm
    exact hm
  · rw [e] at hm
    exact hm c.faults

theorem wp_ite {c : Prop} [Decidable c] {m' : Program σ μ ε α} (h : c → wp m Q E s w o)
    (h' : ¬c → wp m' Q E s w o) : wp (if c then m else m') Q E s w o := by
  split
  · exact h ‹_›
  · exact h' ‹_›

theorem wp_mono {Q' : α → σ → σ → μ → Prop} {E' : σ → μ → Prop} (h : wp m Q E s w o)
    (hQ : ∀ a s' w' o', Q a s' w' o' → Q' a s' w' o') (hE : ∀ s' o', E s' o' → E' s' o') :
    wp m Q' E' s w o := by
  intro fs
  have hm := h fs
  rcases e : m ⟨s, w, o, fs⟩ with ⟨r | b, c⟩
  · rw [e] at hm
    exact hE _ _ hm
  · rw [e] at hm
    exact hQ _ _ _ _ hm

theorem wp_exec (hE : E s o) (h : ∀ a w', f w = .ok (a, w') → Q a s w' o) :
    wp (exec f) Q E s w o := by
  intro fs
  unfold exec
  rcases e : (Conn.mk s w o fs).fault with - | e' | e' <;> rcases hf : f w with r | ⟨a, w'⟩
  · exact hE
  · exact h a w' hf
  all_goals exact hE

theorem wp_query {f : σ → α} (hE : E s o) (h : Q (f w) s w o) :
    wp (query f : Program σ μ ε α) Q E s w o := by
  refine wp_exec hE fun a w' hf => ?_
  simp only [Except.ok.injEq, Prod.mk.injEq] at hf
  obtain ⟨rfl, rfl⟩ := hf
  exact h

theorem wp_commit {Q : Unit → σ → σ → μ → Prop} (hE : E s o) (hE' : E w o) (h : Q () w w o) :
    wp (commit : Program σ μ ε Unit) Q E s w o := by
  intro fs
  unfold commit
  rcases e : (Conn.mk s w o fs).fault with - | e' | e'
  · exact h
  · exact hE
  · exact hE'

theorem wp_rollback {Q : Unit → σ → σ → μ → Prop} (hE : E s o) (h : Q () s s o) :
    wp (rollback : Program σ μ ε Unit) Q E s w o := by
  intro fs
  unfold rollback
  rcases e : (Conn.mk s w o fs).fault with - | e' | e'
  · exact h
  · exact hE
  · exact hE

theorem wp_autoExec (hE : E s o) (hE' : ∀ a s', f s = .ok (a, s') → E s' o)
    (h : ∀ a s', f s = .ok (a, s') → Q a s' s' o) : wp (autoExec f) Q E s w o := by
  intro fs
  unfold autoExec
  rcases e : (Conn.mk s w o fs).fault with - | e' | e' <;> rcases hf : f s with r | ⟨a, s'⟩
  · exact hE
  · exact h a s' hf
  · exact hE
  · exact hE
  · exact hE
  · exact hE' a s' hf

theorem wp_getOut {Q : μ → σ → σ → μ → Prop} (h : Q o s w o) :
    wp (getOut : Program σ μ ε μ) Q E s w o := fun _ => h

theorem wp_modifyOut {g : μ → μ} {Q : Unit → σ → σ → μ → Prop} (h : Q () s w (g o)) :
    wp (modifyOut g : Program σ μ ε Unit) Q E s w o := fun _ => h

theorem wp_commitWith (hE : E s o) (hE' : E w o) (h : Q a w w o) :
    wp (commitWith a : Program σ μ ε α) Q E s w o :=
  wp_bind (wp_commit hE hE' (wp_pure h))

theorem wp_rollbackWith (hE : E s o) (h : Q a s s o) :
    wp (rollbackWith a : Program σ μ ε α) Q E s w o :=
  wp_bind (wp_rollback hE (wp_pure h))

/-- A rule for `try`/`catch`: the handler starts from any working state. -/
theorem EndsIn.tryCatch {k : ε → Program σ μ ε α} {F : σ → μ → Prop} (h : EndsIn Q F (m c))
    (hk : ∀ e s' w' o', F s' o' → wp (k e) Q E s' w' o') : EndsIn Q E (tryCatch m k c) := by
  unfold Txn.tryCatch
  rcases e : m c with ⟨r | b, c'⟩
  · rw [e] at h
    exact hk r _ _ _ h c'.faults
  · rw [e] at h
    exact h

theorem wp_tryCatch {k : ε → Program σ μ ε α} {F : σ → μ → Prop} (h : wp m Q F s w o)
    (hk : ∀ e s' w' o', F s' o' → wp (k e) Q E s' w' o') :
    wp (tryCatch m k) Q E s w o := fun fs => (h fs).tryCatch hk

/-! ### What every statement keeps -/

/-- `P` survives the program in both states of the connection, whether it
returns or throws. -/
def Inv (P : σ → Prop) (m : Program σ μ ε α) : Prop :=
  ∀ c, P c.committed → P c.working → P (m c).2.committed ∧ P (m c).2.working

section Inv

variable {P : σ → Prop}

theorem inv_pure (a : α) : Inv P (pure a : Program σ μ ε α) := fun _ hs hw => ⟨hs, hw⟩

theorem inv_bind {m : Program σ μ ε β} {f : β → Program σ μ ε α} (hm : Inv P m)
    (hf : ∀ b, Inv P (f b)) : Inv P (m >>= f) := by
  intro c hs hw
  have h := hm c hs hw
  show P (Program.bind m f c).2.committed ∧ P (Program.bind m f c).2.working
  unfold Program.bind
  rcases e : m c with ⟨r | b, c'⟩
  · rw [e] at h
    exact h
  · rw [e] at h
    exact hf b c' h.1 h.2

theorem inv_ite {p : Prop} [Decidable p] {m m' : Program σ μ ε α} (h : p → Inv P m)
    (h' : ¬p → Inv P m') : Inv P (if p then m else m') := by
  split
  · exact h ‹_›
  · exact h' ‹_›

/-- A statement keeps what it keeps of the table. -/
theorem inv_exec {f : σ → Except ε (α × σ)}
    (h : ∀ w a w', P w → f w = .ok (a, w') → P w') : Inv P (exec f : Program σ μ ε α) := by
  intro c hs hw
  unfold exec
  rcases c.fault with - | e | e <;> rcases hf : f c.working with r | ⟨a, w'⟩
  · exact ⟨hs, hw⟩
  · exact ⟨hs, h _ a w' hw hf⟩
  · exact ⟨hs, hw⟩
  · exact ⟨hs, hw⟩
  · exact ⟨hs, hw⟩
  · exact ⟨hs, h _ a w' hw hf⟩

theorem inv_query (f : σ → α) : Inv P (query f : Program σ μ ε α) := by
  refine inv_exec fun w a w' hw hf => ?_
  simp only [Except.ok.injEq, Prod.mk.injEq] at hf
  exact hf.2 ▸ hw

theorem inv_commit : Inv P (commit : Program σ μ ε Unit) := by
  intro c hs hw
  unfold commit
  rcases c.fault with - | e | e
  · exact ⟨hw, hw⟩
  · exact ⟨hs, hw⟩
  · exact ⟨hw, hw⟩

theorem inv_rollback : Inv P (rollback : Program σ μ ε Unit) := by
  intro c hs hw
  unfold rollback
  rcases c.fault with - | e | e <;> exact ⟨hs, hs⟩

theorem inv_autoExec {f : σ → Except ε (α × σ)}
    (h : ∀ w a w', P w → f w = .ok (a, w') → P w') : Inv P (autoExec f : Program σ μ ε α) := by
  intro c hs hw
  unfold autoExec
  rcases c.fault with - | e | e <;> rcases hf : f c.committed with r | ⟨a, w'⟩
  · exact ⟨hs, hw⟩
  · exact ⟨h _ a w' hs hf, h _ a w' hs hf⟩
  · exact ⟨hs, hw⟩
  · exact ⟨hs, hw⟩
  · exact ⟨hs, hw⟩
  · exact ⟨h _ a w' hs hf, h _ a w' hs hf⟩

theorem inv_getOut : Inv P (getOut : Program σ μ ε μ) := fun _ hs hw => ⟨hs, hw⟩

theorem inv_modifyOut (g : μ → μ) : Inv P (modifyOut g : Program σ μ ε Unit) :=
  fun _ hs hw => ⟨hs, hw⟩

theorem inv_commitWith (a : α) : Inv P (commitWith a : Program σ μ ε α) :=
  inv_bind inv_commit fun _ => inv_pure a

theorem inv_rollbackWith (a : α) : Inv P (rollbackWith a : Program σ μ ε α) :=
  inv_bind inv_rollback fun _ => inv_pure a

/-- A test that ends the transaction. -/
theorem inv_guard {c : Prop} [Decidable c] {a : α} {m : Program σ μ ε α} (h : Inv P m) :
    Inv P (if c then rollbackWith a else m) :=
  inv_ite (fun _ => inv_rollbackWith a) fun _ => h

theorem inv_tryCatch {m : Program σ μ ε α} {k : ε → Program σ μ ε α} (hm : Inv P m)
    (hk : ∀ e, Inv P (k e)) : Inv P (tryCatch m k) := by
  intro c hs hw
  have h := hm c hs hw
  unfold Txn.tryCatch
  rcases e : m c with ⟨r | b, c'⟩
  · rw [e] at h
    exact hk r c' h.1 h.2
  · rw [e] at h
    exact h

end Inv

/-! ### Without faults -/

theorem bind_ok {m : Program σ μ ε β} {f : β → Program σ μ ε α} {c' : Conn σ μ ε} {b : β}
    {r : Except ε α × Conn σ μ ε} (h : m c = (.ok b, c')) (hf : f b c' = r) :
    (m >>= f) c = r := by
  show Program.bind m f c = r
  unfold Program.bind
  rw [h]
  exact hf

theorem exec_calm {w' : σ} (h : f w = .ok (a, w')) :
    exec f (⟨s, w, o, []⟩ : Conn σ μ ε) = (.ok a, ⟨s, w', o, []⟩) := by
  have hfault : (⟨s, w, o, []⟩ : Conn σ μ ε).fault = .none := rfl
  simp [exec, hfault, h, Conn.next]

theorem query_calm {f : σ → α} (h : f w = a) :
    query f (⟨s, w, o, []⟩ : Conn σ μ ε) = (.ok a, ⟨s, w, o, []⟩) :=
  exec_calm (by rw [h])

/-- With this script, an exception that leaves `m` means that nothing has been
committed. -/
def RolledBackOnThrow (m : Program σ μ ε α) (s : σ) (o : μ) (fs : List (Fault ε)) : Prop :=
  ∀ e c, m (Conn.start s o fs) = (.error e, c) → c.committed = s

theorem rolledBackOnThrow_of_ok (h : (m (Conn.start s o fs)).1 = .ok a) :
    RolledBackOnThrow m s o fs := by
  intro e c he
  rw [he] at h
  cases h

theorem EndsIn.rolledBack (h : EndsIn Q E (m (Conn.start s o fs)))
    (hm : RolledBackOnThrow m s o fs) :
    EndsIn Q (fun s' o' => E s' o' ∧ s' = s) (m (Conn.start s o fs)) := by
  rcases e : m (Conn.start s o fs) with ⟨r | b, c⟩
  · rw [e] at h
    exact ⟨h, hm r c e⟩
  · rw [e] at h
    exact h

end Txn

/-
# What runs give

A run that does not stop is described by its result and by the memory that it leaves.  The combinators
and the operations on the memory come first; then calls of functions that take one value.

* `Run.run_located`: a run that is attributed to a line;
* `Gives.bind`, `Gives.located`: one run after another, and one that is attributed to a line;
* `Kept`: the cells of a memory that a run leaves as they are;
* `gives_call`: a call of a name with one argument.
-/
import Mathlib.Tactic.Common
import Mathlib.Tactic.Lemma
import ViewEngine.Script.Eval

namespace ViewEngine.Script

section

variable {α β ε σ : Type} {x : ExceptT ε (StateM σ) α} {f : α → ExceptT ε (StateM σ) β} {s s' : σ}

lemma run_bind_ok {a : α} (h : x.run.run s = (.ok a, s')) :
    (x >>= f).run.run s = (f a).run.run s' := by
  rw [ExceptT.run_bind, StateT.run_bind, h]
  rfl

lemma run_bind_error {e : ε} (h : x.run.run s = (.error e, s')) :
    (x >>= f).run.run s = (.error e, s') := by
  rw [ExceptT.run_bind, StateT.run_bind, h]
  rfl

lemma run_bind_congr {y : ExceptT ε (StateM σ) α} (h : x.run.run s = y.run.run s) :
    (x >>= f).run.run s = (y >>= f).run.run s := by
  rw [ExceptT.run_bind, StateT.run_bind, h, ExceptT.run_bind, StateT.run_bind]

end

namespace Run

variable {α β : Type}

/-! ## Lines of failures -/

/-- A failure without a line is attributed to the given one. -/
def placed (line : Nat) : Stop → Stop
  | .fault f => .fault { f with line := some (f.line.getD line) }
  | .endless => .endless

lemma run_located (line : Nat) (x : Run α) (m : Memory) :
    (located line x).run.run m = ((x.run.run m).1.mapError (placed line), (x.run.run m).2) := by
  unfold located
  simp only [tryCatch, tryCatchThe, MonadExceptOf.tryCatch, ExceptT.tryCatch]
  show (x.run >>= _ : StateM Memory _).run m = _
  rw [StateT.run_bind]
  rcases x.run.run m with ⟨(_ | _) | _, _⟩ <;> rfl

/-- What is attributed to a line as a whole is attributed to it step by step. -/
lemma located_bind (line : Nat) (x : Run α) (f : α → Run β) (m : Memory) :
    (located line (x >>= f)).run.run m =
      (located line x >>= fun a => located line (f a)).run.run m := by
  have hx := run_located line x m
  rw [run_located]
  rcases hrun : x.run.run m with ⟨s | a, m'⟩
  · rw [hrun] at hx
    rw [run_bind_error hrun, run_bind_error hx]
    rfl
  · rw [hrun] at hx
    rw [run_bind_ok hrun, run_bind_ok hx, run_located]

/-! ## Results -/

/-- The run ends with a result and leaves a memory. -/
def Gives (x : Run α) (m : Memory) (a : α) (m' : Memory) : Prop := x.run.run m = (.ok a, m')

namespace Gives

variable {m m' m'' : Memory} {a : α} {b : β}

lemma pure : Gives (pure a) m a m := rfl

/-- One run after another. -/
theorem bind {x : Run α} {f : α → Run β} (hx : Gives x m a m') (hf : Gives (f a) m' b m'') :
    Gives (x >>= f) m b m'' :=
  (run_bind_ok hx).trans hf

/-- The parts of a run that does not stop do not stop either. -/
theorem of_bind {x : Run α} {f : α → Run β} (h : Gives (x >>= f) m b m'') :
    ∃ a m', Gives x m a m' ∧ Gives (f a) m' b m'' := by
  cases hx : x.run.run m with
  | mk r m' =>
    cases r with
    | error s =>
      rw [Gives, run_bind_error hx] at h
      cases h
    | ok a => exact ⟨a, m', hx, (run_bind_ok hx).symm.trans h⟩

/-- A failure would be attributed to a line; there is none. -/
lemma located {x : Run α} (hx : Gives x m a m') (line : Nat) : Gives (located line x) m a m' := by
  rw [Gives, run_located, hx]
  rfl

/-- The same run for every element of a list, none of which changes the memory. -/
lemma mapM {f : α → Run β} {as : List α} {bs : List β}
    (h : List.Forall₂ (fun a b => Gives (f a) m b m) as bs) : Gives (as.mapM f) m bs m := by
  induction h with
  | nil => exact .pure
  | cons ha _ ih =>
    rw [List.mapM_cons]
    exact ha.bind (ih.bind .pure)

end Gives

/-! ## The memory -/

variable {m : Memory} {a : Address}

lemma gives_listAt {vs : List Value} (h : m.cells[a]? = some (.list vs)) :
    Gives (listAt a) m vs m := by
  have hcell : Gives (cell? a) m (some (.list vs)) m := h ▸ rfl
  exact hcell.bind .pure

lemma gives_frameAt {vs : Names Value} (h : m.cells[a]? = some (.frame vs)) :
    Gives (frameAt a) m vs m := by
  have hcell : Gives (cell? a) m (some (.frame vs)) m := h ▸ rfl
  exact hcell.bind .pure

lemma gives_iterationAt {i : Iteration} (h : m.cells[a]? = some (.iterator i)) :
    Gives (iterationAt a) m i m := by
  have hcell : Gives (cell? a) m (some (.iterator i)) m := h ▸ rfl
  exact hcell.bind .pure

lemma gives_store (c : Cell) :
    Gives (store a c) m () { m with cells := m.cells.setIfInBounds a c } := rfl

lemma gives_alloc (c : Cell) :
    Gives (alloc c) m m.cells.size { m with cells := m.cells.push c } := rfl

lemma gives_write (t : Text) : Gives (write t) m () { m with output := t :: m.output } := rfl

lemma gives_newText (t : Text) :
    ∃ i k, Gives (newText t) m (.text i t) { m with marks := k } := by
  unfold newText
  split
  · exact ⟨.common, m.marks, rfl⟩
  · exact ⟨.own m.marks, m.marks + 1, rfl⟩

lemma gives_pieceOf (t : Text) :
    ∃ i k, Gives (pieceOf t) m (.text i t) { m with marks := k } := by
  unfold pieceOf
  split
  · split
    · exact ⟨.drawn, m.marks, rfl⟩
    · split
      · exact ⟨.common, m.marks, rfl⟩
      · exact gives_newText _
  · exact gives_newText t

lemma gives_newInt (n : Int) : ∃ i k, Gives (newInt n) m (.int i n) { m with marks := k } := by
  unfold newInt
  split
  · exact ⟨.common, m.marks, rfl⟩
  · exact ⟨.own m.marks, m.marks + 1, rfl⟩

/-! ## Cells that stay as they are -/

/-- All cells are kept but those at some addresses; others may be added. -/
structure Kept (p : Address → Prop) (m m' : Memory) : Prop where
  grows : m.cells.size ≤ m'.cells.size
  same : ∀ a < m.cells.size, ¬ p a → m'.cells[a]? = m.cells[a]?

namespace Kept

variable {p q : Address → Prop} {m m' m'' : Memory}

lemma refl : Kept p m m := ⟨Nat.le_refl _, fun _ _ _ => rfl⟩

lemma of_cells (h : m'.cells = m.cells) : Kept p m m' :=
  ⟨Nat.le_of_eq (congrArg Array.size h.symm), fun a _ _ => by rw [h]⟩

lemma trans (h : Kept p m m') (h' : Kept p m' m'') : Kept p m m'' where
  grows := Nat.le_trans h.grows h'.grows
  same a ha hp := (h'.same a (Nat.lt_of_lt_of_le ha h.grows) hp).trans (h.same a ha hp)

/-- What happens to cells that were not there does not matter. -/
lemma mono (h : Kept p m m') (hpq : ∀ a < m.cells.size, p a → q a) : Kept q m m' where
  grows := h.grows
  same a ha hq := h.same a ha fun hp => hq (hpq a ha hp)

lemma alloc (c : Cell) : Kept p m { m with cells := m.cells.push c } where
  grows := by
    show m.cells.size ≤ (m.cells.push c).size
    rw [Array.size_push]
    exact Nat.le_succ _
  same a ha _ := by
    show (m.cells.push c)[a]? = m.cells[a]?
    rw [Array.getElem?_push_lt ha, Array.getElem?_eq_getElem ha]

lemma store (c : Cell) (hp : p a) : Kept p m { m with cells := m.cells.setIfInBounds a c } where
  grows := by
    show m.cells.size ≤ (m.cells.setIfInBounds a c).size
    exact Nat.le_of_eq Array.size_setIfInBounds.symm
  same b _ hb := by
    have hne : a ≠ b := by
      rintro rfl
      exact hb hp
    exact Array.getElem?_setIfInBounds_ne hne

end Kept

end Run

/-! ## Iterations -/

open Run (Gives)

section

variable {m : Memory} {it a : Address} {vs : List Value} {i : Nat}

/-- The iteration over a list begins in a new cell. -/
lemma gives_iterate_list (a : Address) :
    Gives (iterate (.list a)) m m.cells.size
      { m with cells := m.cells.push (.iterator (.list a 0)) } :=
  Gives.bind (a := some (.list a 0)) .pure (Run.gives_alloc _)

/-- An iteration over a list takes the next item. -/
lemma gives_next_some {v : Value} (hit : m.cells[it]? = some (.iterator (.list a i)))
    (hlist : m.cells[a]? = some (.list vs)) (hv : vs[i]? = some v) :
    Gives (next it) m (some v)
      { m with cells := m.cells.setIfInBounds it (.iterator (.list a (i + 1))) } := by
  have hroom : recursionLimit = 999 + 1 := rfl
  rw [next, hroom, nextWithin]
  refine (Run.gives_iterationAt hit).bind ((Run.gives_listAt hlist).bind ?_)
  rw [hv]
  exact (Run.gives_store _).bind .pure

/-- An iteration over a list ends behind the last item. -/
lemma gives_next_none (hit : m.cells[it]? = some (.iterator (.list a i)))
    (hlist : m.cells[a]? = some (.list vs)) (hv : vs[i]? = none) :
    Gives (next it) m none
      { m with cells := m.cells.setIfInBounds it (.iterator (.values [])) } := by
  have hroom : recursionLimit = 999 + 1 := rfl
  rw [next, hroom, nextWithin]
  refine (Run.gives_iterationAt hit).bind ((Run.gives_listAt hlist).bind ?_)
  rw [hv]
  exact (Run.gives_store _).bind .pure

end

/-! ## Names and calls -/

variable {c : Context} {m m' m'' : Memory}

lemma gives_valueOf {vs : Names Value} {id : Text} {v : Value} (hscopes : c.scopes = [])
    (hframe : m.cells[c.globals]? = some (.frame vs)) (hv : vs.find? id = some v) (line : Nat) :
    Gives (eval c (.name line id)) m v m := by
  have hglobal : Gives (c.valueOf id) m v m := by
    unfold Context.valueOf
    rw [hscopes]
    refine Gives.bind (a := none) .pure ?_
    refine (Run.gives_frameAt hframe).bind ?_
    rw [hv]
    exact .pure
  rw [eval]
  exact hglobal.located line

/-- A call of a name with one argument. -/
lemma gives_call {line l : Nat} {id : Text} {e : Expr} {f v r : Value}
    (hf : Gives (eval c (.name l id)) m f m) (he : Gives (eval c e) m v m')
    (hcall : Gives (c.call f { plain := [v] }) m' r m'') :
    Gives (eval c (.call line (.name l id) [.plain e])) m r m'' := by
  have hplain : Gives (evalPlain c line false [.plain e]) m [v] m' := by
    rw [evalPlain]
    refine he.bind ?_
    rw [evalPlain]
    exact .pure
  have hnamed : Gives (evalNamed c [.plain e]) m' [] m' := by
    rw [evalNamed, evalNamed]
    exact .pure
  have halone : isAlone [.plain e] = false := rfl
  rw [eval]
  refine hf.bind ?_
  simp only [halone]
  refine hplain.bind (hnamed.bind (.located ?_ line))
  exact Gives.bind (a := [v]) .pure hcall

/-- A call of a helper that the host provides. -/
lemma gives_helper {id : Text} {h : Helper} {a : Arguments} {v : Value}
    (hfind : findHelper c.helpers id = some h) (hrun : Gives (h.call a) m v m') :
    Gives (c.call (.helper id) a) m v m' := by
  unfold Context.call Context.call.callPlain
  simp only [hfind]
  exact hrun

/-- The function that adds to the output takes one value. -/
lemma gives_output {v : Value} (h : Gives (writeValue v) m () m') :
    Gives (c.call .output { plain := [v] }) m .none m' := by
  have hbind : Gives (Signature.bind outputName outputSignature { plain := [v] }) m
      [("value".toList, v)] m := rfl
  exact hbind.bind (h.bind .pure)

end ViewEngine.Script

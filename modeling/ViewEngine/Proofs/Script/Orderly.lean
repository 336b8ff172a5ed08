/-
# Runs whose failures can be told

A failure is told at the line of the view that the failing code comes from.  For that the operations
of the language have to be orderly: they leave the names of the script alone, so that the output can
still be found, and a failure of theirs has a text and no line of its own.

* `Run.Orderly`: runs of that kind, whatever memory they begin with;
* `Orderly.bind`, `Orderly.fail`, …: the combinators;
* `orderly_next`: taking the next element of an iteration;
* `orderly_plain`: the text of a value.
-/
import Mathlib.Tactic.Common
import Mathlib.Tactic.Lemma
import ViewEngine.Proofs.Script.Running

namespace ViewEngine.Script

/-! ## Memories and failures -/

/-- The names of scopes are as they were; other cells may have changed, and some may be new. -/
structure NamesKept (m m' : Memory) : Prop where
  grows : m.cells.size ≤ m'.cells.size
  frames : ∀ a < m.cells.size, ∀ vs,
    m'.cells[a]? = some (.frame vs) ↔ m.cells[a]? = some (.frame vs)

namespace NamesKept

variable {m m' m'' : Memory} {a : Address}

lemma refl (m : Memory) : NamesKept m m := ⟨Nat.le_refl _, fun _ _ _ => Iff.rfl⟩

lemma trans (h : NamesKept m m') (h' : NamesKept m' m'') : NamesKept m m'' where
  grows := Nat.le_trans h.grows h'.grows
  frames a ha vs := (h'.frames a (Nat.lt_of_lt_of_le ha h.grows) vs).trans (h.frames a ha vs)

lemma of_kept (h : Run.Kept (fun _ => False) m m') : NamesKept m m' where
  grows := h.grows
  frames a ha vs := by rw [h.same a ha id]

lemma of_cells (h : m'.cells = m.cells) : NamesKept m m' := of_kept (.of_cells h)

/-- The cell of an iteration is none of a scope. -/
lemma store (ha : ∀ vs, m.cells[a]? ≠ some (.frame vs)) (i : Iteration) :
    NamesKept m { m with cells := m.cells.setIfInBounds a (.iterator i) } where
  grows := Nat.le_of_eq Array.size_setIfInBounds.symm
  frames b hb vs := by
    show (m.cells.setIfInBounds a (.iterator i))[b]? = _ ↔ _
    by_cases hab : a = b
    · subst hab
      rw [Array.getElem?_setIfInBounds_self_of_lt hb]
      constructor
      · intro h
        cases h
      · exact fun h => absurd h (ha vs)
    · rw [Array.getElem?_setIfInBounds_ne hab]

end NamesKept

/-- The failure has no line yet, and it has a text. -/
structure Fault.Told (m : Memory) (f : Fault) : Prop where
  unplaced : f.line = none
  text : ∃ t, ((f.text Value.plain).run.run m).1 = .ok t

/-- The text of a failure with a message. -/
lemma told_message (kind : FaultKind) (i : Identity) (t : Text) (m : Memory) :
    Fault.Told m { kind, arguments := [.text i t] } where
  unplaced := rfl
  text := by cases kind <;> exact ⟨_, rfl⟩

/-- A failure without arguments has the empty text. -/
lemma told_bare (kind : FaultKind) (m : Memory) : Fault.Told m { kind, arguments := [] } where
  unplaced := rfl
  text := by cases kind <;> exact ⟨_, rfl⟩

/-! ## Orderly runs -/

namespace Run

variable {α β : Type}

/-- From a memory on, the run keeps the names of scopes, and a failure of it can be told. -/
structure OrderlyAt (m : Memory) (x : Run α) : Prop where
  kept : NamesKept m (x.run.run m).2
  told : ∀ f, (x.run.run m).1 = .error (.fault f) → f.Told (x.run.run m).2

/-- The run keeps the names of scopes, and a failure of it can be told. -/
def Orderly (x : Run α) : Prop := ∀ m, OrderlyAt m x

namespace OrderlyAt

variable {m m' : Memory} {x : Run α} {f : α → Run β} {a : α}

lemma of_gives (h : Gives x m a m') (hkept : NamesKept m m') : OrderlyAt m x where
  kept := by
    rw [h]
    exact hkept
  told g hg := by
    rw [h] at hg
    cases hg

/-- One run after another. -/
theorem bind (hx : OrderlyAt m x)
    (hf : ∀ a m', Gives x m a m' → NamesKept m m' → OrderlyAt m' (f a)) : OrderlyAt m (x >>= f) := by
  obtain ⟨hkept, htold⟩ := hx
  cases hrun : x.run.run m with
  | mk r m₁ =>
    rw [hrun] at hkept htold
    cases r with
    | error s =>
      have hall := run_bind_error (f := f) hrun
      refine ⟨by rw [hall]; exact hkept, fun g hg => ?_⟩
      rw [hall] at hg ⊢
      cases hg
      exact htold g rfl
    | ok a =>
      have hall := run_bind_ok (f := f) hrun
      obtain ⟨hkept', htold'⟩ := hf a m₁ hrun hkept
      exact ⟨by rw [hall]; exact hkept.trans hkept', by rw [hall]; exact htold'⟩

/-- A run behind one that only looks. -/
lemma after (hx : Gives x m a m) (hf : OrderlyAt m (f a)) : OrderlyAt m (x >>= f) := by
  have hall := run_bind_ok (f := f) hx
  exact ⟨by rw [hall]; exact hf.kept, by rw [hall]; exact hf.told⟩

end OrderlyAt

namespace Orderly

variable {x : Run α} {f : α → Run β} {a : α}

lemma pure (a : α) : Orderly (pure a) := fun m => .of_gives .pure (.refl m)

theorem bind (hx : Orderly x) (hf : ∀ a, Orderly (f a)) : Orderly (x >>= f) :=
  fun m => (hx m).bind fun a m' _ _ => hf a m'

/-- A choice between two runs. -/
lemma ite {c : Prop} [Decidable c] {y : Run α} (hx : Orderly x) (hy : Orderly y) :
    Orderly (if c then x else y) := by
  split
  · exact hx
  · exact hy

lemma raise (kind : FaultKind) : Orderly (Run.raise kind [] : Run α) := fun m =>
  ⟨.refl m, fun _ h => by cases h; exact told_bare kind m⟩

lemma newText (t : Text) : Orderly (Run.newText t) := by
  intro m
  obtain ⟨i, k, hrun⟩ := gives_newText (m := m) t
  exact .of_gives hrun (.of_cells rfl)

/-- A failure with a message. -/
lemma fail (kind : FaultKind) (message : Text) : Orderly (Run.fail kind message : Run α) := by
  intro m
  obtain ⟨i, k, hrun⟩ := gives_newText (m := m) message
  refine (newText message m).bind fun v m' hv _ => ?_
  have heq : v = .text i message := by
    rw [Gives, hrun] at hv
    cases hv
    rfl
  subst heq
  exact ⟨.refl m', fun _ h => by cases h; exact told_message kind i message m'⟩

lemma mark : Orderly Run.mark := by
  intro m
  have hrun : Gives Run.mark m (.own m.marks) { m with marks := m.marks + 1 } := rfl
  exact .of_gives hrun (.of_cells rfl)

lemma pieceOf (t : Text) : Orderly (Run.pieceOf t) := by
  intro m
  obtain ⟨i, k, hrun⟩ := gives_pieceOf (m := m) t
  exact .of_gives hrun (.of_cells rfl)

lemma newInt (n : Int) : Orderly (Run.newInt n) := by
  intro m
  obtain ⟨i, k, hrun⟩ := gives_newInt (m := m) n
  exact .of_gives hrun (.of_cells rfl)

lemma newTuple (vs : List Value) : Orderly (Run.newTuple vs) := by
  unfold Run.newTuple
  split
  · exact pure _
  · exact mark.bind fun i => pure _

lemma alloc (c : Cell) : Orderly (Run.alloc c) := fun _ =>
  .of_gives (gives_alloc c) (.of_kept (.alloc c))

lemma write (t : Text) : Orderly (Run.write t) := fun _ => .of_gives (gives_write t) (.of_cells rfl)

/-- The same run for every element of a list. -/
lemma mapM {f : α → Run β} (hf : ∀ a, Orderly (f a)) (as : List α) : Orderly (as.mapM f) := by
  induction as with
  | nil => exact pure []
  | cons a as ih =>
    rw [List.mapM_cons]
    exact (hf a).bind fun b => ih.bind fun bs => pure _

end Orderly

/-! ### Runs that only look -/

/-- The run gives something and leaves the memory as it is. -/
def Looks (x : Run α) : Prop := ∀ m, ∃ a, Gives x m a m

namespace Looks

variable {x : Run α} {f : α → Run β}

lemma pure (a : α) : Looks (pure a) := fun _ => ⟨a, .pure⟩

lemma bind (hx : Looks x) (hf : ∀ a, Looks (f a)) : Looks (x >>= f) := by
  intro m
  obtain ⟨a, ha⟩ := hx m
  obtain ⟨b, hb⟩ := hf a m
  exact ⟨b, ha.bind hb⟩

lemma orderly (h : Looks x) : Orderly x := by
  intro m
  obtain ⟨a, ha⟩ := h m
  exact .of_gives ha (.refl m)

end Looks

section

variable (a : Address)

lemma looks_cell? : Looks (cell? a) := fun m => ⟨m.cells[a]?, rfl⟩

lemma looks_listAt : Looks (listAt a) := (looks_cell? a).bind fun c => by split <;> exact .pure _

lemma looks_dictAt : Looks (dictAt a) := (looks_cell? a).bind fun c => by split <;> exact .pure _

lemma looks_frameAt : Looks (frameAt a) := (looks_cell? a).bind fun c => by split <;> exact .pure _

lemma looks_faultAt : Looks (faultAt a) := (looks_cell? a).bind fun c => by split <;> exact .pure _

lemma looks_iterationAt : Looks (iterationAt a) :=
  (looks_cell? a).bind fun c => by split <;> exact .pure _

lemma looks_thingAt : Looks (thingAt a) := (looks_cell? a).bind fun c => by split <;> exact .pure _

end

end Run

open Run (Looks Orderly OrderlyAt looks_cell? looks_listAt looks_dictAt looks_frameAt looks_faultAt
  looks_iterationAt looks_thingAt)

/-! ## Texts of values -/

lemma looks_typeName (v : Value) : Looks v.typeName := by
  cases v with
  | object a => exact (looks_thingAt a).bind fun _ => .pure _
  | iterator a => exact (looks_iterationAt a).bind fun i => by cases i <;> exact .pure _
  | fault a => exact (looks_faultAt a).bind fun _ => .pure _
  | dictView i p a => cases p <;> exact .pure _
  | native f => cases f <;> exact .pure _
  | _ => exact .pure _

lemma orderly_tooDeep {α : Type} (activity : Text) : Orderly (tooDeep activity : Run α) :=
  .fail _ _

lemma orderly_intText (n : Int) : Orderly (Number.intText n) := by
  unfold Number.intText
  exact .ite (.pure _) (.fail _ _)

lemma orderly_rangeText (start stop step : Int) : Orderly (rangeText start stop step) := by
  refine (orderly_intText start).bind fun _ => (orderly_intText stop).bind fun _ => ?_
  split
  · exact .pure _
  · exact (orderly_intText step).bind fun _ => .pure _

lemma looks_errorText (e : ViewError) : Looks (errorText e) := fun _ => ⟨_, rfl⟩

lemma orderly_dictPart (p : DictPart) (e : Value × Value) : Orderly (p.of e) := by
  cases p with
  | items => exact .newTuple _
  | keys => exact .pure _
  | values => exact .pure _

lemma orderly_quotedWithin (room : Nat) (active : List Value) (v : Value) :
    Orderly (quotedWithin room active v) := by
  induction room generalizing active v with
  | zero => exact orderly_tooDeep _
  | succ n ih =>
    have hinside := fun (around : Value) (vs : List Value) =>
      Orderly.mapM (fun w => ih (around :: active) w) vs
    unfold quotedWithin
    cases v with
    | int i k => exact orderly_intText k
    | tuple i vs => exact Orderly.ite (.pure _) ((hinside _ vs).bind fun _ => .pure _)
    | range i a b s => exact orderly_rangeText a b s
    | list a =>
      refine .ite (.pure _) ((looks_listAt a).orderly.bind fun vs => ?_)
      exact (hinside _ vs).bind fun _ => .pure _
    | dict a =>
      refine .ite (.pure _) ((looks_dictAt a).orderly.bind fun es => ?_)
      refine Orderly.bind (.mapM (fun e => ?_) es) fun _ => .pure _
      exact (ih _ e.1).bind fun _ => (ih _ e.2).bind fun _ => .pure _
    | object a =>
      refine (looks_thingAt a).orderly.bind fun thing => ?_
      split
      · exact .pure _
      · exact (looks_thingAt a).orderly.bind fun _ => .pure _
    | function a =>
      refine (looks_cell? a).orderly.bind fun cell => ?_
      split <;> exact .pure _
    | iterator a => exact (looks_typeName _).orderly.bind fun _ => .pure _
    | dictView i p a =>
      refine .ite (.pure _) ((looks_dictAt a).orderly.bind fun es => ?_)
      refine Orderly.bind (.mapM (fun e => ?_) es) fun _ => .pure _
      exact (orderly_dictPart p e).bind fun w => ih _ w
    | fault a =>
      refine (looks_faultAt a).orderly.bind fun f => ?_
      split
      · exact (looks_errorText _).orderly.bind fun _ => .pure _
      · exact (hinside _ f.arguments).bind fun _ => .pure _
    | _ => exact .pure _

lemma orderly_faultText (f : Fault) {plain : Value → Run Text} (h : ∀ v, Orderly (plain v)) :
    Orderly (f.text plain) := by
  unfold Fault.text
  split
  · exact (looks_errorText _).orderly
  · exact orderly_quotedWithin _ _ _
  · exact .pure _
  · exact h _
  · exact (Orderly.mapM (fun v => orderly_quotedWithin _ _ v) _).bind fun _ => .pure _

/-- The text of a value. -/
theorem orderly_plain (v : Value) : Orderly v.plain := by
  have hroom : ∀ room w, Orderly (plainWithin room w) := by
    intro room
    induction room with
    | zero => exact fun w => orderly_tooDeep _
    | succ n ih =>
      intro w
      cases w with
      | text i t => exact .pure t
      | object a =>
        refine (looks_thingAt a).orderly.bind fun thing => ?_
        unfold Thing.text
        split
        · exact .pure _
        · exact .fail _ _
      | fault a => exact (looks_faultAt a).orderly.bind fun f => orderly_faultText f ih
      | _ => exact orderly_quotedWithin _ _ _
  exact hroom recursionLimit v

/-! ## Iterations -/

lemma orderly_characters (t : Text) : Orderly (characters t) := .mapM (fun _ => .pieceOf _) t

lemma orderly_iterationOf? (v : Value) : Orderly (iterationOf? v) := by
  cases v with
  | text i t => exact (orderly_characters t).bind fun _ => .pure _
  | dict a => exact (looks_dictAt a).orderly.bind fun _ => .pure _
  | dictView i p a => exact (looks_dictAt a).orderly.bind fun _ => .pure _
  | _ => exact .pure _

lemma orderly_notIterable {α : Type} (v : Value) : Orderly (notIterable v : Run α) :=
  (looks_typeName v).orderly.bind fun _ => .fail _ _

theorem orderly_iterate (v : Value) : Orderly (iterate v) := by
  unfold iterate
  split
  · exact .pure _
  · refine (orderly_iterationOf? _).bind fun i => ?_
    split
    · exact .alloc _
    · exact orderly_notIterable _

section

variable {next : Address → Run (Option Value)} (hnext : ∀ a, Orderly (next a))

include hnext

lemma orderly_demandEnded (place : Nat) (as : List Address) :
    Orderly (demandEnded next place as) := by
  induction as generalizing place with
  | nil => exact .pure _
  | cons a as ih =>
    refine (hnext a).bind fun v => ?_
    split
    · exact ih _
    · exact .fail _ _

lemma orderly_takeEach (strict : Bool) (place : Nat) (as : List Address) :
    Orderly (takeEach next strict place as) := by
  induction as generalizing place with
  | nil => exact .pure _
  | cons a as ih =>
    refine (hnext a).bind fun v => ?_
    split
    · split
      · split
        · exact (orderly_demandEnded hnext _ _).bind fun _ => .pure _
        · exact Orderly.bind (.fail _ _) fun _ => .pure _
      · exact .pure _
    · refine (ih _).bind fun vs => ?_
      split <;> exact .pure _

end

/-- What is found where an iteration is looked for. -/
lemma gives_iterationAt_cases (a : Address) (m : Memory) :
    (∃ i, m.cells[a]? = some (.iterator i) ∧ Run.Gives (Run.iterationAt a) m i m) ∨
      Run.Gives (Run.iterationAt a) m (.values []) m := by
  have hcell : Run.Gives (Run.cell? a) m m.cells[a]? m := rfl
  cases hc : m.cells[a]? with
  | none => exact .inr ((hc ▸ hcell).bind .pure)
  | some c =>
    cases c with
    | iterator i => exact .inl ⟨i, rfl, (hc ▸ hcell).bind .pure⟩
    | _ => exact .inr ((hc ▸ hcell).bind .pure)

/-- The state of an iteration is replaced by another one. -/
lemma orderlyAt_store {m m' : Memory} {a : Address} {i : Iteration}
    (h : m.cells[a]? = some (.iterator i)) (hkept : NamesKept m m') (j : Iteration) :
    OrderlyAt m' (Run.store a (.iterator j)) := by
  refine .of_gives (Run.gives_store _) (.store (fun vs hvs => ?_) j)
  have ha : a < m.cells.size := (Array.getElem?_eq_some_iff.1 h).1
  rw [hkept.frames a ha, h] at hvs
  cases hvs

lemma orderly_nextWithin (room : Nat) (a : Address) : Orderly (nextWithin room a) := by
  induction room generalizing a with
  | zero => exact orderly_tooDeep _
  | succ n ih =>
    intro m
    rw [nextWithin]
    rcases gives_iterationAt_cases a m with ⟨i, hcell, hgives⟩ | hgives
    · refine .after hgives ?_
      -- the cell still is no scope's when the iteration moves on, whatever was done before
      have hstore : ∀ {m'} {x : Run (Option Value)}, NamesKept m m' → Orderly x → ∀ j,
          OrderlyAt m' (Run.store a (.iterator j) >>= fun _ => x) := fun hkept hx j =>
        (orderlyAt_store hcell hkept j).bind fun _ m' _ _ => hx m'
      cases i with
      | list c k =>
        refine ((looks_listAt c).orderly m).bind fun vs m' _ hkept => ?_
        split
        · exact hstore hkept (.pure _) _
        · exact hstore hkept (.pure _) _
      | values rest =>
        cases rest with
        | nil => exact Orderly.pure _ m
        | cons v vs => exact hstore (.refl m) (.pure _) _
      | numbers next stop step =>
        dsimp only
        split
        · exact Orderly.pure _ m
        · exact hstore (.refl m) ((Orderly.newInt _).bind fun _ => .pure _) _
      | dict p c next size =>
        refine ((looks_dictAt c).orderly m).bind fun es m' _ hkept => ?_
        split
        · exact Orderly.fail _ _ m'
        · split
          · exact hstore hkept ((orderly_dictPart p _).bind fun _ => .pure _) _
          · exact Orderly.pure _ m'
      | numbered inner next =>
        refine (ih inner m).bind fun v m' _ hkept => ?_
        split
        · exact hstore hkept ((Orderly.newInt _).bind fun _ => (Orderly.newTuple _).bind fun _ =>
            .pure _) _
        · exact Orderly.pure _ m'
      | together strict inner =>
        cases inner with
        | nil => exact Orderly.pure _ m
        | cons b bs =>
          refine Orderly.bind (orderly_takeEach ih strict 0 (b :: bs)) (fun vs => ?_) m
          split
          · exact (Orderly.newTuple _).bind fun _ => .pure _
          · exact .pure _
    · exact .after hgives (Orderly.pure _ m)

/-- Taking the next element of an iteration. -/
theorem orderly_next (a : Address) : Orderly (next a) := orderly_nextWithin _ a

/-! ## Looking at values -/

lemma looks_length? (v : Value) : Looks (length? v) := by
  cases v with
  | list a => exact (looks_listAt a).bind fun _ => .pure _
  | dict a => exact (looks_dictAt a).bind fun _ => .pure _
  | dictView i p a => exact (looks_dictAt a).bind fun _ => .pure _
  | _ => exact .pure _

/-- How many rounds a loop may have is read off the value. -/
lemma looks_roundsOver (v : Value) : Looks (roundsOver v) := (looks_length? v).bind fun _ => .pure _

/-- A value counts as true or not, and nothing happens to it. -/
lemma looks_isTrue (v : Value) : Looks (isTrue v) := by
  unfold isTrue
  split
  · exact .pure _
  · split
    · exact .pure _
    · exact (looks_length? v).bind fun _ => .pure _

/-! ## Output -/

lemma orderly_writeValue (v : Value) : Orderly (writeValue v) := by
  have hwrite : Orderly (do Run.write (← v.plain)) := (orderly_plain v).bind fun t => .write t
  cases v with
  | none => exact .pure _
  | _ => exact hwrite

/-! ## Values of parameters -/

lemma orderly_assignAll (function : Text) (named : Names Value) (f : Signature.Filled) :
    Orderly (Signature.assignAll function named f) := by
  induction named generalizing f with
  | nil => exact .pure _
  | cons e named ih =>
    unfold Signature.assignAll
    split
    · exact ih _
    · exact .fail _ _
    · exact .fail _ _

/-- The parameters of a function get their values. -/
lemma orderly_signature (function : Text) (s : Signature) (a : Arguments) :
    Orderly (s.bind function a) := by
  refine (orderly_assignAll function a.named _).bind fun filled => ?_
  exact .ite (.fail _ _) (.ite (.pure _) (.fail _ _))

end ViewEngine.Script

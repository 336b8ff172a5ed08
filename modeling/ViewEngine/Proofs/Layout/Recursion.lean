/-
# Circular and deep references

A view refers to its parent, and the parts of a view refer to their particles, whose texts refer to
particles again.  This file says which paths of references resolution follows, and that the two
errors of the recursion tell of nothing else: a circle that is reported is there, a depth that is
reported is reached, and where the paths neither repeat a name nor grow too long there is no such
error.

* `ExpandsTo.justified`, `ResolvesTo.justified`: what an error of the recursion tells;
* `recursion_errors_exact`: the errors of a view that is resolved from the store.
-/
import Mathlib.Data.List.Chain
import Mathlib.Data.List.Nodup
import ViewEngine.Proofs.Layout.Directive
import ViewEngine.Proofs.Layout.Rules

namespace ViewEngine.Layout

section

variable (ask : Ask)

/-! ## Paths of references -/

/-- The view `a` names `b` as its parent. -/
def ParentLink (a b : Text) : Prop := ∃ s, ask a = .ok s ∧ (dependencies s).parent = some b

/-- A part of a view that is put together for the view itself: the body of a view without a parent,
a section of one with a parent. -/
def IsPart (s t : Text) : Prop :=
  (dependencies s).parent = none ∧ t = (dependencies s).body ∨
    (dependencies s).parent ≠ none ∧ ∃ n, (dependencies s).find? n = some t

/-- A part of the view `a` names `b` as a particle. -/
def PartLink (a b : Text) : Prop :=
  ∃ s t, ask a = .ok s ∧ IsPart s t ∧ b ∈ Text.findAll particle? t

/-- The text of the view `a` names `b` as a particle. -/
def ParticleLink (a b : Text) : Prop := ∃ s, ask a = .ok s ∧ b ∈ Text.findAll particle? s

/-- A path of particles: the first view names the second in one of its parts, and each of the others
names the next anywhere in its text. -/
def ParticlePath (path : List Text) : Prop :=
  (∀ a b, [a, b] <+: path → PartLink ask a b) ∧ path.tail.IsChain (ParticleLink ask)

/-- A path that resolving the view `name` may follow: one of parents from the view itself, or one of
particles from the view or from one of its ancestors. -/
def Reference (name : Text) (path : List Text) : Prop :=
  path.head? = some name ∧ path.IsChain (ParentLink ask) ∨
    ∃ v, Relation.ReflTransGen (ParentLink ask) name v ∧ path.head? = some v ∧
      ParticlePath ask path

/-- What an error of the recursion tells about the references of a view. -/
def Justified (limit : Int) (name : Text) : ResolveFault → Prop
  | .store _ => True
  | .circular stack n =>
      Reference ask name (stack ++ [n]) ∧ n ∈ stack ∧ stack.Nodup ∧ stack.length ≤ limit
  | .tooDeep l stack n =>
      l = limit ∧ Reference ask name (stack ++ [n]) ∧ (stack ++ [n]).Nodup ∧ stack.length = limit

end

variable {ask : Ask} {limit : Int} {name : Text}

/-- A path of particles goes on with a particle of its last view. -/
lemma ParticlePath.snoc {stack : List Text} {n m : Text} (hne : stack ≠ [])
    (h : ParticlePath ask (stack ++ [n])) (hlink : ParticleLink ask n m) :
    ParticlePath ask (stack ++ [n] ++ [m]) := by
  obtain ⟨hfirst, hchain⟩ := h
  obtain ⟨v, stack, rfl⟩ := List.exists_cons_of_ne_nil hne
  constructor
  · intro a b hab
    -- the first two views of the longer path are those of the shorter one
    refine hfirst a b (List.prefix_of_prefix_length_le hab (List.prefix_append _ _) ?_)
    simp
  · rw [List.cons_append, List.cons_append, List.tail_cons, List.isChain_append]
    refine ⟨hchain, List.isChain_singleton m, ?_⟩
    intro x hx y hy
    simp at hx hy
    rw [← hx, ← hy]
    exact hlink

/-- A view and a particle of one of its parts are a path. -/
lemma ParticlePath.pair {v n : Text} (h : PartLink ask v n) : ParticlePath ask ([v] ++ [n]) := by
  constructor
  · intro a b hab
    have heq : [a, b] = [v, n] := hab.eq_of_length rfl
    cases heq
    exact h
  · exact List.isChain_singleton n

lemma nodup_snoc {stack : List Text} {n : Text} (h : stack.Nodup) (hn : n ∉ stack) :
    (stack ++ [n]).Nodup := by
  rw [List.nodup_append]
  refine ⟨h, List.nodup_singleton n, ?_⟩
  rintro a ha b hb rfl
  exact hn (List.mem_singleton.mp hb ▸ ha)

/-- The state in which the pieces of a text are put together: the stack is a path of particles that
begins at the view or at one of its ancestors, and each particle of the pieces goes on with it. -/
structure Inside (ask : Ask) (limit : Int) (name : Text) (stack : List Text)
    (ps : List (Text.Piece Text)) : Prop where
  /-- The stack begins where resolution may be. -/
  start : ∃ v, Relation.ReflTransGen (ParentLink ask) name v ∧ stack.head? = some v
  /-- No name is on the stack twice. -/
  nodup : stack.Nodup
  /-- The stack has no more than the room it is given. -/
  length_le : stack.length ≤ limit
  /-- Each particle goes on with the path. -/
  next : ∀ n u, .found n u ∈ ps → ParticlePath ask (stack ++ [n])

namespace Inside

variable {stack : List Text} {p : Text.Piece Text} {ps : List (Text.Piece Text)} {n u s : Text}

lemma stack_ne_nil (h : Inside ask limit name stack ps) : stack ≠ [] := by
  obtain ⟨v, -, hv⟩ := h.start
  rintro rfl
  cases hv

lemma tail (h : Inside ask limit name stack (p :: ps)) : Inside ask limit name stack ps where
  start := h.start
  nodup := h.nodup
  length_le := h.length_le
  next n u hmem := h.next n u (List.mem_cons_of_mem p hmem)

lemma reference (h : Inside ask limit name stack (.found n u :: ps)) :
    Reference ask name (stack ++ [n]) := by
  obtain ⟨v, hreach, hhead⟩ := h.start
  refine .inr ⟨v, hreach, ?_, h.next n u List.mem_cons_self⟩
  rw [List.head?_append_of_ne_nil _ h.stack_ne_nil, hhead]

/-- The particles of a particle are reached through it. -/
lemma enter (h : Inside ask limit name stack (.found n u :: ps)) (ha : ask n = .ok s)
    (hmem : n ∉ stack) (hroom : stack.length < limit) :
    Inside ask limit name (stack ++ [n]) (Text.pieces particle? s) where
  start := by
    obtain ⟨v, hreach, hhead⟩ := h.start
    exact ⟨v, hreach, by rw [List.head?_append_of_ne_nil _ h.stack_ne_nil, hhead]⟩
  nodup := nodup_snoc h.nodup hmem
  length_le := by
    rw [List.length_append, List.length_singleton]
    omega
  next m w hw := by
    have hpath := h.next n u List.mem_cons_self
    exact hpath.snoc h.stack_ne_nil ⟨s, ha, Text.mem_findAll_iff.mpr ⟨w, hw⟩⟩

/-- The particles of a part of a view are reached from the view. -/
lemma ofPart {v t : Text} (hreach : Relation.ReflTransGen (ParentLink ask) name v)
    (hlimit : 1 ≤ limit) (ha : ask v = .ok s) (hpart : IsPart s t) :
    Inside ask limit name [v] (Text.pieces particle? t) where
  start := ⟨v, hreach, rfl⟩
  nodup := List.nodup_singleton v
  length_le := hlimit
  next _ u hu := ParticlePath.pair ⟨s, t, ha, hpart, Text.mem_findAll_iff.mpr ⟨u, hu⟩⟩

end Inside

/-! ## What an error tells -/

/-- What can be done with the result of a part does not change its error. -/
lemma error_of_map {ε α β : Type} {r : Except ε α} {f : α → β} {e : ε} (h : r.map f = .error e) :
    r = .error e := by
  cases r with
  | ok a => cases h
  | error e' => exact congrArg Except.error (Except.error.inj h)

theorem ExpandsTo.justified {origin : Option Text} {stack : List Text}
    {ps : List (Text.Piece Text)} {r : Except ResolveFault Expansion} {f : ResolveFault}
    (h : ExpandsTo ask limit origin stack ps r) (hin : Inside ask limit name stack ps)
    (hf : r = .error f) : Justified ask limit name f := by
  induction h generalizing f with
  | nil => cases hf
  | plain _ ih => exact ih hin.tail (error_of_map hf)
  | missing _ _ ih => exact ih hin.tail (error_of_map hf)
  | unread =>
    cases hf
    trivial
  -- the two places where an error of the recursion arises; all other cases hand one on
  | circular _ hmem =>
    cases hf
    exact ⟨hin.reference, hmem, hin.nodup, hin.length_le⟩
  | tooDeep _ hmem hdeep =>
    cases hf
    exact ⟨rfl, hin.reference, nodup_snoc hin.nodup hmem, Int.le_antisymm hin.length_le hdeep⟩
  | fails ha hmem hroom _ ih =>
    cases hf
    exact ih (hin.enter ha hmem hroom) rfl
  | inserted _ _ _ _ _ _ ih => exact ih hin.tail (error_of_map hf)

theorem PartTo.justified {v s t : Text} {r : Except ResolveFault Expansion} {f : ResolveFault}
    (h : PartTo ask limit v t r) (hreach : Relation.ReflTransGen (ParentLink ask) name v)
    (hlimit : 1 ≤ limit) (ha : ask v = .ok s) (hpart : IsPart s t) (hf : r = .error f) :
    Justified ask limit name f :=
  ExpandsTo.justified h (.ofPart hreach hlimit ha hpart) hf

theorem PoursTo.justified {v parent s : Text} {asParent : Bool} {ps : List (Text.Piece Text)}
    {r : Except ResolveFault Expansion} {f : ResolveFault}
    (h : PoursTo ask limit v parent (dependencies s) asParent ps r)
    (hreach : Relation.ReflTransGen (ParentLink ask) name v) (hlimit : 1 ≤ limit)
    (ha : ask v = .ok s) (hparent : (dependencies s).parent ≠ none) (hf : r = .error f) :
    Justified ask limit name f := by
  induction h generalizing f with
  | nil => cases hf
  | plain _ ih => exact ih (error_of_map hf)
  | filled _ _ _ ih => exact ih (error_of_map hf)
  | fails hd hpart =>
    cases hf
    exact hpart.justified hreach hlimit ha (.inr ⟨hparent, _, hd⟩) rfl
  | kept _ _ _ ih => exact ih (error_of_map hf)
  | dropped _ _ _ ih => exact ih (error_of_map hf)

/-- The stack of the views that are resolved is a path of parents from the view. -/
structure Below (ask : Ask) (limit : Int) (name label : Text) (stack : List Text) : Prop where
  /-- The path goes on with the view that is resolved next. -/
  path : (stack ++ [label]).head? = some name ∧ (stack ++ [label]).IsChain (ParentLink ask)
  /-- The view that is resolved next is reached. -/
  reach : Relation.ReflTransGen (ParentLink ask) name label
  /-- No name is on the stack twice. -/
  nodup : stack.Nodup
  /-- The stack has no more than the room it is given. -/
  length_le : stack.length ≤ limit

lemma Below.enter {label p s : Text} {stack : List Text} (h : Below ask limit name label stack)
    (ha : ask label = .ok s) (hp : (dependencies s).parent = some p) (hmem : label ∉ stack)
    (hroom : stack.length < limit) : Below ask limit name p (stack ++ [label]) where
  path := by
    have hne : stack ++ [label] ≠ [] := by simp
    refine ⟨by rw [List.head?_append_of_ne_nil _ hne, h.path.1], ?_⟩
    rw [List.isChain_append]
    refine ⟨h.path.2, List.isChain_singleton p, ?_⟩
    intro x hx y hy
    simp at hx hy
    rw [← hx, ← hy]
    exact ⟨s, ha, hp⟩
  reach := h.reach.tail ⟨s, ha, hp⟩
  nodup := nodup_snoc h.nodup hmem
  length_le := by
    rw [List.length_append, List.length_singleton]
    omega

theorem ResolvesTo.justified {view given : Option Text} {asParent : Bool} {stack : List Text}
    {r : Except ResolveFault Resolved} {f : ResolveFault}
    (h : ResolvesTo ask limit view given asParent stack r) (hgiven : given = none)
    (hin : Below ask limit name (labelOf view) stack) (hlimit : 1 ≤ limit) (hf : r = .error f) :
    Justified ask limit name f := by
  induction h generalizing f with
  | circular hmem =>
    cases hf
    exact ⟨.inl hin.path, hmem, hin.nodup, hin.length_le⟩
  | tooDeep hmem hdeep =>
    cases hf
    exact ⟨rfl, .inl hin.path, nodup_snoc hin.nodup hmem, Int.le_antisymm hin.length_le hdeep⟩
  | unread =>
    cases hf
    trivial
  | root hmem hroom hs hp hpart =>
    -- no text was given, so the view was read from the store
    obtain ⟨-, ha⟩ := hs.resolve_left (by simp [hgiven])
    exact hpart.justified hin.reach hlimit ha (.inl ⟨hp, rfl⟩) (error_of_map hf)
  | orphan hmem hroom hs hp _ ih =>
    obtain ⟨-, ha⟩ := hs.resolve_left (by simp [hgiven])
    refine ih rfl ?_ hf
    rw [labelOf_some ((isName_parent hp).1)]
    exact hin.enter ha hp hmem hroom
  | child hmem hroom hs hp _ hpour ih =>
    obtain ⟨-, ha⟩ := hs.resolve_left (by simp [hgiven])
    exact hpour.justified hin.reach hlimit ha (by simp [hp]) (error_of_map hf)

/-- The error of a fault of the recursion. -/
lemma toError_recursion {f : ResolveFault} {e : RuntimeFailure}
    (h : f.toError = .ok (.runtime e)) :
    (∃ n, f = .circular e.stack n ∧ e.code = .circularView ∧
      e.message = "Circular view reference: " ++ Text.joinWith " → " (e.stack ++ [n])) ∨
    (∃ l n, f = .tooDeep l e.stack n ∧ e.code = .renderDepth ∧
      e.message = "Maximum view depth exceeded (" ++ Text.ofInt l ++ ") when resolving '" ++
        n ++ "'") := by
  cases f with
  | store f => cases f <;> cases h
  | circular stack n =>
    cases h
    exact .inl ⟨n, rfl, rfl, rfl⟩
  | tooDeep l stack n =>
    cases h
    exact .inr ⟨l, n, rfl, rfl, rfl⟩

/-- **Resolution ends, and its recursion errors are exact.**  A view that is resolved from the store
has exactly one finite derivation.  A circle is reported only if the views on the stack and the
offending one are a path of references that comes back to a view on it; a depth is reported only if
there is a path of references without repetition that has one name more than allowed; each stack
that is reported is without repetition and within the limit; and if no path of references repeats a
name or is longer than allowed, then there is none of these errors. -/
theorem recursion_errors_exact (ask : Ask) (limit : Int) (name : Text) (asParent : Bool)
    (hname : name ≠ []) (hlimit : 1 ≤ limit) :
    let result := (resolve ask (some name) none asParent limit []).result
    (∀ r, ResolvesTo ask limit (some name) none asParent [] r ↔ r = result) ∧
    (∀ f e, result = .error f → f.toError = .ok (.runtime e) → e.code = .circularView →
      ∃ n, e.message = "Circular view reference: " ++ Text.joinWith " → " (e.stack ++ [n]) ∧
        Reference ask name (e.stack ++ [n]) ∧ n ∈ e.stack) ∧
    (∀ f e, result = .error f → f.toError = .ok (.runtime e) → e.code = .renderDepth →
      ∃ n, Reference ask name (e.stack ++ [n]) ∧ (e.stack ++ [n]).Nodup ∧
        (e.stack ++ [n]).length = limit + 1) ∧
    (∀ f e, result = .error f → f.toError = .ok (.runtime e) →
      e.stack.Nodup ∧ e.stack.length ≤ limit) ∧
    ((∀ path, Reference ask name path → path.Nodup ∧ path.length ≤ limit) →
      ∀ f e, result = .error f → f.toError ≠ .ok (.runtime e)) := by
  intro result
  have hbelow : Below ask limit name (labelOf (some name)) [] := by
    rw [labelOf_some hname]
    exact ⟨⟨rfl, List.isChain_singleton name⟩, .refl, List.nodup_nil, by simp; omega⟩
  have hjust : ∀ f, result = .error f → Justified ask limit name f := fun f hf =>
    (resolvesTo_resolve (some name) none asParent []).justified rfl hbelow hlimit hf
  refine ⟨fun r => resolvesTo_iff, ?_, ?_, ?_, ?_⟩
  -- the circles that are reported
  · intro f e hf he hcode
    rcases toError_recursion he with ⟨n, rfl, -, hmessage⟩ | ⟨l, n, -, hcode', -⟩
    · obtain ⟨hpath, hmem, -, -⟩ := hjust _ hf
      exact ⟨n, hmessage, hpath, hmem⟩
    · cases hcode.symm.trans hcode'
  -- the depths that are reported
  · intro f e hf he hcode
    rcases toError_recursion he with ⟨n, -, hcode', -⟩ | ⟨l, n, rfl, -, -⟩
    · cases hcode.symm.trans hcode'
    · obtain ⟨-, hpath, hnodup, hlen⟩ := hjust _ hf
      refine ⟨n, hpath, hnodup, ?_⟩
      rw [List.length_append, List.length_singleton]
      omega
  -- the stacks that are reported
  · intro f e hf he
    rcases toError_recursion he with ⟨n, rfl, -, -⟩ | ⟨l, n, rfl, -, -⟩
    · obtain ⟨-, -, hnodup, hlen⟩ := hjust _ hf
      exact ⟨hnodup, hlen⟩
    · obtain ⟨-, -, hnodup, hlen⟩ := hjust _ hf
      exact ⟨(List.nodup_append.1 hnodup).1, Int.le_of_eq hlen⟩
  -- the converse: each error shows a path that repeats a name or is too long
  · intro hpaths f e hf he
    rcases toError_recursion he with ⟨n, rfl, -, -⟩ | ⟨l, n, rfl, -, -⟩
    · obtain ⟨hpath, hmem, -, -⟩ := hjust _ hf
      have hnodup := (hpaths _ hpath).1
      exact (List.nodup_append.1 hnodup).2.2 n hmem n List.mem_cons_self rfl
    · obtain ⟨-, hpath, -, hlen⟩ := hjust _ hf
      have hle := (hpaths _ hpath).2
      rw [List.length_append, List.length_singleton] at hle
      omega

/-- Two views that name each other: the circle that is reported is there. -/
theorem circle_of_two_parents :
    let ask : Ask := fun n => .ok (if n = "a".toList then "@extends('b')" else "@extends('a')")
    ∃ n, Reference ask "a".toList (["a".toList, "b".toList] ++ [n]) ∧
      n ∈ ["a".toList, "b".toList] := by
  intro ask
  have hresult : (resolve ask (some "a".toList) none false 2 []).result =
      .error (.circular ["a".toList, "b".toList] "a".toList) := by decide +kernel
  have hexact := recursion_errors_exact ask 2 "a".toList false (by decide) (by decide)
  obtain ⟨n, -, hpath, hmem⟩ := hexact.2.1 _ _ hresult rfl rfl
  exact ⟨n, hpath, hmem⟩

end ViewEngine.Layout

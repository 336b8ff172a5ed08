/-
# The rules of resolution

What becomes of a view is described here by rules, one for each thing that can happen, without any
bound on the recursion but the one that the views on the stack impose: a view is entered if it is
not on the stack and the stack has room.  A derivation by the rules is finite, so that the rules
also say that resolution ends.

* `expandsTo_expandParticles`: the rules give what the replacing of particles gives;
* `resolvesTo_iff`: the rules give exactly what resolution gives, whatever the views are.
-/
import Mathlib.Tactic.Common
import Mathlib.Tactic.Lemma
import ViewEngine.Layout.Resolve

namespace ViewEngine.Layout

/-! ## Results of traced computations -/

namespace Traced

variable {α β : Type}

@[simp] lemma result_pure (a : α) : (pure a : Traced α).result = .ok a := rfl

@[simp] lemma result_fail (f : ResolveFault) : (fail f : Traced α).result = .error f := rfl

lemma result_bind (x : Traced α) (f : α → Traced β) :
    (x >>= f).result = x.result.bind fun a => (f a).result := by
  show (andThen x f).result = _
  unfold andThen
  cases x.result <;> rfl

lemma result_bind_ok {x : Traced α} {a : α} (h : x.result = .ok a) (f : α → Traced β) :
    (x >>= f).result = (f a).result := by
  rw [result_bind, h]
  rfl

lemma result_bind_error {x : Traced α} {e : ResolveFault} (h : x.result = .error e)
    (f : α → Traced β) : (x >>= f).result = .error e := by
  rw [result_bind, h]
  rfl

@[simp] lemma result_note_bind (e : Event) (f : Unit → Traced β) :
    (note e >>= f).result = (f ()).result := rfl

/-- Doing something pure with a result. -/
lemma result_bind_pure (x : Traced α) (f : α → β) :
    (x >>= fun a => pure (f a)).result = x.result.map f := by
  rw [result_bind]
  cases x.result <;> rfl

end Traced

lemma ok_of_map {ε α β : Type} {r : Except ε α} {f : α → β} {b : β} (h : r.map f = .ok b) :
    ∃ a, r = .ok a ∧ f a = b := by
  cases r with
  | error e => cases h
  | ok a => exact ⟨a, rfl, Except.ok.inj h⟩

/-- The label of a view that may have no name. -/
def labelOf (name : Option Text) : Text := (nonempty? name).getD inlineName

lemma labelOf_some {n : Text} (h : n ≠ []) : labelOf (some n) = n := by
  cases n with
  | nil => exact absurd rfl h
  | cons c cs => rfl

/-! ## The rules -/

section

variable (ask : Ask) (limit : Int)

/-- What becomes of the pieces of a text that was reached through the particles on a stack.  Each
particle is asked for first and entered then. -/
inductive ExpandsTo :
    Option Text → List Text → List (Text.Piece Text) → Except ResolveFault Expansion → Prop where
  | nil {origin stack} : ExpandsTo origin stack [] (.ok ⟨[], []⟩)
  | plain {origin stack t ps r} : ExpandsTo origin stack ps r →
      ExpandsTo origin stack (.plain t :: ps) (r.map (⟨t, []⟩ ++ ·))
  | missing {origin stack n t m ps r} : ask n = .error (.missing m) → ExpandsTo origin stack ps r →
      ExpandsTo origin stack (.found n t :: ps)
        (r.map (⟨[], [.missingParticle n (labelOf origin)]⟩ ++ ·))
  | unread {origin stack n t f ps} : ask n = .error f → (∀ m, f ≠ .missing m) →
      ExpandsTo origin stack (.found n t :: ps) (.error (.store f))
  | circular {origin stack n t s ps} : ask n = .ok s → n ∈ stack →
      ExpandsTo origin stack (.found n t :: ps) (.error (.circular stack n))
  | tooDeep {origin stack n t s ps} : ask n = .ok s → n ∉ stack → limit ≤ stack.length →
      ExpandsTo origin stack (.found n t :: ps) (.error (.tooDeep limit stack n))
  | fails {origin stack n t s ps f} : ask n = .ok s → n ∉ stack → stack.length < limit →
      ExpandsTo (some n) (stack ++ [n]) (Text.pieces particle? s) (.error f) →
      ExpandsTo origin stack (.found n t :: ps) (.error f)
  | inserted {origin stack n t s ps e r} : ask n = .ok s → n ∉ stack → stack.length < limit →
      ExpandsTo (some n) (stack ++ [n]) (Text.pieces particle? s) (.ok e) →
      ExpandsTo origin stack ps r →
      ExpandsTo origin stack (.found n t :: ps) (r.map (e ++ ·))

/-- What becomes of a part of a view: its particles are reached from the view itself. -/
def PartTo (label t : Text) (r : Except ResolveFault Expansion) : Prop :=
  ExpandsTo ask limit (some label) [label] (Text.pieces particle? t) r

/-- What becomes of the pieces of a parent into which the sections of a child are poured. -/
inductive PoursTo (label parent : Text) (d : Dependencies) (asParent : Bool) :
    List (Text.Piece Text) → Except ResolveFault Expansion → Prop where
  | nil : PoursTo label parent d asParent [] (.ok ⟨[], []⟩)
  | plain {t ps r} : PoursTo label parent d asParent ps r →
      PoursTo label parent d asParent (.plain t :: ps) (r.map (⟨t, []⟩ ++ ·))
  | filled {n t body ps e r} : d.find? n = some body → PartTo ask limit label body (.ok e) →
      PoursTo label parent d asParent ps r →
      PoursTo label parent d asParent (.found n t :: ps) (r.map (e ++ ·))
  | fails {n t body ps f} : d.find? n = some body → PartTo ask limit label body (.error f) →
      PoursTo label parent d asParent (.found n t :: ps) (.error f)
  | kept {n t ps r} : d.find? n = none → asParent = true →
      PoursTo label parent d asParent ps r →
      PoursTo label parent d asParent (.found n t :: ps) (r.map (⟨t, []⟩ ++ ·))
  | dropped {n t ps r} : d.find? n = none → asParent = false →
      PoursTo label parent d asParent ps r →
      PoursTo label parent d asParent (.found n t :: ps)
        (r.map (⟨[], [.missingSection n label parent]⟩ ++ ·))

/-- The text of a view: the given one, or else the one in the store. -/
def Source (label : Text) (given : Option Text) (s : Text) : Prop :=
  given = some s ∨ given = none ∧ ask label = .ok s

/-- A view whose text has been put together. -/
def finished (name : Option Text) (asParent : Bool) (parent : Option Text) (e : Expansion) :
    Resolved where
  name
  content := if asParent then e.text else dropYields e.text
  parent
  warnings := e.warnings

/-- What becomes of a view that was reached through the children on a stack.  Each view is entered
first and asked for then. -/
inductive ResolvesTo :
    Option Text → Option Text → Bool → List Text → Except ResolveFault Resolved → Prop where
  | circular {name given asParent stack} : labelOf name ∈ stack →
      ResolvesTo name given asParent stack (.error (.circular stack (labelOf name)))
  | tooDeep {name given asParent stack} : labelOf name ∉ stack → limit ≤ stack.length →
      ResolvesTo name given asParent stack (.error (.tooDeep limit stack (labelOf name)))
  | unread {name asParent stack f} : labelOf name ∉ stack → stack.length < limit →
      ask (labelOf name) = .error f →
      ResolvesTo name none asParent stack (.error (.store f))
  | root {name given asParent stack s r} : labelOf name ∉ stack → stack.length < limit →
      Source ask (labelOf name) given s → (dependencies s).parent = none →
      PartTo ask limit (labelOf name) (dependencies s).body r →
      ResolvesTo name given asParent stack (r.map (finished name asParent none))
  | orphan {name given asParent stack s p f} : labelOf name ∉ stack → stack.length < limit →
      Source ask (labelOf name) given s → (dependencies s).parent = some p →
      ResolvesTo (some p) none true (stack ++ [labelOf name]) (.error f) →
      ResolvesTo name given asParent stack (.error f)
  | child {name given asParent stack s p parent r} : labelOf name ∉ stack → stack.length < limit →
      Source ask (labelOf name) given s → (dependencies s).parent = some p →
      ResolvesTo (some p) none true (stack ++ [labelOf name]) (.ok parent) →
      PoursTo ask limit (labelOf name) p (dependencies s) asParent
        (Text.pieces yield? parent.content) r →
      ResolvesTo name given asParent stack
        (r.map fun e => finished name asParent (some p) (⟨[], parent.warnings⟩ ++ e))

end

variable {ask : Ask} {limit : Int}

/-! ## The rules leave no choice -/

/-- No two results follow from the rules for pieces. -/
lemma ExpandsTo.unique {origin : Option Text} {stack : List Text} {ps : List (Text.Piece Text)}
    {r r' : Except ResolveFault Expansion} (h : ExpandsTo ask limit origin stack ps r)
    (h' : ExpandsTo ask limit origin stack ps r') : r = r' := by
  induction h generalizing r' with
  | nil => cases h' with | nil => rfl
  | plain _ ih => cases h' with | plain h' => rw [ih h']
  | missing ha _ ih =>
    cases h' with
    | missing _ h' => rw [ih h']
    | unread ha' hf => exact absurd (Except.error.inj (ha'.symm.trans ha)) (hf _)
    | _ => simp_all
  | unread ha hf =>
    cases h' with
    | missing ha' => exact absurd (Except.error.inj (ha.symm.trans ha')) (hf _)
    | unread ha' => rw [Except.error.inj (ha.symm.trans ha')]
    | _ => simp_all
  | circular ha hmem => cases h' <;> simp_all
  | tooDeep ha hmem hdeep =>
    cases h' with
    | tooDeep => rfl
    | fails _ _ hroom => omega
    | inserted _ _ hroom => omega
    | _ => simp_all
  | fails ha hmem hroom _ ih =>
    cases h' with
    | tooDeep _ _ hdeep => omega
    | fails ha' _ _ h' =>
      cases Except.ok.inj (ha.symm.trans ha')
      exact congrArg Except.error (Except.error.inj (ih h'))
    | inserted ha' _ _ h' =>
      cases Except.ok.inj (ha.symm.trans ha')
      cases ih h'
    | _ => simp_all
  | inserted ha hmem hroom _ _ ih₁ ih₂ =>
    cases h' with
    | tooDeep _ _ hdeep => omega
    | fails ha' _ _ h' =>
      cases Except.ok.inj (ha.symm.trans ha')
      cases ih₁ h'
    | inserted ha' _ _ h' h'' =>
      cases Except.ok.inj (ha.symm.trans ha')
      rw [Except.ok.inj (ih₁ h'), ih₂ h'']
    | _ => simp_all

lemma PartTo.unique {label t : Text} {r r' : Except ResolveFault Expansion}
    (h : PartTo ask limit label t r) (h' : PartTo ask limit label t r') : r = r' :=
  ExpandsTo.unique h h'

/-- No two results follow from the rules for a parent. -/
lemma PoursTo.unique {label parent : Text} {d : Dependencies} {asParent : Bool}
    {ps : List (Text.Piece Text)} {r r' : Except ResolveFault Expansion}
    (h : PoursTo ask limit label parent d asParent ps r)
    (h' : PoursTo ask limit label parent d asParent ps r') : r = r' := by
  induction h generalizing r' with
  | nil => cases h' with | nil => rfl
  | plain _ ih => cases h' with | plain h' => rw [ih h']
  | filled hd hpart _ ih =>
    cases h' with
    | filled hd' hpart' h' =>
      cases Option.some.inj (hd.symm.trans hd')
      rw [Except.ok.inj (hpart.unique hpart'), ih h']
    | fails hd' hpart' =>
      cases Option.some.inj (hd.symm.trans hd')
      cases hpart.unique hpart'
    | _ => simp_all
  | fails hd hpart =>
    cases h' with
    | filled hd' hpart' =>
      cases Option.some.inj (hd.symm.trans hd')
      cases hpart.unique hpart'
    | fails hd' hpart' =>
      cases Option.some.inj (hd.symm.trans hd')
      rw [Except.error.inj (hpart.unique hpart')]
    | _ => simp_all
  | kept hd hmode _ ih =>
    cases h' with
    | kept _ _ h' => rw [ih h']
    | _ => simp_all
  | dropped hd hmode _ ih =>
    cases h' with
    | dropped _ _ h' => rw [ih h']
    | _ => simp_all

lemma Source.unique {label s s' : Text} {given : Option Text} (h : Source ask label given s)
    (h' : Source ask label given s') : s = s' := by
  rcases h with h | ⟨h, ha⟩ <;> rcases h' with h' | ⟨h', ha'⟩
  · exact Option.some.inj (h.symm.trans h')
  · cases h.symm.trans h'
  · cases h.symm.trans h'
  · exact Except.ok.inj (ha.symm.trans ha')

/-- No two results follow from the rules for a view. -/
theorem ResolvesTo.unique {name given : Option Text} {asParent : Bool} {stack : List Text}
    {r r' : Except ResolveFault Resolved} (h : ResolvesTo ask limit name given asParent stack r)
    (h' : ResolvesTo ask limit name given asParent stack r') : r = r' := by
  induction h generalizing r' with
  | circular hmem =>
    cases h' with
    | circular => rfl
    | _ => contradiction
  | tooDeep hmem hdeep =>
    cases h' with
    | circular => contradiction
    | tooDeep => rfl
    | _ => omega
  | unread hmem hroom ha =>
    cases h' with
    | circular => contradiction
    | tooDeep => omega
    | unread _ _ ha' => rw [Except.error.inj (ha.symm.trans ha')]
    | root _ _ hs => exact absurd hs (by simp [Source, ha])
    | orphan _ _ hs => exact absurd hs (by simp [Source, ha])
    | child _ _ hs => exact absurd hs (by simp [Source, ha])
  | root hmem hroom hs hp hpart =>
    cases h' with
    | circular => contradiction
    | tooDeep => omega
    | unread _ _ ha' => exact absurd hs (by simp [Source, ha'])
    | root _ _ hs' _ hpart' =>
      cases hs.unique hs'
      rw [hpart.unique hpart']
    | orphan _ _ hs' hp' =>
      cases hs.unique hs'
      cases hp.symm.trans hp'
    | child _ _ hs' hp' =>
      cases hs.unique hs'
      cases hp.symm.trans hp'
  | orphan hmem hroom hs hp _ ih =>
    cases h' with
    | circular => contradiction
    | tooDeep => omega
    | unread _ _ ha' => exact absurd hs (by simp [Source, ha'])
    | root _ _ hs' hp' =>
      cases hs.unique hs'
      cases hp.symm.trans hp'
    | orphan _ _ hs' hp' h' =>
      cases hs.unique hs'
      cases Option.some.inj (hp.symm.trans hp')
      exact congrArg Except.error (Except.error.inj (ih h'))
    | child _ _ hs' hp' h' =>
      cases hs.unique hs'
      cases Option.some.inj (hp.symm.trans hp')
      cases ih h'
  | child hmem hroom hs hp _ hpour ih =>
    cases h' with
    | circular => contradiction
    | tooDeep => omega
    | unread _ _ ha' => exact absurd hs (by simp [Source, ha'])
    | root _ _ hs' hp' =>
      cases hs.unique hs'
      cases hp.symm.trans hp'
    | orphan _ _ hs' hp' h' =>
      cases hs.unique hs'
      cases Option.some.inj (hp.symm.trans hp')
      cases ih h'
    | child _ _ hs' hp' h' hpour' =>
      cases hs.unique hs'
      cases Option.some.inj (hp.symm.trans hp')
      cases ih h'
      rw [hpour.unique hpour']

/-! ## The rules give what is computed -/

lemma roomFor_eq_zero {stack : List Text} (h : roomFor limit stack = 0) :
    limit ≤ stack.length := by
  unfold roomFor at h
  omega

lemma roomFor_eq_succ {stack : List Text} {room : Nat} (h : roomFor limit stack = room + 1)
    (n : Text) : stack.length < limit ∧ roomFor limit (stack ++ [n]) = room := by
  unfold roomFor at h ⊢
  rw [List.length_append, List.length_singleton]
  omega

lemma load?_bind_missing {α : Type} {n m : Text} (h : ask n = .error (.missing m))
    (f : Option Text → Traced α) : (load? ask n >>= f).result = (f none).result := by
  rw [Traced.result_bind_ok (a := none)]
  simp [load?, h]

lemma load?_bind_unread {α : Type} {n : Text} {e : StoreFault} (h : ask n = .error e)
    (he : ∀ m, e ≠ .missing m) (f : Option Text → Traced α) :
    (load? ask n >>= f).result = .error (.store e) := by
  rw [Traced.result_bind_error]
  cases e with
  | missing m => exact absurd rfl (he m)
  | _ => simp [load?, h]

lemma load?_bind_ok {α : Type} {n s : Text} (h : ask n = .ok s) (f : Option Text → Traced α) :
    (load? ask n >>= f).result = (f (some s)).result := by
  rw [Traced.result_bind_ok (a := some s)]
  simp [load?, h]

lemma load_ok {n s : Text} (h : ask n = .ok s) : (load ask n).result = .ok s := by
  simp [load, h]

lemma load_error {n : Text} {e : StoreFault} (h : ask n = .error e) :
    (load ask n).result = .error (.store e) := by
  simp [load, h]

/-- The result for a piece followed by others. -/
lemma fillPieces_found {f : Text → Text → Traced Expansion} {n t : Text}
    {ps : List (Text.Piece Text)} {e : Expansion} (h : (f n t).result = .ok e) :
    (fillPieces f (.found n t :: ps)).result = (fillPieces f ps).result.map (e ++ ·) := by
  rw [fillPieces, Traced.result_bind_ok h, Traced.result_bind_pure]

lemma fillPieces_found_error {f : Text → Text → Traced Expansion} {n t : Text}
    {ps : List (Text.Piece Text)} {e : ResolveFault} (h : (f n t).result = .error e) :
    (fillPieces f (.found n t :: ps)).result = .error e := by
  rw [fillPieces, Traced.result_bind_error h]

lemma fillPieces_plain {f : Text → Text → Traced Expansion} {t : Text}
    {ps : List (Text.Piece Text)} :
    (fillPieces f (.plain t :: ps)).result = (fillPieces f ps).result.map (⟨t, []⟩ ++ ·) := by
  rw [fillPieces, Traced.result_bind_pure]

/-- The step for one particle, when the particles of a text inside it follow the rules. -/
lemma expandsTo_fillPieces {origin : Option Text} {stack : List Text}
    {inside : Text → Text → Traced Expansion}
    (hin : ∀ n s, stack.length < limit → ExpandsTo ask limit (some n) (stack ++ [n])
      (Text.pieces particle? s) (inside n s).result) (ps : List (Text.Piece Text)) :
    ExpandsTo ask limit origin stack ps (fillPieces (fun name _ => do
      match ← load? ask name with
      | none => pure ⟨[], [.missingParticle name ((nonempty? origin).getD inlineName)]⟩
      | some source =>
        if name ∈ stack then Traced.fail (.circular stack name)
        else if limit ≤ stack.length then Traced.fail (.tooDeep limit stack name)
        else inside name source) ps).result := by
  induction ps with
  | nil => exact .nil
  | cons p ps ih =>
    cases p with
    | plain t =>
      rw [fillPieces_plain]
      exact .plain ih
    | found n t =>
      -- the cases are those of the rules, in the order in which they are tried
      rcases ha : ask n with f | s
      · by_cases hf : ∃ m, f = .missing m
        · obtain ⟨m, rfl⟩ := hf
          rw [fillPieces_found (by rw [load?_bind_missing ha]; rfl)]
          exact .missing ha ih
        · have hne : ∀ m, f ≠ .missing m := fun m h => hf ⟨m, h⟩
          rw [fillPieces_found_error (by rw [load?_bind_unread ha hne])]
          exact .unread ha hne
      · by_cases hmem : n ∈ stack
        · rw [fillPieces_found_error (by rw [load?_bind_ok ha]; simp only [if_pos hmem]; rfl)]
          exact .circular ha hmem
        · by_cases hdeep : limit ≤ stack.length
          · rw [fillPieces_found_error
              (by rw [load?_bind_ok ha]; simp only [if_neg hmem, if_pos hdeep]; rfl)]
            exact .tooDeep ha hmem hdeep
          · have hroom : stack.length < limit := by omega
            have hstep := hin n s hroom
            rcases hr : (inside n s).result with f | e
            · rw [hr] at hstep
              rw [fillPieces_found_error
                (by rw [load?_bind_ok ha]; simp only [if_neg hmem, if_neg hdeep]; exact hr)]
              exact .fails ha hmem hroom hstep
            · rw [hr] at hstep
              rw [fillPieces_found
                (by rw [load?_bind_ok ha]; simp only [if_neg hmem, if_neg hdeep]; exact hr)]
              exact .inserted ha hmem hroom hstep ih

/-- The room that is left says what the length of the stack says. -/
lemma expandWithin_eq {room : Nat} {origin : Option Text} {stack : List Text} {t : Text}
    (h : roomFor limit stack = room) :
    expandWithin ask limit room origin stack t = fillPieces (fun name _ => do
      match ← load? ask name with
      | none => pure ⟨[], [.missingParticle name ((nonempty? origin).getD inlineName)]⟩
      | some source =>
        if name ∈ stack then Traced.fail (.circular stack name)
        else if limit ≤ stack.length then Traced.fail (.tooDeep limit stack name)
        else expandWithin ask limit (room - 1) (some name) (stack ++ [name]) source)
      (Text.pieces particle? t) := by
  cases room with
  | zero =>
    rw [expandWithin]
    refine congrArg (fillPieces · _) (funext fun name => funext fun _ => ?_)
    refine congrArg (load? ask name >>= ·) (funext fun found => ?_)
    cases found with
    | none => rfl
    | some source =>
      show (if name ∈ stack then _ else _) = if name ∈ stack then _ else ite _ _ _
      rw [if_pos (roomFor_eq_zero h)]
  | succ room =>
    have hlt : ¬ limit ≤ stack.length := by
      have := (roomFor_eq_succ h []).1
      omega
    rw [expandWithin]
    refine congrArg (fillPieces · _) (funext fun name => funext fun _ => ?_)
    refine congrArg (load? ask name >>= ·) (funext fun found => ?_)
    cases found with
    | none => rfl
    | some source =>
      show (if name ∈ stack then _ else _) = if name ∈ stack then _ else ite _ _ _
      rw [if_neg hlt, Nat.add_sub_cancel]

/-- **The rules give what the replacing of particles gives.** -/
theorem expandsTo_expandParticles (origin : Option Text) (stack : List Text) (t : Text) :
    ExpandsTo ask limit origin stack (Text.pieces particle? t)
      (expandParticles ask t origin stack limit).result := by
  unfold expandParticles
  -- the room shrinks with each particle that is entered
  induction hr : roomFor limit stack generalizing origin stack t with
  | zero =>
    rw [expandWithin_eq hr]
    exact expandsTo_fillPieces (fun n s hlt => absurd (roomFor_eq_zero hr) (by omega)) _
  | succ room ih =>
    rw [expandWithin_eq hr]
    exact expandsTo_fillPieces
      (fun n s _ => ih (some n) (stack ++ [n]) s (roomFor_eq_succ hr n).2) _

lemma partTo_expandPart (label t : Text) :
    PartTo ask limit label t (expandPart ask limit label t).result :=
  expandsTo_expandParticles _ _ _

lemma poursTo_fillPieces (label parent : Text) (d : Dependencies) (asParent : Bool)
    (ps : List (Text.Piece Text)) :
    PoursTo ask limit label parent d asParent ps
      (fillPieces (fillYield ask limit label parent d asParent) ps).result := by
  induction ps with
  | nil => exact .nil
  | cons p ps ih =>
    cases p with
    | plain t =>
      rw [fillPieces_plain]
      exact .plain ih
    | found n t =>
      rcases hd : d.find? n with _ | body
      · cases asParent with
        | true =>
          rw [fillPieces_found (e := ⟨t, []⟩) (by simp [fillYield, hd])]
          exact .kept hd rfl ih
        | false =>
          rw [fillPieces_found (e := ⟨[], [.missingSection n label parent]⟩)
            (by simp [fillYield, hd])]
          exact .dropped hd rfl ih
      · have hpart : PartTo ask limit label body _ := partTo_expandPart label body
        rcases hr : (expandPart ask limit label body).result with f | e
        · rw [hr] at hpart
          rw [fillPieces_found_error (by simp only [fillYield, hd]; exact hr)]
          exact .fails hd hpart
        · rw [hr] at hpart
          rw [fillPieces_found (by simp only [fillYield, hd]; exact hr)]
          exact .filled hd hpart ih

/-- What is computed of a view that has been entered and read. -/
lemma resolveWithin_succ_some {name : Option Text} {asParent : Bool} {stack : List Text} {s : Text}
    {room : Nat} (hmem : labelOf name ∉ stack) :
    (resolveWithin ask limit (room + 1) name (some s) asParent stack).result =
      match (dependencies s).parent with
      | none => (expandPart ask limit (labelOf name) (dependencies s).body).result.map
          (finished name asParent none)
      | some p =>
        (resolveWithin ask limit room (some p) none true (stack ++ [labelOf name])).result.bind
          fun parent => (fillPieces
            (fillYield ask limit (labelOf name) p (dependencies s) asParent)
            (Text.pieces yield? parent.content)).result.map
              fun e => finished name asParent (some p) (⟨[], parent.warnings⟩ ++ e) := by
  rw [resolveWithin]
  have hlabel : (nonempty? name).getD inlineName = labelOf name := rfl
  simp only [hlabel, if_neg hmem]
  rw [Traced.result_bind_ok (a := s) rfl, Traced.result_note_bind]
  rcases hp : (dependencies s).parent with _ | p
  · exact Traced.result_bind_pure _ _
  · simp only
    rw [Traced.result_bind]
    congr 1
    funext parent
    exact Traced.result_bind_pure _ _

/-- What is computed of a view that has to be read yet. -/
lemma resolveWithin_succ_none {name : Option Text} {asParent : Bool} {stack : List Text}
    {room : Nat} (hmem : labelOf name ∉ stack) :
    (resolveWithin ask limit (room + 1) name none asParent stack).result =
      match ask (labelOf name) with
      | .error f => .error (.store f)
      | .ok s => (resolveWithin ask limit (room + 1) name (some s) asParent stack).result := by
  have hlabel : (nonempty? name).getD inlineName = labelOf name := rfl
  rcases ha : ask (labelOf name) with f | s
  · rw [resolveWithin]
    simp only [hlabel, if_neg hmem]
    exact Traced.result_bind_error (load_error ha) _
  · rw [resolveWithin]
    simp only
    rw [resolveWithin]
    simp only [hlabel, if_neg hmem]
    rw [Traced.result_bind_ok (load_ok ha), Traced.result_bind_ok (a := s) rfl]

/-- A view that has been entered and read follows the rules, if its parent does. -/
lemma resolvesTo_entered {name given : Option Text} {asParent : Bool} {stack : List Text} {s : Text}
    {room : Nat} (hmem : labelOf name ∉ stack) (hroom : stack.length < limit)
    (hs : Source ask (labelOf name) given s)
    (habove : ∀ p, ResolvesTo ask limit (some p) none true (stack ++ [labelOf name])
      (resolveWithin ask limit room (some p) none true (stack ++ [labelOf name])).result) :
    ResolvesTo ask limit name given asParent stack
      (resolveWithin ask limit (room + 1) name (some s) asParent stack).result := by
  rw [resolveWithin_succ_some hmem]
  rcases hp : (dependencies s).parent with _ | p
  · exact .root hmem hroom hs hp (partTo_expandPart _ _)
  · have hparent := habove p
    simp only
    rcases hr : (resolveWithin ask limit room (some p) none true
      (stack ++ [labelOf name])).result with f | parent
    · rw [hr] at hparent
      exact .orphan hmem hroom hs hp hparent
    · rw [hr] at hparent
      exact .child hmem hroom hs hp hparent (poursTo_fillPieces _ _ _ _ _)

/-- The rules give what resolution gives.  Since a derivation is finite, resolution ends. -/
theorem resolvesTo_resolve (name given : Option Text) (asParent : Bool) (stack : List Text) :
    ResolvesTo ask limit name given asParent stack
      (resolve ask name given asParent limit stack).result := by
  unfold resolve
  induction hr : roomFor limit stack generalizing name given asParent stack with
  | zero =>
    rw [resolveWithin]
    by_cases hmem : (nonempty? name).getD inlineName ∈ stack
    · rw [if_pos hmem]
      exact .circular hmem
    · rw [if_neg hmem]
      exact .tooDeep hmem (roomFor_eq_zero hr)
  | succ room ih =>
    by_cases hmem : labelOf name ∈ stack
    · rw [resolveWithin, if_pos (show (nonempty? name).getD inlineName ∈ stack from hmem)]
      exact .circular hmem
    · obtain ⟨hroom, hnext⟩ := roomFor_eq_succ hr (labelOf name)
      have habove : ∀ p, ResolvesTo ask limit (some p) none true (stack ++ [labelOf name])
          (resolveWithin ask limit room (some p) none true (stack ++ [labelOf name])).result :=
        fun p => ih (some p) none true (stack ++ [labelOf name]) hnext
      cases given with
      | some s => exact resolvesTo_entered hmem hroom (.inl rfl) habove
      | none =>
        rw [resolveWithin_succ_none hmem]
        rcases ha : ask (labelOf name) with f | s
        · exact .unread hmem hroom ha
        · exact resolvesTo_entered hmem hroom (.inr ⟨rfl, ha⟩) habove

/-- **The rules give exactly what resolution gives.** -/
theorem resolvesTo_iff {name given : Option Text} {asParent : Bool} {stack : List Text}
    {r : Except ResolveFault Resolved} :
    ResolvesTo ask limit name given asParent stack r ↔
      r = (resolve ask name given asParent limit stack).result := by
  constructor
  · intro h
    exact h.unique (resolvesTo_resolve name given asParent stack)
  · rintro rfl
    exact resolvesTo_resolve name given asParent stack

end ViewEngine.Layout

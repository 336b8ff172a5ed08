/-
# The guard of the recursion

Resolution carries a guard: the stack of the views that were entered, and a limit on their number.  A
view that is on the stack, or for which the stack has no room, is refused.  The guard decides whether
there is a result; it leaves no trace in the result.

* `ExpandsTo.loosen`, `ResolvesTo.loosen`: what succeeds under a guard succeeds under a looser one;
* `guard_neutral`: the guard never changes a result.
-/
import ViewEngine.Proofs.Layout.Rules

namespace ViewEngine.Layout

/-- The guard is neutral to a computation: it decides whether there is a result, and nothing else. -/
structure GuardNeutral {α : Type} (run : Int → List Text → Except ResolveFault α) : Prop where
  /-- The results under any two guards are equal. -/
  agree : ∀ {limit₁ limit₂ stack₁ stack₂ a₁ a₂},
    run limit₁ stack₁ = .ok a₁ → run limit₂ stack₂ = .ok a₂ → a₁ = a₂
  /-- A result stays when names are taken off the stack and the limit is raised. -/
  loosen : ∀ {limit limit' stack stack' a}, run limit stack = .ok a → stack'.Sublist stack →
    limit ≤ limit' → run limit' stack' = .ok a

/-- Any two guards have a common looser one: the empty stack, with the higher limit. -/
lemma GuardNeutral.of_loosen {α : Type} {run : Int → List Text → Except ResolveFault α}
    (h : ∀ {limit limit' stack stack' a}, run limit stack = .ok a → stack'.Sublist stack →
      limit ≤ limit' → run limit' stack' = .ok a) : GuardNeutral run where
  agree {limit₁ limit₂ stack₁ stack₂ a₁ a₂} h₁ h₂ := by
    have h₁' : run (max limit₁ limit₂) [] = .ok a₁ :=
      h h₁ (List.nil_sublist stack₁) (Int.le_max_left limit₁ limit₂)
    have h₂' : run (max limit₁ limit₂) [] = .ok a₂ :=
      h h₂ (List.nil_sublist stack₂) (Int.le_max_right limit₁ limit₂)
    exact Except.ok.inj (h₁'.symm.trans h₂')
  loosen := h

/-! ## Looser guards -/

variable {ask : Ask} {limit limit' : Int} {stack stack' : List Text}

/-- A view that may be entered may be entered under a looser guard. -/
lemma enters_loosen {n : Text} (hstack : stack'.Sublist stack) (hlimit : limit ≤ limit')
    (hmem : n ∉ stack) (hroom : stack.length < limit) : n ∉ stack' ∧ stack'.length < limit' := by
  refine ⟨fun h => hmem (hstack.subset h), ?_⟩
  have hlength := hstack.length_le
  omega

lemma ExpandsTo.loosen {origin : Option Text} {ps : List (Text.Piece Text)}
    {r : Except ResolveFault Expansion} {e : Expansion} (h : ExpandsTo ask limit origin stack ps r)
    (hr : r = .ok e) (hstack : stack'.Sublist stack) (hlimit : limit ≤ limit') :
    ExpandsTo ask limit' origin stack' ps (.ok e) := by
  induction h generalizing stack' e with
  | nil =>
    cases hr
    exact .nil
  | plain _ ih =>
    obtain ⟨e', he', rfl⟩ := ok_of_map hr
    exact .plain (ih he' hstack)
  | missing ha _ ih =>
    obtain ⟨e', he', rfl⟩ := ok_of_map hr
    exact .missing ha (ih he' hstack)
  | unread | circular | tooDeep | fails => cases hr
  | inserted ha hmem hroom _ _ ih₁ ih₂ =>
    obtain ⟨e', he', rfl⟩ := ok_of_map hr
    obtain ⟨hmem', hroom'⟩ := enters_loosen hstack hlimit hmem hroom
    -- the stack grows by the same name on both sides
    exact .inserted ha hmem' hroom' (ih₁ rfl (hstack.append_right _)) (ih₂ he' hstack)

/-- The particles of a part of a view start a stack of their own, so that only the limit counts. -/
lemma PartTo.loosen {label t : Text} {e : Expansion} (h : PartTo ask limit label t (.ok e))
    (hlimit : limit ≤ limit') : PartTo ask limit' label t (.ok e) :=
  ExpandsTo.loosen h rfl (List.Sublist.refl _) hlimit

lemma PoursTo.loosen {label parent : Text} {d : Dependencies} {asParent : Bool}
    {ps : List (Text.Piece Text)} {r : Except ResolveFault Expansion} {e : Expansion}
    (h : PoursTo ask limit label parent d asParent ps r) (hr : r = .ok e)
    (hlimit : limit ≤ limit') : PoursTo ask limit' label parent d asParent ps (.ok e) := by
  induction h generalizing e with
  | nil =>
    cases hr
    exact .nil
  | plain _ ih =>
    obtain ⟨e', he', rfl⟩ := ok_of_map hr
    exact .plain (ih he')
  | filled hd hpart _ ih =>
    obtain ⟨e', he', rfl⟩ := ok_of_map hr
    exact .filled hd (hpart.loosen hlimit) (ih he')
  | fails => cases hr
  | kept hd hmode _ ih =>
    obtain ⟨e', he', rfl⟩ := ok_of_map hr
    exact .kept hd hmode (ih he')
  | dropped hd hmode _ ih =>
    obtain ⟨e', he', rfl⟩ := ok_of_map hr
    exact .dropped hd hmode (ih he')

lemma ResolvesTo.loosen {name given : Option Text} {asParent : Bool}
    {r : Except ResolveFault Resolved} {v : Resolved}
    (h : ResolvesTo ask limit name given asParent stack r) (hr : r = .ok v)
    (hstack : stack'.Sublist stack) (hlimit : limit ≤ limit') :
    ResolvesTo ask limit' name given asParent stack' (.ok v) := by
  induction h generalizing stack' v with
  | circular | tooDeep | unread | orphan => cases hr
  | root hmem hroom hs hp hpart =>
    obtain ⟨e, rfl, rfl⟩ := ok_of_map hr
    obtain ⟨hmem', hroom'⟩ := enters_loosen hstack hlimit hmem hroom
    exact .root hmem' hroom' hs hp (hpart.loosen hlimit)
  | child hmem hroom hs hp _ hpour ih =>
    obtain ⟨e, rfl, rfl⟩ := ok_of_map hr
    obtain ⟨hmem', hroom'⟩ := enters_loosen hstack hlimit hmem hroom
    exact .child hmem' hroom' hs hp (ih rfl (hstack.append_right _)) (hpour.loosen rfl hlimit)

/-! ## The main result -/

lemma guardNeutral_expandParticles (ask : Ask) (t : Text) (origin : Option Text) :
    GuardNeutral fun limit stack => (expandParticles ask t origin stack limit).result := by
  refine .of_loosen fun {limit limit' stack stack' e} h hstack hlimit => ?_
  have hrules : ExpandsTo ask limit origin stack (Text.pieces particle? t)
      (expandParticles ask t origin stack limit).result := expandsTo_expandParticles origin stack t
  exact (expandsTo_expandParticles origin stack' t).unique (hrules.loosen h hstack hlimit)

lemma guardNeutral_resolve (ask : Ask) (name given : Option Text) (asParent : Bool) :
    GuardNeutral fun limit stack => (resolve ask name given asParent limit stack).result := by
  refine .of_loosen fun {limit limit' stack stack' v} h hstack hlimit => ?_
  have hrules : ResolvesTo ask limit name given asParent stack
      (resolve ask name given asParent limit stack).result :=
    resolvesTo_resolve name given asParent stack
  exact (resolvesTo_iff.1 (hrules.loosen h hstack hlimit)).symm

/-- **The guard of the recursion never changes a result**, neither of a view with its warnings nor of
a text whose particles are replaced. -/
theorem guard_neutral (ask : Ask) :
    (∀ name given asParent,
      GuardNeutral fun limit stack => (resolve ask name given asParent limit stack).result) ∧
    (∀ t origin,
      GuardNeutral fun limit stack => (expandParticles ask t origin stack limit).result) :=
  ⟨guardNeutral_resolve ask, guardNeutral_expandParticles ask⟩

/-- A page with a layout that is resolved below two other views, with room for its layout and no more. -/
theorem guard_neutral_page :
    let ask : Ask := fun n =>
      if n = "page" then .ok "@extends('frame')@section('a')@particle('note')@endsection"
      else if n = "frame" then .ok "<@yield('a')@yield('b')>"
      else .error (.missing n)
    let run := fun limit stack => (resolve ask (some "page") none false limit stack).result
    let v : Resolved :=
      { name := some "page", content := "<>", parent := some "frame"
        warnings := [.missingParticle "note" "page", .missingSection "b" "page" "frame"] }
    run 4 ["home", "shop"] = .ok v ∧ run 50 ["shop"] = .ok v ∧
      ∀ limit stack w, run limit stack = .ok w → w = v := by
  intro ask run v
  have htight : run 4 ["home", "shop"] = .ok v := by decide +kernel
  have hneutral : GuardNeutral run := (guard_neutral ask).1 (some "page") none false
  exact ⟨htight, hneutral.loosen htight (by decide) (by decide),
    fun limit stack w h => hneutral.agree h htight⟩

end ViewEngine.Layout

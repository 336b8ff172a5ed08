/-
# Stored views and inline texts

A view can be resolved by its name, or its text can be resolved without one.  The second way goes
through the same views as the first, but that `<string>` stands on the stacks in the place of the name,
and as the view that is named in the warnings.  No view of the store has this label.  So nothing is
refused on its account, and the two ways give the same text; and since a view that was resolved never
met itself among its own particles, its name only stands in the warnings about its own directives.

* `ExpandsTo.restack`, `ResolvesTo.restack`: a stack may hold another name that is never entered;
* `PartTo.relabel`, `PoursTo.relabel`: what the views say when they are called otherwise;
* `inline_agrees`: what is resolved by name and what is resolved inline.
-/
import Mathlib.Data.List.Forall2
import ViewEngine.Proofs.Layout.Rules

namespace ViewEngine

/-! ## The view that a warning names -/

namespace ViewWarning

/-- The view in which the directive is written that a warning is about. -/
def origin : ViewWarning → Text
  | missingParticle _ origin => origin
  | missingSection _ view _ => view

/-- The warning about the same directive in the view `o`. -/
def withOrigin (o : Text) : ViewWarning → ViewWarning
  | missingParticle particle _ => missingParticle particle o
  | missingSection name _ parent => missingSection name o parent

/-- The warning with the view `b` in the place of the view `a`. -/
def renamed (a b : Text) (w : ViewWarning) : ViewWarning :=
  if w.origin = a then w.withOrigin b else w

@[simp] lemma withOrigin_origin (w : ViewWarning) : w.withOrigin w.origin = w := by
  cases w <;> rfl

@[simp] lemma kind_withOrigin (o : Text) (w : ViewWarning) : (w.withOrigin o).kind = w.kind := by
  cases w <;> rfl

lemma renamed_of_eq {a b : Text} {w : ViewWarning} (h : w.origin = a) :
    w.renamed a b = w.withOrigin b := if_pos h

lemma renamed_of_ne {a b : Text} {w : ViewWarning} (h : w.origin ≠ a) : w.renamed a b = w := if_neg h

lemma renamed_missingParticle (a b n : Text) :
    (missingParticle n a).renamed a b = missingParticle n b := if_pos rfl

lemma renamed_missingSection (a b n p : Text) :
    (missingSection n a p).renamed a b = missingSection n b p := if_pos rfl

/-- The name of the view stands at one place in the text of a warning. -/
lemma exists_message_withOrigin (w : ViewWarning) :
    ∃ front back, ∀ o, (w.withOrigin o).message = front ++ o ++ back := by
  cases w with
  | missingParticle particle origin =>
    refine ⟨"particle \"" ++ particle ++ "\" not found in \"", "\"", fun o => ?_⟩
    delta message
    dsimp only [withOrigin]
  | missingSection name view parent =>
    refine ⟨"section \"" ++ name ++ "\" not found in \"", "\" for parent \"" ++ parent ++ "\"",
      fun o => ?_⟩
    delta message
    dsimp only [withOrigin]
    simp only [List.append_assoc]

/-- The two warnings are of one class, and their texts are the same, or differ in that the first says
`a` and the second `b`. -/
def AgreeBut (a b : Text) (w w' : ViewWarning) : Prop :=
  w'.kind = w.kind ∧
    (w'.message = w.message ∨ w.origin = a ∧ w'.origin = b ∧
      ∃ front back, w.message = front ++ a ++ back ∧ w'.message = front ++ b ++ back)

lemma agreeBut_self (a b : Text) (w : ViewWarning) : AgreeBut a b w w := ⟨rfl, .inl rfl⟩

lemma agreeBut_renamed (a b : Text) (w : ViewWarning) : AgreeBut a b w (w.renamed a b) := by
  by_cases h : w.origin = a
  · obtain ⟨front, back, hmessage⟩ := w.exists_message_withOrigin
    rw [renamed_of_eq h]
    refine ⟨kind_withOrigin b w, .inr ⟨h, by cases w <;> rfl, front, back, ?_, hmessage b⟩⟩
    rw [← hmessage a, ← h, withOrigin_origin]
  · rw [renamed_of_ne h]
    exact agreeBut_self a b w

end ViewWarning

namespace Layout

/-- The expansion with the view `b` in the place of the view `a` in its warnings. -/
def Expansion.renamed (a b : Text) (e : Expansion) : Expansion :=
  ⟨e.text, e.warnings.map (·.renamed a b)⟩

@[simp] lemma Expansion.renamed_append (a b : Text) (e f : Expansion) :
    (e ++ f).renamed a b = e.renamed a b ++ f.renamed a b :=
  congrArg (Expansion.mk _) List.map_append

lemma Expansion.renamed_single (a b : Text) (w : ViewWarning) :
    Expansion.renamed a b ⟨[], [w]⟩ = ⟨[], [w.renamed a b]⟩ := rfl

lemma Expansion.renamed_of_ne {a b : Text} {e : Expansion} (h : ∀ w ∈ e.warnings, w.origin ≠ a) :
    e.renamed a b = e := by
  have hwarnings : e.warnings.map (·.renamed a b) = e.warnings.map id :=
    List.map_congr_left fun w hw => ViewWarning.renamed_of_ne (h w hw)
  rw [Expansion.renamed, hwarnings, List.map_id]

/-! ## Another name on the stack -/

variable {ask : Ask} {limit : Int} {stack stack' : List Text}

/-- The second stack is as high as the first, and no view of the store is on it alone. -/
structure Restacks (ask : Ask) (stack stack' : List Text) : Prop where
  length : stack'.length = stack.length
  not_mem : ∀ {n s}, ask n = .ok s → n ∉ stack → n ∉ stack'

lemma Restacks.enter (h : Restacks ask stack stack') (n : Text) :
    Restacks ask (stack ++ [n]) (stack' ++ [n]) where
  length := by simp [h.length]
  not_mem hs hn := by
    rw [List.mem_append, not_or] at hn ⊢
    exact ⟨h.not_mem hs hn.1, hn.2⟩

/-- The only name on the stack is exchanged for one that the store does not have. -/
lemma Restacks.single {a b : Text} (hb : ∀ t, ask b ≠ .ok t) : Restacks ask [a] [b] where
  length := rfl
  not_mem {n s} hs _ := by
    rw [List.mem_singleton]
    rintro rfl
    exact hb s hs

lemma ExpandsTo.restack {origin : Option Text} {ps : List (Text.Piece Text)}
    {r : Except ResolveFault Expansion} {e : Expansion} (h : ExpandsTo ask limit origin stack ps r)
    (hr : r = .ok e) (hstack : Restacks ask stack stack') :
    ExpandsTo ask limit origin stack' ps (.ok e) := by
  induction h generalizing stack' e with
  | nil =>
    cases hr
    exact .nil
  | plain _ ih =>
    obtain ⟨e', he', rfl⟩ := ok_of_map hr
    exact .plain (ih he' hstack)
  | missing ha _ ih =>
    obtain ⟨e', he', rfl⟩ := ok_of_map hr
    exact .missing ha (ih he' hstack)
  | unread | circular | tooDeep | fails => cases hr
  | @inserted origin stack n t s ps e₁ r ha hmem hroom _ _ ih₁ ih₂ =>
    obtain ⟨e', he', rfl⟩ := ok_of_map hr
    have hroom' : stack'.length < limit := by rwa [hstack.length]
    exact .inserted ha (hstack.not_mem ha hmem) hroom' (ih₁ rfl (hstack.enter n)) (ih₂ he' hstack)

/-- A parent, which is always asked for, is resolved in the same way on either stack. -/
lemma ResolvesTo.restack {name given : Option Text} {asParent : Bool}
    {r : Except ResolveFault Resolved} {v : Resolved}
    (h : ResolvesTo ask limit name given asParent stack r) (hr : r = .ok v) (hgiven : given = none)
    (hstack : Restacks ask stack stack') :
    ResolvesTo ask limit name given asParent stack' (.ok v) := by
  have hasked : ∀ {n s}, Source ask n given s → ask n = .ok s := by
    rintro n s (hs | ⟨-, hs⟩)
    · cases hgiven.symm.trans hs
    · exact hs
  induction h generalizing stack' v with
  | circular | tooDeep | unread | orphan => cases hr
  | root hmem hroom hs hp hpart =>
    obtain ⟨e, rfl, rfl⟩ := ok_of_map hr
    exact .root (hstack.not_mem (hasked hs) hmem) (by rwa [hstack.length]) hs hp hpart
  | child hmem hroom hs hp _ hpour ih =>
    obtain ⟨e, rfl, rfl⟩ := ok_of_map hr
    have hparent := ih rfl rfl (hstack.enter _) fun hsource => hsource.elim nofun And.right
    exact .child (hstack.not_mem (hasked hs) hmem) (by rwa [hstack.length]) hs hp hparent hpour

/-! ## Another name for a view -/

variable {name : Text}

/-- A view on the stack is not the origin of a warning, since it is not entered again. -/
lemma ExpandsTo.origin_ne {origin : Option Text} {ps : List (Text.Piece Text)}
    {r : Except ResolveFault Expansion} {e : Expansion} (h : ExpandsTo ask limit origin stack ps r)
    (hr : r = .ok e) (hmem : name ∈ stack) (hinline : name ≠ inlineName)
    (horigin : labelOf origin ≠ name) : ∀ w ∈ e.warnings, w.origin ≠ name := by
  induction h generalizing e with
  | nil =>
    cases hr
    exact List.forall_mem_nil _
  | plain _ ih =>
    obtain ⟨e', he', rfl⟩ := ok_of_map hr
    have hrest := ih he' hmem horigin
    exact hrest
  | missing _ _ ih =>
    obtain ⟨e', he', rfl⟩ := ok_of_map hr
    exact List.forall_mem_cons.2 ⟨horigin, ih he' hmem horigin⟩
  | unread | circular | tooDeep | fails => cases hr
  | @inserted origin stack n t s ps e₁ r _ hn _ _ _ ih₁ ih₂ =>
    obtain ⟨e₂, he₂, rfl⟩ := ok_of_map hr
    -- an empty name counts as none
    have hlabel : labelOf (some n) ≠ name := by
      rcases eq_or_ne n [] with rfl | hne
      · exact Ne.symm hinline
      · rw [labelOf_some hne]
        rintro rfl
        exact hn hmem
    exact List.forall_mem_append.2
      ⟨ih₁ rfl (List.mem_append_left _ hmem) hlabel, ih₂ he₂ hmem horigin⟩

section

variable (hname : name ≠ []) (hinline : name ≠ inlineName) (hlost : ∀ t, ask inlineName ≠ .ok t)

include hname hinline hlost

lemma ExpandsTo.relabel {ps : List (Text.Piece Text)} {origin : Option Text}
    {r : Except ResolveFault Expansion} {e : Expansion} (h : ExpandsTo ask limit origin stack ps r)
    (hr : r = .ok e) (horigin : origin = some name) (hstack : stack = [name]) :
    ExpandsTo ask limit (some inlineName) [inlineName] ps (.ok (e.renamed name inlineName)) := by
  induction h generalizing e with
  | nil =>
    cases hr
    exact .nil
  | plain _ ih =>
    obtain ⟨e', he', rfl⟩ := ok_of_map hr
    rw [Expansion.renamed_append]
    exact .plain (ih he' horigin hstack)
  | @missing _ _ n _ _ _ _ ha _ ih =>
    obtain ⟨e', he', rfl⟩ := ok_of_map hr
    subst horigin
    rw [Expansion.renamed_append, labelOf_some hname, Expansion.renamed_single,
      ViewWarning.renamed_missingParticle]
    exact .missing ha (ih he' rfl hstack)
  | unread | circular | tooDeep | fails => cases hr
  | @inserted _ _ n _ _ _ e₁ _ ha hmem hroom h₁ _ _ ih₂ =>
    obtain ⟨e₂, he₂, rfl⟩ := ok_of_map hr
    subst hstack
    have hswap : Restacks ask [name] [inlineName] := .single hlost
    -- inside the particle nothing is said of the view itself
    have hlabel : labelOf (some n) ≠ name := by
      rcases eq_or_ne n [] with rfl | hne
      · exact Ne.symm hinline
      · rw [labelOf_some hne]
        exact fun heq => hmem (List.mem_singleton.2 heq)
    have hquiet := h₁.origin_ne rfl (List.mem_append_left _ List.mem_cons_self) hinline hlabel
    rw [Expansion.renamed_append, Expansion.renamed_of_ne hquiet]
    exact .inserted ha (hswap.not_mem ha hmem) hroom (h₁.restack rfl (hswap.enter n))
      (ih₂ he₂ horigin rfl)

/-- A part of the view. -/
lemma PartTo.relabel {t : Text} {e : Expansion} (h : PartTo ask limit name t (.ok e)) :
    PartTo ask limit inlineName t (.ok (e.renamed name inlineName)) :=
  ExpandsTo.relabel hname hinline hlost h rfl rfl rfl

/-- The sections of the view, poured into a parent. -/
lemma PoursTo.relabel {parent : Text} {d : Dependencies} {asParent : Bool}
    {ps : List (Text.Piece Text)} {r : Except ResolveFault Expansion} {e : Expansion}
    (h : PoursTo ask limit name parent d asParent ps r) (hr : r = .ok e) :
    PoursTo ask limit inlineName parent d asParent ps (.ok (e.renamed name inlineName)) := by
  induction h generalizing e with
  | nil =>
    cases hr
    exact .nil
  | plain _ ih =>
    obtain ⟨e', he', rfl⟩ := ok_of_map hr
    rw [Expansion.renamed_append]
    exact .plain (ih he')
  | filled hd hpart _ ih =>
    obtain ⟨e', he', rfl⟩ := ok_of_map hr
    rw [Expansion.renamed_append]
    exact .filled hd (hpart.relabel hname hinline hlost) (ih he')
  | fails => cases hr
  | kept hd hmode _ ih =>
    obtain ⟨e', he', rfl⟩ := ok_of_map hr
    rw [Expansion.renamed_append]
    exact .kept hd hmode (ih he')
  | @dropped n _ _ _ hd hmode _ ih =>
    obtain ⟨e', he', rfl⟩ := ok_of_map hr
    rw [Expansion.renamed_append, Expansion.renamed_single, ViewWarning.renamed_missingSection]
    exact .dropped hd hmode (ih he')

end

/-! ## The two ways -/

/-- What the parent of a view warns of, if it has one. -/
def WarnsAbove (ask : Ask) (limit : Int) (name : Text) (parent : Option Text)
    (above : List ViewWarning) : Prop :=
  match parent with
  | none => above = []
  | some p => ∃ u, (resolve ask (some p) none true limit [name]).result = .ok u ∧ u.warnings = above

/-- **A view that is resolved by its name and the same text that is resolved inline agree.**  Take a
store in which no view is called `<string>`, and a view that it has.  If the view can be resolved, so
can its text; content and parent are the same, and there are as many warnings of the same classes.
First come those of the parent, which are the same; those of the view itself say `<string>` where they
named the view, and nothing else in them changes. -/
theorem inline_agrees {ask : Ask} {name s : Text} {asParent : Bool} {limit : Int} {v : Resolved}
    (hname : name ≠ []) (hs : ask name = .ok s) (hlost : ∀ t, ask inlineName ≠ .ok t)
    (h : (resolve ask (some name) none asParent limit []).result = .ok v) :
    ∃ v' above own, (resolve ask none (some s) asParent limit []).result = .ok v' ∧
      v'.content = v.content ∧ v'.parent = v.parent ∧
      List.Forall₂ (ViewWarning.AgreeBut name inlineName) v.warnings v'.warnings ∧
      WarnsAbove ask limit name v.parent above ∧
      v.warnings = above ++ own ∧
      v'.warnings = above ++ own.map (·.renamed name inlineName) := by
  have hinline : name ≠ inlineName := by
    rintro rfl
    exact hlost s hs
  have hrules : ResolvesTo ask limit (some name) none asParent [] (.ok v) :=
    resolvesTo_iff.2 h.symm
  have hlabel : labelOf (some name) = name := labelOf_some hname
  have hagree : ∀ above own : List ViewWarning,
      List.Forall₂ (ViewWarning.AgreeBut name inlineName) (above ++ own)
        (above ++ own.map (·.renamed name inlineName)) := by
    intro above own
    refine List.rel_append (List.forall₂_same.2 fun w _ => ViewWarning.agreeBut_self _ _ w) ?_
    rw [List.forall₂_map_right_iff]
    exact List.forall₂_same.2 fun w _ => ViewWarning.agreeBut_renamed _ _ w
  generalize hr : Except.ok v = r at hrules
  cases hrules with
  | circular | tooDeep | unread | orphan => cases hr
  | @root _ _ _ _ s' _ hmem hroom hsource hp hpart =>
    obtain ⟨e, rfl, rfl⟩ := ok_of_map hr.symm
    rw [hlabel] at hsource hpart
    obtain rfl : s' = s := hsource.unique (.inr ⟨rfl, hs⟩)
    have hinside := hpart.relabel hname hinline hlost
    have hresult : ResolvesTo ask limit none (some s') asParent []
        (.ok (finished none asParent none (e.renamed name inlineName))) :=
      ResolvesTo.root (r := .ok _) List.not_mem_nil hroom (.inl rfl) hp hinside
    exact ⟨_, [], e.warnings, (resolvesTo_iff.1 hresult).symm, rfl, rfl, hagree [] e.warnings, rfl,
      rfl, rfl⟩
  | @child _ _ _ _ s' p parent _ hmem hroom hsource hp hparent hpour =>
    obtain ⟨e, rfl, rfl⟩ := ok_of_map hr.symm
    rw [hlabel] at hsource hparent hpour
    obtain rfl : s' = s := hsource.unique (.inr ⟨rfl, hs⟩)
    have hinside := hpour.relabel hname hinline hlost rfl
    have habove : ResolvesTo ask limit (some p) none true [inlineName] (.ok parent) :=
      hparent.restack rfl rfl (.single hlost)
    have hresult : ResolvesTo ask limit none (some s') asParent []
        (.ok (finished none asParent (some p)
          (⟨[], parent.warnings⟩ ++ e.renamed name inlineName))) :=
      ResolvesTo.child (r := .ok _) List.not_mem_nil hroom (.inl rfl) hp habove hinside
    exact ⟨_, parent.warnings, e.warnings, (resolvesTo_iff.1 hresult).symm, rfl, rfl,
      hagree parent.warnings e.warnings, ⟨parent, (resolvesTo_iff.1 hparent).symm, rfl⟩, rfl, rfl⟩

/-- A page whose layout shows the raw text of the page again: there it keeps its name. -/
theorem inline_agrees_page :
    let page : Text := "@extends('frame')@section('a')@particle('lost')@endsection"
    let ask : Ask := fun n =>
      if n = "page" then .ok page
      else if n = "frame" then .ok "<@yield('a')@yield('b')@particle('page')>"
      else .error (.missing n)
    let content : Text := "<@extends('frame')@section('a')@endsection>"
    (resolve ask (some "page") none false 50 []).result = .ok
        { name := some "page", content, parent := some "frame"
          warnings := [.missingParticle "lost" "page", .missingParticle "lost" "page",
            .missingSection "b" "page" "frame"] } ∧
      ∃ v', (resolve ask none (some page) false 50 []).result = .ok v' ∧ v'.content = content ∧
        v'.parent = some "frame" ∧
        v'.warnings = [.missingParticle "lost" "page", .missingParticle "lost" "<string>",
          .missingSection "b" "<string>" "frame"] := by
  intro page ask content
  have hresolve : (resolve ask (some "page") none false 50 []).result = .ok
      { name := some "page", content, parent := some "frame"
        warnings := [.missingParticle "lost" "page", .missingParticle "lost" "page",
          .missingSection "b" "page" "frame"] } := by
    decide +kernel
  have hinline : (resolve ask none (some page) false 50 []).result = .ok
      { name := none, content, parent := some "frame"
        warnings := [.missingParticle "lost" "page", .missingParticle "lost" "<string>",
          .missingSection "b" "<string>" "frame"] } := by
    decide +kernel
  have hlost : ∀ t, ask inlineName ≠ .ok t := by
    intro t ht
    have hmissing : ask inlineName = .error (.missing inlineName) := rfl
    cases hmissing.symm.trans ht
  obtain ⟨v', -, -, hv', hcontent, hparent, -⟩ :=
    inline_agrees (by decide) (rfl : ask "page" = .ok page) hlost hresolve
  refine ⟨hresolve, v', hv', hcontent, hparent, ?_⟩
  cases hinline.symm.trans hv'
  rfl

end Layout
end ViewEngine

/-
# Missing particles

A particle that the store does not have is treated as if it were empty.  To say so exactly, the store
is compared with the one that has an empty view under each name that is missing: the same text is put
together from both, and the missing names show in the warnings alone.  There is one warning for each
occurrence of a missing name, in the order in which a reader meets the occurrences who reads the text
that a particle stands for in the place of the particle.

* `Visits`: the occurrences of particles, in that order;
* `ExpandsTo.ofPadded`: what the pieces of a text give with either store;
* `missing_as_empty`: what a text gives with either store.
-/
import ViewEngine.Proofs.Layout.Directive
import ViewEngine.Proofs.Layout.Rules

namespace ViewEngine.Layout

/-! ## Stores without missing views -/

/-- Does the store have no view of this name? -/
def lacks (ask : Ask) (n : Text) : Bool :=
  match ask n with
  | .error (.missing _) => true
  | _ => false

/-- The store with an empty view under each name that is missing. -/
def padded (ask : Ask) : Ask := fun n => if lacks ask n then .ok [] else ask n

variable {ask : Ask}

lemma lacks_iff {n : Text} : lacks ask n = true ↔ ∃ m, ask n = .error (.missing m) := by
  unfold lacks
  constructor
  · intro h
    split at h
    · next m hm => exact ⟨m, hm⟩
    · cases h
  · rintro ⟨m, hm⟩
    rw [hm]

lemma padded_of_lacks {n : Text} (h : lacks ask n = true) : padded ask n = .ok [] := by
  rw [padded, if_pos h]

lemma padded_of_not_lacks {n : Text} (h : ¬ lacks ask n = true) : padded ask n = ask n := by
  rw [padded, if_neg h]

/-- Nothing is missing from a padded store. -/
lemma padded_ne_missing (n m : Text) : padded ask n ≠ .error (.missing m) := by
  intro h
  by_cases hlacks : lacks ask n = true
  · rw [padded_of_lacks hlacks] at h
    cases h
  · rw [padded_of_not_lacks hlacks] at h
    exact hlacks (lacks_iff.2 ⟨m, h⟩)

/-! ## Occurrences of particles -/

/-- A particle as it occurs in a text. -/
structure Occurrence where
  /-- The name of the particle. -/
  name : Text
  /-- The view in whose own text the particle is written. -/
  view : Text
deriving DecidableEq, Repr

/-- The occurrences that are met behind particles with these names, which are written in the text of a
view: each one is followed by those in the text of the particle, and then by those behind it. -/
inductive Visits (ask : Ask) : Text → List Text → List Occurrence → Prop where
  | nil {view} : Visits ask view [] []
  | cons {view n s ns inside behind} : ask n = .ok s →
      Visits ask n (Text.findAll particle? s) inside → Visits ask view ns behind →
      Visits ask view (n :: ns) (⟨n, view⟩ :: (inside ++ behind))

lemma Visits.unique {view : Text} {ns : List Text} {os os' : List Occurrence}
    (h : Visits ask view ns os) (h' : Visits ask view ns os') : os = os' := by
  induction h generalizing os' with
  | nil =>
    cases h' with
    | nil => rfl
  | cons ha _ _ ih₁ ih₂ =>
    cases h' with
    | cons ha' h₁ h₂ =>
      cases Except.ok.inj (ha.symm.trans ha')
      rw [ih₁ h₁, ih₂ h₂]

/-- The warnings for those of the occurrences whose names are missing. -/
def missingWarnings (ask : Ask) (os : List Occurrence) : List ViewWarning :=
  (os.filter fun o => lacks ask o.name).map fun o => .missingParticle o.name o.view

lemma missingWarnings_cons (o : Occurrence) (os : List Occurrence) :
    missingWarnings ask (o :: os) = if lacks ask o.name = true
      then .missingParticle o.name o.view :: missingWarnings ask os
      else missingWarnings ask os := by
  by_cases h : lacks ask o.name = true <;> simp [missingWarnings, h]

lemma missingWarnings_append (os os' : List Occurrence) :
    missingWarnings ask (os ++ os') = missingWarnings ask os ++ missingWarnings ask os' := by
  rw [missingWarnings, List.filter_append, List.map_append]
  rfl

/-! ## The two stores beside each other -/

variable {limit : Int}

/-- An empty text is expanded to the empty text. -/
lemma ExpandsTo.of_nil {origin : Option Text} {stack : List Text} {e : Expansion}
    (h : ExpandsTo ask limit origin stack [] (.ok e)) : e = ⟨[], []⟩ :=
  Except.ok.inj (h.unique .nil)

/-- What the padded store gives without a warning, the store gives with those for the occurrences of
missing names. -/
theorem ExpandsTo.ofPadded {origin : Option Text} {stack : List Text}
    {ps : List (Text.Piece Text)} {r : Except ResolveFault Expansion} {e : Expansion}
    (h : ExpandsTo (padded ask) limit origin stack ps r) (hr : r = .ok e)
    (hnames : ∀ n ∈ ps.filterMap Text.Piece.held?, IsName n) :
    e.warnings = [] ∧ ∃ os,
      Visits (padded ask) (labelOf origin) (ps.filterMap Text.Piece.held?) os ∧
      ExpandsTo ask limit origin stack ps (.ok ⟨e.text, missingWarnings ask os⟩) := by
  induction h generalizing e with
  | nil =>
    cases hr
    exact ⟨rfl, [], .nil, .nil⟩
  | plain _ ih =>
    obtain ⟨e', he', rfl⟩ := ok_of_map hr
    obtain ⟨hwarnings, os, hvisits, hexpands⟩ := ih he' hnames
    exact ⟨hwarnings, os, hvisits, .plain hexpands⟩
  | missing ha => exact absurd ha (padded_ne_missing _ _)
  | unread | circular | tooDeep | fails => cases hr
  | @inserted origin stack n t s ps e₁ r ha hmem hroom h₁ _ ih₁ ih₂ =>
    obtain ⟨e₂, he₂, rfl⟩ := ok_of_map hr
    obtain ⟨hname, hnames⟩ := List.forall_mem_cons.1 hnames
    obtain ⟨hwarnings₁, inside, hinside, hexpands₁⟩ := ih₁ rfl fun m hm => isName_of_mem_findAll hm
    obtain ⟨hwarnings₂, behind, hbehind, hexpands₂⟩ := ih₂ he₂ hnames
    rw [labelOf_some hname.1] at hinside
    refine ⟨?_, ⟨n, labelOf origin⟩ :: (inside ++ behind), .cons ha hinside hbehind, ?_⟩
    · show e₁.warnings ++ e₂.warnings = []
      rw [hwarnings₁, hwarnings₂, List.append_nil]
    by_cases hlacks : lacks ask n = true
    -- the padded store has an empty view, in which there is no occurrence
    · obtain rfl : s = [] := Except.ok.inj (ha.symm.trans (padded_of_lacks hlacks))
      obtain rfl : e₁ = ⟨[], []⟩ := h₁.of_nil
      obtain rfl : inside = [] := hinside.unique .nil
      obtain ⟨m, hm⟩ := lacks_iff.1 hlacks
      rw [missingWarnings_cons, if_pos hlacks]
      exact .missing hm hexpands₂
    -- both stores have the same view
    · rw [padded_of_not_lacks hlacks] at ha
      rw [missingWarnings_cons, if_neg hlacks, missingWarnings_append]
      exact .inserted ha hmem hroom hexpands₁ hexpands₂

/-- **A missing particle is an empty view and a warning.**  If a text can be expanded with an empty
view under each name that is missing, it is expanded to the same text without, and there is one
warning for each occurrence of a missing name; the empty views themselves give no warning.  A text
that comes from no view, or from one with an empty name, is called `<string>`. -/
theorem missing_as_empty (ask : Ask) (t : Text) (origin : Option Text) (stack : List Text)
    (limit : Int) (e : Expansion)
    (h : (expandParticles (padded ask) t origin stack limit).result = .ok e) :
    e.warnings = [] ∧ ∃ os,
      (∀ os', Visits (padded ask) (labelOf origin) (Text.findAll particle? t) os' ↔ os' = os) ∧
      (expandParticles ask t origin stack limit).result =
        .ok ⟨e.text, missingWarnings ask os⟩ := by
  have hpadded : ExpandsTo (padded ask) limit origin stack (Text.pieces particle? t)
      (expandParticles (padded ask) t origin stack limit).result :=
    expandsTo_expandParticles origin stack t
  obtain ⟨hwarnings, os, hvisits, hexpands⟩ :=
    hpadded.ofPadded h fun n hn => isName_of_mem_findAll hn
  refine ⟨hwarnings, os, fun os' => ⟨fun h' => h'.unique hvisits, ?_⟩, ?_⟩
  · rintro rfl
    exact hvisits
  · exact (expandsTo_expandParticles origin stack t).unique hexpands

/-- A text with a missing particle, once in a particle of its own and once behind it. -/
theorem missing_as_empty_note :
    let ask : Ask := fun n =>
      if n = "card" then .ok "[@particle('icon')]@particle('foot')"
      else if n = "foot" then .ok "-"
      else .error (.missing n)
    let t : Text := "@particle('card') @particle('icon')."
    (expandParticles (padded ask) t none [] 50).result = .ok ⟨"[]- .", []⟩ ∧
      ∃ os, Visits (padded ask) "<string>" (Text.findAll particle? t) os ∧
        missingWarnings ask os =
          [.missingParticle "icon" "card", .missingParticle "icon" "<string>"] := by
  intro ask t
  have hpadded : (expandParticles (padded ask) t none [] 50).result = .ok ⟨"[]- .", []⟩ := by
    decide +kernel
  have hresult : (expandParticles ask t none [] 50).result = .ok ⟨"[]- .",
      [.missingParticle "icon" "card", .missingParticle "icon" "<string>"]⟩ := by decide +kernel
  obtain ⟨-, os, hvisits, hexpands⟩ := missing_as_empty ask t none [] 50 _ hpadded
  refine ⟨hpadded, os, (hvisits os).2 rfl, ?_⟩
  exact congrArg Expansion.warnings (Except.ok.inj (hexpands.symm.trans hresult))

end ViewEngine.Layout

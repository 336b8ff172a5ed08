/-
# Chains of parents

A view with a parent is poured into it, the parent into its own parent, and so on up to the view
without a parent, the root.  Resolution works from the view upwards; what it gives is described here
from the root downwards: the text of the root is taken, and one view after the other, from the root
to the view that is rendered, puts its sections into the places that are left.

* `content_eq_fold`, `warnings_eq_fold`: what a chain gives, as a fold from the root downwards;
* `pour_place`: a place is filled where it stands, whatever was poured in front of it;
* `ResolvesTo.congr`: what a chain gives depends on the sections of the views and on the particles.
-/
import Mathlib.Tactic.Common
import Mathlib.Tactic.Lemma
import ViewEngine.Proofs.Layout.Recursion

namespace ViewEngine.Layout

/-! ## Chains -/

/-- A view below the root, as far as it matters to the chain. -/
structure Layer where
  /-- The name of the view. -/
  label : Text
  /-- The name of its parent. -/
  parent : Text
  /-- Its sections. -/
  sections : Names Text
deriving DecidableEq

/-- The view without a parent. -/
structure Root where
  /-- The name of the view. -/
  label : Text
  /-- Its text without directives for the layout. -/
  body : Text
deriving DecidableEq

section

variable (ask : Ask) (limit : Int)

/-- The views from one of them up to the root. -/
inductive Chain : Option Text → Text → List Layer → Root → Prop where
  | root {given label s} : Source ask label given s → (dependencies s).parent = none →
      Chain given label [] ⟨label, (dependencies s).body⟩
  | child {given label s p layers root} : Source ask label given s →
      (dependencies s).parent = some p → Chain none p layers root →
      Chain given label (⟨label, p, (dependencies s).sections⟩ :: layers) root

/-- A part of a view with its particles replaced, if they can be. -/
def expanded (label t : Text) : Expansion :=
  (expandPart ask limit label t).result.toOption.getD ⟨[], []⟩

namespace Layer

/-- What a view puts into a place: its section, or else the place itself if it is not the last view,
or else nothing. -/
def put (l : Layer) (asParent : Bool) (name mark : Text) : Expansion :=
  match l.sections.find? name with
  | some body => expanded ask limit l.label body
  | none => if asParent then ⟨mark, []⟩ else ⟨[], [.missingSection name l.label l.parent]⟩

/-- What a view puts into a text, in one pass. -/
def pour (l : Layer) (asParent : Bool) (upper : Text) : Text :=
  Text.replaceAll yield? (fun name mark => (l.put ask limit asParent name mark).text) upper

/-- The warnings that arise while a view is poured into a text. -/
def complaints (l : Layer) (asParent : Bool) (upper : Text) : List ViewWarning :=
  (Text.findAll yield? upper).flatMap fun name => (l.put ask limit asParent name []).warnings

end Layer

/-- A text into which the views of some layers were poured, the last layer first. -/
def poured (layers : List Layer) (t : Text) : Text :=
  layers.foldr (fun l upper => l.pour ask limit true upper) t

/-- The text of a chain; its first view is the last one to be poured. -/
def chainText (asParent : Bool) (root : Root) : List Layer → Text
  | [] => (expanded ask limit root.label root.body).text
  | l :: layers => l.pour ask limit asParent
      (poured ask limit layers (expanded ask limit root.label root.body).text)

/-- The warnings of a chain: those of the root come first. -/
def chainWarnings (asParent : Bool) (root : Root) : List Layer → List ViewWarning
  | [] => (expanded ask limit root.label root.body).warnings
  | l :: layers => chainWarnings true root layers ++ l.complaints ask limit asParent
      (poured ask limit layers (expanded ask limit root.label root.body).text)

end

variable {ask : Ask} {limit : Int}

namespace Chain

variable {given : Option Text} {label s p : Text} {l : Layer} {layers : List Layer} {root : Root}

lemma nil_inv (h : Chain ask given label [] root) :
    ∃ s, Source ask label given s ∧ (dependencies s).parent = none ∧
      root = ⟨label, (dependencies s).body⟩ := by
  cases h with
  | root hs hp => exact ⟨_, hs, hp, rfl⟩

lemma cons_inv (h : Chain ask given label (l :: layers) root) :
    ∃ s p, Source ask label given s ∧ (dependencies s).parent = some p ∧
      l = ⟨label, p, (dependencies s).sections⟩ ∧ Chain ask none p layers root := by
  cases h with
  | child hs hp h => exact ⟨_, _, hs, hp, rfl, h⟩

/-- The chain of a view without a parent. -/
lemma of_root (h : Chain ask given label layers root) (hs : Source ask label given s)
    (hp : (dependencies s).parent = none) :
    layers = [] ∧ root = ⟨label, (dependencies s).body⟩ := by
  cases h with
  | root hs' _ =>
    cases hs.unique hs'
    exact ⟨rfl, rfl⟩
  | child hs' hp' =>
    cases hs.unique hs'
    cases hp.symm.trans hp'

/-- The chain of a view with a parent. -/
lemma of_child (h : Chain ask given label layers root) (hs : Source ask label given s)
    (hp : (dependencies s).parent = some p) :
    ∃ above, layers = ⟨label, p, (dependencies s).sections⟩ :: above ∧
      Chain ask none (labelOf (some p)) above root := by
  cases h with
  | root hs' hp' =>
    cases hs.unique hs'
    cases hp.symm.trans hp'
  | child hs' hp' h =>
    cases hs.unique hs'
    cases Option.some.inj (hp.symm.trans hp')
    rw [labelOf_some (isName_parent hp).1]
    exact ⟨_, rfl, h⟩

end Chain

lemma chainText_true (root : Root) (layers : List Layer) :
    chainText ask limit true root layers =
      poured ask limit layers (expanded ask limit root.label root.body).text := by
  cases layers <;> rfl

/-! ## What a chain gives -/

lemma expandPart_of_partTo {label t : Text} {e : Expansion} (h : PartTo ask limit label t (.ok e)) :
    (expandPart ask limit label t).result = .ok e :=
  (partTo_expandPart label t).unique h

lemma expanded_of_partTo {label t : Text} {e : Expansion} (h : PartTo ask limit label t (.ok e)) :
    expanded ask limit label t = e := by
  rw [expanded, expandPart_of_partTo h]
  rfl

/-- A section that is poured has an expansion. -/
def Expandable (ask : Ask) (limit : Int) (label t : Text) : Prop :=
  (expandPart ask limit label t).result = .ok (expanded ask limit label t)

lemma expandable_of_partTo {label t : Text} {e : Expansion}
    (h : PartTo ask limit label t (.ok e)) : Expandable ask limit label t := by
  rw [Expandable, expanded_of_partTo h, expandPart_of_partTo h]

/-- The result of pouring a view into the pieces of a text. -/
structure Filled (ask : Ask) (limit : Int) (l : Layer) (asParent : Bool)
    (ps : List (Text.Piece Text)) (e : Expansion) : Prop where
  /-- Each place holds what the view puts there. -/
  text : e.text = ps.flatMap
    (Text.Piece.fill fun name mark => (l.put ask limit asParent name mark).text)
  /-- The warnings of the places, in order. -/
  warnings : e.warnings = (ps.filterMap Text.Piece.held?).flatMap
    fun name => (l.put ask limit asParent name []).warnings
  /-- Each section that was needed has an expansion. -/
  parts : ∀ name ∈ ps.filterMap Text.Piece.held?, ∀ body, l.sections.find? name = some body →
    Expandable ask limit l.label body

namespace Filled

variable {l : Layer} {asParent : Bool} {ps : List (Text.Piece Text)} {e first : Expansion}
  {n t : Text}

lemma plain (h : Filled ask limit l asParent ps e) :
    Filled ask limit l asParent (.plain t :: ps) (⟨t, []⟩ ++ e) where
  text := congrArg (t ++ ·) h.text
  warnings := h.warnings
  parts := h.parts

lemma found (h : Filled ask limit l asParent ps e)
    (htext : first.text = (l.put ask limit asParent n t).text)
    (hwarn : first.warnings = (l.put ask limit asParent n []).warnings)
    (hpart : ∀ body, l.sections.find? n = some body → Expandable ask limit l.label body) :
    Filled ask limit l asParent (.found n t :: ps) (first ++ e) where
  text := congrArg₂ (· ++ ·) htext h.text
  warnings := congrArg₂ (· ++ ·) hwarn h.warnings
  parts name hname := by
    have hcons : (Text.Piece.found n t :: ps).filterMap Text.Piece.held? =
      n :: ps.filterMap Text.Piece.held? := rfl
    rw [hcons, List.mem_cons] at hname
    rcases hname with rfl | hname
    · exact hpart
    · exact h.parts name hname

end Filled

lemma PoursTo.toFilled {label parent : Text} {d : Dependencies} {asParent : Bool}
    {ps : List (Text.Piece Text)} {r : Except ResolveFault Expansion} {e : Expansion}
    (h : PoursTo ask limit label parent d asParent ps r) (hr : r = .ok e) :
    Filled ask limit ⟨label, parent, d.sections⟩ asParent ps e := by
  induction h generalizing e with
  | nil =>
    cases hr
    exact ⟨rfl, rfl, by simp⟩
  | plain _ ih =>
    obtain ⟨a, ha, rfl⟩ := ok_of_map hr
    exact (ih ha).plain
  -- the view has the section, whose expansion stands for the place
  | filled hd hpart _ ih =>
    obtain ⟨a, ha, rfl⟩ := ok_of_map hr
    have hfind : Names.find? _ d.sections = some _ := hd
    refine (ih ha).found ?_ ?_ ?_
    · simp only [Layer.put, hfind, expanded_of_partTo hpart]
    · simp only [Layer.put, hfind, expanded_of_partTo hpart]
    · intro body hbody
      cases Option.some.inj (hfind.symm.trans hbody)
      exact expandable_of_partTo hpart
  | fails => cases hr
  -- the view has no such section: the mode decides what becomes of the place
  | kept hd hmode _ ih =>
    obtain ⟨a, ha, rfl⟩ := ok_of_map hr
    have hfind : Names.find? _ d.sections = none := hd
    exact (ih ha).found (by simp [Layer.put, hfind, hmode]) (by simp [Layer.put, hfind, hmode])
      (by simp [hfind])
  | dropped hd hmode _ ih =>
    obtain ⟨a, ha, rfl⟩ := ok_of_map hr
    have hfind : Names.find? _ d.sections = none := hd
    exact (ih ha).found (by simp [Layer.put, hfind, hmode]) (by simp [Layer.put, hfind, hmode])
      (by simp [hfind])

/-- What is poured into a text. -/
lemma PoursTo.eq_pour {label parent t : Text} {d : Dependencies} {asParent : Bool} {e : Expansion}
    (h : PoursTo ask limit label parent d asParent (Text.pieces yield? t) (.ok e)) :
    let l : Layer := ⟨label, parent, d.sections⟩
    e = ⟨l.pour ask limit asParent t, l.complaints ask limit asParent t⟩ ∧
    ∀ name ∈ Text.findAll yield? t, ∀ body, l.sections.find? name = some body →
      Expandable ask limit label body := by
  intro l
  have hfilled := h.toFilled rfl
  refine ⟨?_, hfilled.parts⟩
  rw [Layer.pour, Text.replaceAll_eq_flatMap, ← hfilled.text, Layer.complaints,
    Text.findAll_eq_filterMap, ← hfilled.warnings]

/-- All parts that a chain needs have an expansion. -/
def PartsExpand (ask : Ask) (limit : Int) (root : Root) (layers : List Layer) : Prop :=
  Expandable ask limit root.label root.body ∧
  ∀ lower l upper, layers = lower ++ l :: upper →
    ∀ name ∈ Text.findAll yield? (poured ask limit upper
      (expanded ask limit root.label root.body).text),
    ∀ body, l.sections.find? name = some body → Expandable ask limit l.label body

lemma PartsExpand.cons {root : Root} {l : Layer} {layers : List Layer}
    (h : PartsExpand ask limit root layers)
    (hl : ∀ name ∈ Text.findAll yield? (poured ask limit layers
      (expanded ask limit root.label root.body).text),
      ∀ body, l.sections.find? name = some body → Expandable ask limit l.label body) :
    PartsExpand ask limit root (l :: layers) := by
  refine ⟨h.1, ?_⟩
  intro lower l' upper heq
  -- the layer in question is the new one or one of those above it
  cases lower with
  | nil =>
    cases heq
    exact hl
  | cons k lower =>
    obtain ⟨-, heq⟩ := List.cons.inj heq
    exact h.2 lower l' upper heq

/-- **A chain is resolved as if it were folded from the root downwards.** -/
theorem ResolvesTo.eq_chain {name given : Option Text} {asParent : Bool} {stack : List Text}
    {r : Except ResolveFault Resolved} {v : Resolved} {layers : List Layer} {root : Root}
    (h : ResolvesTo ask limit name given asParent stack r) (hr : r = .ok v)
    (hc : Chain ask given (labelOf name) layers root) :
    v = finished name asParent (layers.head?.map (·.parent))
      ⟨chainText ask limit asParent root layers, chainWarnings ask limit asParent root layers⟩ ∧
    PartsExpand ask limit root layers := by
  induction h generalizing v layers with
  | circular => cases hr
  | tooDeep => cases hr
  | unread => cases hr
  | root hmem hroom hs hp hpart =>
    obtain ⟨e, rfl, rfl⟩ := ok_of_map hr
    obtain ⟨rfl, rfl⟩ := hc.of_root hs hp
    refine ⟨?_, expandable_of_partTo hpart, by simp⟩
    rw [chainText, chainWarnings, expanded_of_partTo hpart]
    rfl
  | orphan => cases hr
  | child hmem hroom hs hp hparent hpour ih =>
    obtain ⟨e, rfl, rfl⟩ := ok_of_map hr
    obtain ⟨above, rfl, habove⟩ := hc.of_child hs hp
    obtain ⟨hfinished, hparts⟩ := ih rfl habove
    -- the parent is poured into as it was resolved, which is the fold over the views above
    have hcontent := (congrArg Resolved.content hfinished).trans (chainText_true root above)
    have hwarnings := congrArg Resolved.warnings hfinished
    rw [hcontent] at hpour
    obtain ⟨rfl, hneeded⟩ := hpour.eq_pour
    refine ⟨?_, hparts.cons hneeded⟩
    rw [hwarnings]
    rfl

/-! ## Places -/

section

variable {s A B : Text} (hs : IsName s) (hp : s.head? ≠ some ')')
include hs hp

/-- A place is filled where it stands, and the texts around it are poured into by themselves. -/
lemma Layer.pour_place (l : Layer) (asParent : Bool) :
    l.pour ask limit asParent (A ++ (written yieldHead s ++ B)) =
      l.pour ask limit asParent A ++
        ((l.put ask limit asParent s (written yieldHead s)).text ++
          l.pour ask limit asParent B) := by
  have hborder : ∀ x, x <:+ A → x ≠ [] → yield? (x ++ (written yieldHead s ++ B)) = yield? x :=
    fun x _ hx => named?_append_written isHead_yieldHead isHead_yieldHead hs hp hx B
  have hsound : yield?.Sound := named?_sound yieldHead
  have hfound : yield? (written yieldHead s ++ B) = some (s, (written yieldHead s).length) :=
    named?_written hs B
  rw [Layer.pour, Text.replaceAll_append hsound A hborder,
    Text.replaceAll_found (written_ne_nil _ _) hfound]
  rfl

/-- A place for a section that no layer has is kept where it stands. -/
lemma poured_place {layers : List Layer} (h : ∀ l ∈ layers, l.sections.find? s = none) :
    poured ask limit layers (A ++ (written yieldHead s ++ B)) =
      poured ask limit layers A ++ (written yieldHead s ++ poured ask limit layers B) := by
  induction layers with
  | nil => rfl
  | cons l layers ih =>
    have hlayers : ∀ k ∈ layers, k.sections.find? s = none :=
      fun k hk => h k (List.mem_cons_of_mem l hk)
    have hput : (l.put ask limit true s (written yieldHead s)).text = written yieldHead s := by
      simp [Layer.put, h l List.mem_cons_self]
    calc poured ask limit (l :: layers) (A ++ (written yieldHead s ++ B))
        = l.pour ask limit true (poured ask limit layers (A ++ (written yieldHead s ++ B))) := rfl
      _ = l.pour ask limit true (poured ask limit layers A ++
            (written yieldHead s ++ poured ask limit layers B)) := by rw [ih hlayers]
      _ = poured ask limit (l :: layers) A ++
            (written yieldHead s ++ poured ask limit (l :: layers) B) := by
          rw [Layer.pour_place hs hp, hput]
          rfl

/-- **A place is filled by the view nearest to the root that has the section.** -/
theorem pour_poured_place {l : Layer} {upper : List Layer} {body : Text} {asParent : Bool}
    (hupper : ∀ u ∈ upper, u.sections.find? s = none) (hl : l.sections.find? s = some body) :
    l.pour ask limit asParent (poured ask limit upper (A ++ written yieldHead s ++ B)) =
      l.pour ask limit asParent (poured ask limit upper A) ++ (expanded ask limit l.label body).text
        ++ l.pour ask limit asParent (poured ask limit upper B) := by
  have hput : l.put ask limit asParent s (written yieldHead s) = expanded ask limit l.label body := by
    simp [Layer.put, hl]
  rw [List.append_assoc, poured_place hs hp hupper, Layer.pour_place hs hp, hput,
    List.append_assoc]

end

/-! ## Warnings -/

/-- Does the warning tell of a place that was dropped? -/
def isDropped : ViewWarning → Bool
  | .missingSection .. => true
  | .missingParticle .. => false

/-- While particles are replaced, no place is dropped. -/
lemma ExpandsTo.filter_isDropped {origin : Option Text} {stack : List Text}
    {ps : List (Text.Piece Text)} {r : Except ResolveFault Expansion} {e : Expansion}
    (h : ExpandsTo ask limit origin stack ps r) (hr : r = .ok e) :
    e.warnings.filter isDropped = [] := by
  induction h generalizing e with
  | nil =>
    cases hr
    rfl
  | plain _ ih =>
    obtain ⟨a, ha, rfl⟩ := ok_of_map hr
    have hrest := ih ha
    exact hrest
  | missing _ _ ih =>
    obtain ⟨a, ha, rfl⟩ := ok_of_map hr
    have hrest := ih ha
    exact hrest
  | unread => cases hr
  | circular => cases hr
  | tooDeep => cases hr
  | fails => cases hr
  | inserted _ _ _ _ _ ih₁ ih₂ =>
    obtain ⟨a, ha, rfl⟩ := ok_of_map hr
    exact (List.filter_append _ _).trans (by rw [ih₁ rfl, ih₂ ha, List.nil_append])

lemma expanded_filter_isDropped (label t : Text) :
    (expanded ask limit label t).warnings.filter isDropped = [] := by
  rw [expanded]
  rcases h : (expandPart ask limit label t).result with f | e
  · rfl
  · have hpart : PartTo ask limit label t _ := partTo_expandPart label t
    exact ExpandsTo.filter_isDropped hpart h

lemma Layer.filter_isDropped_put (l : Layer) (name mark : Text) :
    (l.put ask limit true name mark).warnings.filter isDropped = [] := by
  rw [Layer.put]
  split
  · exact expanded_filter_isDropped _ _
  · rfl

/-- A view that is not the last one drops no place. -/
lemma filter_isDropped_chainWarnings (root : Root) (layers : List Layer) :
    (chainWarnings ask limit true root layers).filter isDropped = [] := by
  induction layers with
  | nil => exact expanded_filter_isDropped _ _
  | cons l layers ih =>
    rw [chainWarnings, List.filter_append, ih, Layer.complaints, List.filter_flatMap]
    simp [Layer.filter_isDropped_put]

/-- The last view warns of each place that it drops. -/
lemma Layer.filter_isDropped_complaints (l : Layer) (upper : Text) :
    (l.complaints ask limit false upper).filter isDropped =
      ((Text.findAll yield? upper).filter fun name => l.sections.find? name = none).map
        fun name => .missingSection name l.label l.parent := by
  rw [Layer.complaints, List.filter_flatMap]
  induction Text.findAll yield? upper with
  | nil => rfl
  | cons name names ih =>
    rw [List.flatMap_cons, ih, List.filter_cons]
    rcases h : l.sections.find? name with _ | body
    · simp only [Layer.put, h]
      rfl
    · simp [Layer.put, h, expanded_filter_isDropped]

/-! ## What a chain depends on -/

/-- The text reaches the view `n` through its particles and theirs. -/
def Reaches (ask : Ask) (t n : Text) : Prop :=
  ∃ m ∈ Text.findAll particle? t, Relation.ReflTransGen (ParticleLink ask) m n

/-- The parts of a chain: the text of the root and the sections. -/
def IsChainPart (layers : List Layer) (root : Root) (t : Text) : Prop :=
  t = root.body ∨ ∃ l ∈ layers, ∃ name, l.sections.find? name = some t

lemma IsChainPart.cons {layers : List Layer} {root : Root} {t : Text} {layer : Layer}
    (h : IsChainPart layers root t) : IsChainPart (layer :: layers) root t := by
  rcases h with h | ⟨l, hl, hname⟩
  · exact .inl h
  · exact .inr ⟨l, List.mem_cons_of_mem layer hl, hname⟩

variable {ask' : Ask}

/-- The pieces of a text give the same wherever the views agree that they reach. -/
lemma ExpandsTo.congr {origin : Option Text} {stack : List Text} {ps : List (Text.Piece Text)}
    {r : Except ResolveFault Expansion} (h : ExpandsTo ask limit origin stack ps r)
    (hagree : ∀ m u, Text.Piece.found m u ∈ ps → ∀ n,
      Relation.ReflTransGen (ParticleLink ask) m n → ask' n = ask n) :
    ExpandsTo ask' limit origin stack ps r := by
  have tail : ∀ {p : Text.Piece Text} {ps}, (∀ m u, Text.Piece.found m u ∈ p :: ps → ∀ n,
      Relation.ReflTransGen (ParticleLink ask) m n → ask' n = ask n) →
      ∀ m u, Text.Piece.found m u ∈ ps → ∀ n,
        Relation.ReflTransGen (ParticleLink ask) m n → ask' n = ask n :=
    fun hagree m u hmem => hagree m u (List.mem_cons_of_mem _ hmem)
  have head : ∀ {m u : Text} {ps}, (∀ m' u', Text.Piece.found m' u' ∈ .found m u :: ps → ∀ n,
      Relation.ReflTransGen (ParticleLink ask) m' n → ask' n = ask n) → ask' m = ask m :=
    fun hagree => hagree _ _ List.mem_cons_self _ .refl
  have inner : ∀ {m u s : Text} {ps}, ask m = .ok s →
      (∀ m' u', Text.Piece.found m' u' ∈ .found m u :: ps → ∀ n,
        Relation.ReflTransGen (ParticleLink ask) m' n → ask' n = ask n) →
      ∀ m' u', Text.Piece.found m' u' ∈ Text.pieces particle? s → ∀ n,
        Relation.ReflTransGen (ParticleLink ask) m' n → ask' n = ask n :=
    fun ha hagree m' u' hmem n hn => hagree _ _ List.mem_cons_self n
      (.head ⟨_, ha, Text.mem_findAll_iff.mpr ⟨u', hmem⟩⟩ hn)
  induction h with
  | nil => exact .nil
  | plain _ ih => exact .plain (ih (tail hagree))
  | missing ha _ ih => exact .missing ((head hagree).trans ha) (ih (tail hagree))
  | unread ha hf => exact .unread ((head hagree).trans ha) hf
  | circular ha hmem => exact .circular ((head hagree).trans ha) hmem
  | tooDeep ha hmem hdeep => exact .tooDeep ((head hagree).trans ha) hmem hdeep
  | fails ha hmem hroom _ ih =>
    exact .fails ((head hagree).trans ha) hmem hroom (ih (inner ha hagree))
  | inserted ha hmem hroom _ _ ih₁ ih₂ =>
    exact .inserted ((head hagree).trans ha) hmem hroom (ih₁ (inner ha hagree)) (ih₂ (tail hagree))

lemma PartTo.congr {label t : Text} {r : Except ResolveFault Expansion}
    (h : PartTo ask limit label t r) (hagree : ∀ n, Reaches ask t n → ask' n = ask n) :
    PartTo ask' limit label t r :=
  ExpandsTo.congr h fun m u hmem n hn =>
    hagree n ⟨m, Text.mem_findAll_iff.mpr ⟨u, hmem⟩, hn⟩

lemma PoursTo.congr {label parent : Text} {d d' : Dependencies} {asParent : Bool}
    {ps : List (Text.Piece Text)} {r : Except ResolveFault Expansion}
    (h : PoursTo ask limit label parent d asParent ps r) (hsections : d'.sections = d.sections)
    (hagree : ∀ name body, d.find? name = some body → ∀ n, Reaches ask body n → ask' n = ask n) :
    PoursTo ask' limit label parent d' asParent ps r := by
  have hfind : ∀ name, d'.find? name = d.find? name :=
    fun name => congrArg (Names.find? name) hsections
  induction h with
  | nil => exact .nil
  | plain _ ih => exact .plain ih
  | filled hd hpart _ ih =>
    exact .filled ((hfind _).trans hd) (hpart.congr (hagree _ _ hd)) ih
  | fails hd hpart => exact .fails ((hfind _).trans hd) (hpart.congr (hagree _ _ hd))
  | kept hd hmode _ ih => exact .kept ((hfind _).trans hd) hmode ih
  | dropped hd hmode _ ih => exact .dropped ((hfind _).trans hd) hmode ih

/-- **What a chain gives depends on its sections, on the text of its root and on the particles that
these reach**: the other texts of its views may change. -/
theorem ResolvesTo.congr {name given given' : Option Text} {asParent : Bool} {stack : List Text}
    {r : Except ResolveFault Resolved} {layers : List Layer} {root : Root}
    (h : ResolvesTo ask limit name given asParent stack r)
    (hc : Chain ask given (labelOf name) layers root)
    (hc' : Chain ask' given' (labelOf name) layers root)
    (hagree : ∀ t, IsChainPart layers root t → ∀ n, Reaches ask t n → ask' n = ask n) :
    ResolvesTo ask' limit name given' asParent stack r := by
  induction h generalizing given' layers with
  | circular hmem => exact .circular hmem
  | tooDeep hmem hdeep => exact .tooDeep hmem hdeep
  | unread hmem hroom ha =>
    cases hc with
    | root hs => exact absurd hs (by simp [Source, ha])
    | child hs => exact absurd hs (by simp [Source, ha])
  | root hmem hroom hs hp hpart =>
    obtain ⟨rfl, rfl⟩ := hc.of_root hs hp
    obtain ⟨s', hs', hp', hroot⟩ := hc'.nil_inv
    have hbody := (Root.mk.inj hroot).2
    refine .root hmem hroom hs' hp' ?_
    rw [← hbody]
    exact hpart.congr (hagree _ (.inl rfl))
  | orphan hmem hroom hs hp _ ih =>
    obtain ⟨above, rfl, habove⟩ := hc.of_child hs hp
    obtain ⟨s', p', hs', hp', hlayer, habove'⟩ := hc'.cons_inv
    obtain ⟨-, rfl, -⟩ := Layer.mk.inj hlayer
    rw [← labelOf_some (isName_parent hp).1] at habove'
    refine .orphan hmem hroom hs' hp' (ih habove habove' fun t ht => hagree t ?_)
    exact ht.cons
  | child hmem hroom hs hp _ hpour ih =>
    obtain ⟨above, rfl, habove⟩ := hc.of_child hs hp
    obtain ⟨s', p', hs', hp', hlayer, habove'⟩ := hc'.cons_inv
    obtain ⟨-, rfl, hsections⟩ := Layer.mk.inj hlayer
    rw [← labelOf_some (isName_parent hp).1] at habove'
    refine .child hmem hroom hs' hp' (ih habove habove' fun t ht => hagree t ?_) ?_
    · exact ht.cons
    -- the text that is poured into is the same, as it was put together from the parts above
    · exact hpour.congr hsections.symm fun name body hbody =>
        hagree body (.inr ⟨_, List.mem_cons_self, name, hbody⟩)

/-! ## The main result -/

/-- **Chains mean the fold from the root downwards.**  A view that is resolved has the text and the
warnings of the fold over its chain, for which all parts that are needed have an expansion.  A place
of the root whose name begins with no closing parenthesis is filled by the view nearest to the root
that has the section; there is one warning for each place that the last view drops, behind all
warnings of its ancestors; and the views of the chain matter by their sections alone, unless the
chain reaches them through particles. -/
theorem chain_eq_fold (ask : Ask) (limit : Int) (name given : Option Text) (stack : List Text)
    (v : Resolved) (layers : List Layer) (root : Root)
    (hchain : Chain ask given (labelOf name) layers root)
    (hv : (resolve ask name given false limit stack).result = .ok v) :
    let top := (expanded ask limit root.label root.body).text
    PartsExpand ask limit root layers ∧
    v.content = dropYields (chainText ask limit false root layers) ∧
    v.warnings = chainWarnings ask limit false root layers ∧
    (∀ lower l upper s body pre post asParent, layers = lower ++ l :: upper →
      top = pre ++ written yieldHead s ++ post → IsName s → s.head? ≠ some ')' →
      (∀ u ∈ upper, u.sections.find? s = none) → l.sections.find? s = some body →
      l.pour ask limit asParent (poured ask limit upper top) =
        l.pour ask limit asParent (poured ask limit upper pre) ++
          (expanded ask limit l.label body).text ++
          l.pour ask limit asParent (poured ask limit upper post)) ∧
    (∀ l upper, layers = l :: upper → ∃ own,
      v.warnings = chainWarnings ask limit true root upper ++ own ∧
      (chainWarnings ask limit true root upper).filter isDropped = [] ∧
      own.filter isDropped = ((Text.findAll yield? (poured ask limit upper top)).filter
        fun s => l.sections.find? s = none).map fun s => .missingSection s l.label l.parent) ∧
    (layers = [] → v.warnings.filter isDropped = []) ∧
    (∀ ask' given', Chain ask' given' (labelOf name) layers root →
      (∀ t, IsChainPart layers root t → ∀ n, Reaches ask t n → ask' n = ask n) →
      (resolve ask' name given' false limit stack).result = .ok v) := by
  intro top
  have hresolves := resolvesTo_iff.2 hv.symm
  obtain ⟨hfold, hparts⟩ := hresolves.eq_chain rfl hchain
  have hwarnings : v.warnings = chainWarnings ask limit false root layers := by rw [hfold]; rfl
  refine ⟨hparts, by rw [hfold]; rfl, hwarnings, ?_, ?_, ?_, ?_⟩
  -- the place of the root that `l` fills
  · intro lower l upper s body pre post asParent _ htop hs hp hupper hl
    rw [htop]
    exact pour_poured_place hs hp hupper hl
  -- the warnings of the last view, behind those of the views above it
  · rintro l upper rfl
    exact ⟨_, hwarnings, filter_isDropped_chainWarnings root upper,
      l.filter_isDropped_complaints _⟩
  · rintro rfl
    rw [hwarnings]
    exact expanded_filter_isDropped _ _
  -- another store with the same chain
  · intro ask' given' hchain' hagree
    exact (resolvesTo_iff.1 (hresolves.congr hchain hchain' hagree)).symm

/-- A chain of two views with all that is said of it. -/
theorem chain_eq_fold_two :
    let ask : Ask := fun n => .ok
      (if n = "page".toList then "@extends('frame')@section('a')1@endsection" else "<@yield('a')>")
    ∃ layers root, Chain ask none "page".toList layers root ∧
      dropYields (chainText ask 50 false root layers) = "<1>" := by
  intro ask
  have hchain : Chain ask none (labelOf (some "page".toList)) [_] _ :=
    .child (s := "@extends('frame')@section('a')1@endsection") (p := "frame".toList)
      (.inr ⟨rfl, rfl⟩) (by decide +kernel)
      (.root (s := "<@yield('a')>") (.inr ⟨rfl, rfl⟩) (by decide +kernel))
  have hv : (resolve ask (some "page".toList) none false 50 []).result =
      .ok ⟨some "page".toList, "<1>", some "frame".toList, []⟩ := by decide +kernel
  exact ⟨_, _, hchain, (chain_eq_fold ask 50 _ none [] _ _ _ hchain hv).2.1.symm⟩

/-- A place of the root whose name begins with a closing parenthesis need not be filled, and the text
of a view counts if the view is a particle as well. -/
theorem place_lost_and_text_read :
    (let ask : Ask := fun n => .ok
        (if n = "root".toList then "@yield('p')@yield(')x')"
        else if n = "v1".toList then "@extends('root')@section('p')@yield('a@endsection"
        else "@extends('v1')@section(')x')FILLED@endsection")
      ∃ l upper root v, Chain ask none "v0".toList (l :: upper) root ∧
        (resolve ask (some "v0".toList) none false 50 []).result = .ok v ∧
        (expanded ask 50 root.label root.body).text = "@yield('p')" ++ written yieldHead ")x" ∧
        (∀ u ∈ upper, u.sections.find? ")x" = none) ∧
        l.sections.find? ")x" = some "FILLED".toList ∧ ¬ "FILLED".toList <:+: v.content) ∧
    (let ask (outside : Text) : Ask := fun n => .ok
        (if n = "root".toList then "@particle('v0')" else "@extends('root')" ++ outside)
      ∃ layers root v v', Chain (ask "1") none "v0".toList layers root ∧
        Chain (ask "2") none "v0".toList layers root ∧
        (resolve (ask "1") (some "v0".toList) none false 50 []).result = .ok v ∧
        (resolve (ask "2") (some "v0".toList) none false 50 []).result = .ok v' ∧
        v.content ≠ v'.content) := by
  constructor
  · intro ask
    refine ⟨⟨"v0", "v1", [(")x", "FILLED")]⟩, [⟨"v1", "root", [("p", "@yield('a")]⟩],
      ⟨"root", "@yield('p')@yield(')x')"⟩, ⟨some "v0".toList, "x')", some "v1".toList,
        [.missingSection "a@yield(" "v0" "v1"]⟩, ?_, by decide +kernel, by decide +kernel,
      by decide +kernel, by decide +kernel, by decide +kernel⟩
    exact .child (s := "@extends('v1')@section(')x')FILLED@endsection") (.inr ⟨rfl, rfl⟩)
      (by decide +kernel) (.child (s := "@extends('root')@section('p')@yield('a@endsection")
        (.inr ⟨rfl, rfl⟩) (by decide +kernel) (.root (s := "@yield('p')@yield(')x')")
          (.inr ⟨rfl, rfl⟩) (by decide +kernel)))
  · intro ask
    refine ⟨[⟨"v0", "root", []⟩], ⟨"root", "@particle('v0')"⟩,
      ⟨some "v0".toList, "@extends('root')1", some "root".toList, []⟩,
      ⟨some "v0".toList, "@extends('root')2", some "root".toList, []⟩, ?_, ?_, by decide +kernel,
      by decide +kernel, by decide +kernel⟩
    · exact .child (s := "@extends('root')1") (.inr ⟨rfl, rfl⟩) (by decide +kernel)
        (.root (s := "@particle('v0')") (.inr ⟨rfl, rfl⟩) (by decide +kernel))
    · exact .child (s := "@extends('root')2") (.inr ⟨rfl, rfl⟩) (by decide +kernel)
        (.root (s := "@particle('v0')") (.inr ⟨rfl, rfl⟩) (by decide +kernel))

end ViewEngine.Layout

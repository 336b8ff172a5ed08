/-
# What is left of the directives

Each kind of directive is taken out of a text of its own: `@extends` and sections out of the text of a
view, particles out of what is left and out of the sections that are poured, and unfilled places out of
the whole.  A text that is put in at a place is not read again for directives of the earlier kinds, and a
directive that is put together from the texts on both sides of one that was taken out is not read at all.

So directives are gone from a resolved view if the texts that are put in have none of the earlier kinds,
and no text has a part of a directive at its border; they need not be if one of the two fails.

* `Quiet`: no directive begins in a text, whatever stands behind it;
* `Tidy`: a text of quiet runs, places and particles;
* `resolve_free`: a view of tidy texts is resolved into a text without directives;
* `extends_left_in_section`: a directive in a section stays.
-/
import Mathlib.Data.List.Infix
import ViewEngine.Proofs.Layout.Chain

namespace ViewEngine.Layout

open Text (Piece pieces)

/-! ## Quiet texts -/

/-- How directives begin. -/
def heads : List Text := [extendsHead, yieldHead, particleHead, sectionHead]

/-- No directive begins in the text: it holds no head, and does not end in a part of one. -/
def Quiet (t : Text) : Prop := ∀ s ∈ t.tails, s ≠ [] → ∀ h ∈ heads, ¬ h <+: s ∧ ¬ s <+: h

instance : DecidablePred Quiet := fun t =>
  inferInstanceAs (Decidable (∀ s ∈ t.tails, s ≠ [] → ∀ h ∈ heads, ¬ h <+: s ∧ ¬ s <+: h))

lemma quiet_nil : Quiet [] := by decide

/-- No head begins in a quiet text, whatever stands behind it. -/
lemma Quiet.not_prefix {t s head : Text} (h : Quiet t) (hs : s <:+ t) (hne : s ≠ [])
    (hhead : head ∈ heads) (v : Text) : ¬ head <+: s ++ v := by
  obtain ⟨hbegins, hends⟩ := h s ((List.mem_tails s t).2 hs) hne head hhead
  intro hp
  rcases List.prefix_or_prefix_of_prefix hp (List.prefix_append s v) with hp | hp
  · exact hbegins hp
  · exact hends hp

/-- What stands behind one quiet text begins in the other, or the first ends before it. -/
lemma Quiet.append {t u : Text} (ht : Quiet t) (hu : Quiet u) : Quiet (t ++ u) := by
  intro s hs hne head hhead
  obtain ⟨p, hp⟩ := (List.mem_tails s _).1 hs
  rcases List.append_eq_append_iff.1 hp with ⟨s', rfl, rfl⟩ | ⟨b, rfl, rfl⟩
  · rcases eq_or_ne s' [] with rfl | hne'
    · exact hu u ((List.mem_tails _ _).2 (List.suffix_refl u)) hne head hhead
    · have hs' : s' <:+ p ++ s' := List.suffix_append p s'
      refine ⟨ht.not_prefix hs' hne' hhead u, fun h => ?_⟩
      exact (ht s' ((List.mem_tails _ _).2 hs') hne' head hhead).2
        ((List.prefix_append s' u).trans h)
  · exact hu s ((List.mem_tails _ _).2 (List.suffix_append b s)) hne head hhead

lemma named?_eq_none {head t : Text} (h : ¬ head <+: t) : named? head t = none := by
  rcases hn : named? head t with _ | ⟨s, n⟩
  · rfl
  · obtain ⟨-, -, hp⟩ := named?_eq_some_iff.1 hn
    have hhead : head <+: written head s := by simp [written, List.append_assoc]
    exact absurd (hhead.trans hp) h

lemma Quiet.named?_eq_none {t s head : Text} (h : Quiet t) (hs : s <:+ t) (hne : s ≠ [])
    (hhead : head ∈ heads) (v : Text) : named? head (s ++ v) = none :=
  Layout.named?_eq_none (h.not_prefix hs hne hhead v)

lemma Quiet.named?_free {t head : Text} (h : Quiet t) (hhead : head ∈ heads) :
    (named? head).Free t := by
  intro s hs
  rcases eq_or_ne s [] with rfl | hne
  · exact (named?_sound head).nil
  · simpa using h.named?_eq_none hs hne hhead []

lemma Quiet.section?_free {t : Text} (h : Quiet t) : section?.Free t := by
  intro s hs
  have hname : named? sectionHead s = none := h.named?_free (by simp [heads]) s hs
  simp [section?, hname]

/-! ## Tidy texts -/

/-- A part of a text. -/
inductive Part where
  /-- A run of characters. -/
  | plain (t : Text)
  /-- The place of a section. -/
  | place (name : Text)
  /-- A particle. -/
  | particle (name : Text)

namespace Part

/-- The part as it is written. -/
def text : Part → Text
  | plain t => t
  | place name => written yieldHead name
  | particle name => written particleHead name

/-- Runs are quiet, no directive begins in a name, and particles are named by some names only. -/
def Good (names : Text → Prop) : Part → Prop
  | plain t => Quiet t
  | place name => IsName name ∧ '@' ∉ name
  | particle name => IsName name ∧ '@' ∉ name ∧ names name

end Part

instance (names : Text → Prop) [DecidablePred names] : DecidablePred (Part.Good names)
  | .plain t => inferInstanceAs (Decidable (Quiet t))
  | .place n => inferInstanceAs (Decidable ((n ≠ [] ∧ '\'' ∉ n) ∧ '@' ∉ n))
  | .particle n => inferInstanceAs (Decidable ((n ≠ [] ∧ '\'' ∉ n) ∧ '@' ∉ n ∧ names n))

/-- The text consists of quiet runs, of places and of particles that have some names only. -/
def Tidy (names : Text → Prop) (t : Text) : Prop :=
  ∃ parts : List Part, (∀ p ∈ parts, p.Good names) ∧ t = parts.flatMap Part.text

/-- The text consists of quiet runs and of places. -/
abbrev Bare (t : Text) : Prop := Tidy (fun _ => False) t

section

variable {names : Text → Prop}

lemma tidy_nil : Tidy names [] := ⟨[], List.forall_mem_nil _, rfl⟩

lemma Quiet.tidy {t : Text} (h : Quiet t) : Tidy names t :=
  ⟨[.plain t], List.forall_mem_singleton.2 h, by simp [Part.text]⟩

lemma tidy_place {n : Text} (hn : IsName n) (hat : '@' ∉ n) : Tidy names (written yieldHead n) :=
  ⟨[.place n], List.forall_mem_singleton.2 ⟨hn, hat⟩, by simp [Part.text]⟩

lemma Tidy.append {t u : Text} (ht : Tidy names t) (hu : Tidy names u) : Tidy names (t ++ u) := by
  obtain ⟨ps, hps, rfl⟩ := ht
  obtain ⟨qs, hqs, rfl⟩ := hu
  refine ⟨ps ++ qs, fun p hp => ?_, by rw [List.flatMap_append]⟩
  rcases List.mem_append.1 hp with hp | hp
  · exact hps p hp
  · exact hqs p hp

end

/-! ## Cutting tidy texts -/

/-- A head begins in a directive at its front only, and there only if it is the head of the directive. -/
lemma written_named?_eq_none {head head' n s : Text} (hh : IsHead head) (hh' : IsHead head')
    (hat : '@' ∉ n) (hne : ¬ head' <+: head ∧ ¬ head <+: head') (hs : s <:+ written head n)
    (hs' : s ≠ []) (v : Text) : named? head' (s ++ v) = none := by
  refine named?_eq_none fun hp => ?_
  obtain ⟨p, hp'⟩ := hs
  obtain ⟨w, rfl, hw, -⟩ := hh
  obtain ⟨w', hw', -⟩ := hh'
  obtain ⟨c, s, rfl⟩ := List.exists_cons_of_ne_nil hs'
  have hc : c = '@' := by
    obtain ⟨z, hz⟩ := hp
    rw [hw'] at hz
    exact (List.cons.inj hz).1.symm
  subst hc
  cases p with
  | nil =>
    -- at the front, both heads begin the same text
    have hfront : '@' :: w ++ ['(', '\''] <+: ('@' :: s) ++ v := by
      rw [← List.nil_append ('@' :: s), hp', written]
      simp [List.append_assoc]
    rcases List.prefix_or_prefix_of_prefix hp hfront with h | h
    · exact hne.1 h
    · exact hne.2 h
  | cons d p =>
    -- behind the front, there is no at sign
    have htail : p ++ '@' :: s = w ++ ['(', '\''] ++ n ++ ['\'', ')'] := by
      have := (List.cons.inj hp').2
      simpa [written] using this
    have hmem : '@' ∈ w ++ ['(', '\''] ++ n ++ ['\'', ')'] := htail ▸ by simp
    simp [hw, hat] at hmem

/-- Every run has one property, and every match has another. -/
structure Cut (run : Text → Prop) (hit : Text → Text → Prop) (ps : List (Piece Text)) : Prop where
  plain : ∀ t, .plain t ∈ ps → run t
  found : ∀ n t, .found n t ∈ ps → hit n t

namespace Cut

variable {run : Text → Prop} {hit : Text → Text → Prop} {m : Text.Matcher Text} {u v : Text}

lemma nil : Cut run hit [] :=
  ⟨fun _ h => (List.not_mem_nil h).elim, fun _ _ h => (List.not_mem_nil h).elim⟩

lemma plain_cons {t : Text} {ps : List (Piece Text)} (ht : run t) (h : Cut run hit ps) :
    Cut run hit (.plain t :: ps) where
  plain t' ht' := by
    rcases List.mem_cons.1 ht' with heq | ht'
    · cases heq
      exact ht
    · exact h.plain t' ht'
  found n t' ht' := by
    rcases List.mem_cons.1 ht' with heq | ht'
    · cases heq
    · exact h.found n t' ht'

lemma found_cons {n t : Text} {ps : List (Piece Text)} (ht : hit n t) (h : Cut run hit ps) :
    Cut run hit (.found n t :: ps) where
  plain t' ht' := by
    rcases List.mem_cons.1 ht' with heq | ht'
    · cases heq
    · exact h.plain t' ht'
  found n' t' ht' := by
    rcases List.mem_cons.1 ht' with heq | ht'
    · cases heq
      exact ht
    · exact h.found n' t' ht'

lemma of_plain_cons {t : Text} {ps : List (Piece Text)} (h : Cut run hit (.plain t :: ps)) :
    run t ∧ Cut run hit ps :=
  ⟨h.plain t List.mem_cons_self, fun t' ht' => h.plain t' (List.mem_cons_of_mem _ ht'),
    fun n t' ht' => h.found n t' (List.mem_cons_of_mem _ ht')⟩

lemma of_found_cons {n t : Text} {ps : List (Piece Text)} (h : Cut run hit (.found n t :: ps)) :
    hit n t ∧ Cut run hit ps :=
  ⟨h.found n t List.mem_cons_self, fun t' ht' => h.plain t' (List.mem_cons_of_mem _ ht'),
    fun n t' ht' => h.found n t' (List.mem_cons_of_mem _ ht')⟩

/-- A run at which nothing begins is joined to the run behind it, if there is one. -/
lemma append (hnone : ∀ s, s <:+ u → s ≠ [] → m (s ++ v) = none) (hu : run u)
    (happend : ∀ t, run t → run (u ++ t)) (h : Cut run hit (pieces m v)) :
    Cut run hit (pieces m (u ++ v)) := by
  rcases eq_or_ne u [] with rfl | hne
  · exact h
  by_cases hv : ∃ t ps, pieces m v = .plain t :: ps
  · obtain ⟨t, ps, hv⟩ := hv
    rw [Text.pieces_plain_join hnone hv]
    rw [hv] at h
    obtain ⟨ht, hps⟩ := h.of_plain_cons
    exact hps.plain_cons (happend t ht)
  · rw [Text.pieces_plain_append hne hnone fun t ps heq => hv ⟨t, ps, heq⟩]
    exact h.plain_cons hu

lemma match_append {a : Text} (hu : u ≠ []) (hfound : m (u ++ v) = some (a, u.length))
    (ha : hit a u) (h : Cut run hit (pieces m v)) : Cut run hit (pieces m (u ++ v)) := by
  rw [Text.pieces_found hu hfound]
  exact h.found_cons ha

end Cut

section

variable {names : Text → Prop}

/-- The runs between the particles of a tidy text are bare. -/
lemma Tidy.cut_particles {t : Text} (h : Tidy names t) :
    Cut Bare (fun n _ => names n) (pieces particle? t) := by
  obtain ⟨parts, hparts, rfl⟩ := h
  induction parts with
  | nil => exact .nil
  | cons p parts ih =>
    obtain ⟨hp, hrest⟩ := List.forall_mem_cons.1 hparts
    rw [List.flatMap_cons]
    cases p with
    | plain t =>
      exact (ih hrest).append (fun s hs hne => hp.named?_eq_none hs hne (by simp [heads]) _)
        hp.tidy fun u hu => Tidy.append hp.tidy hu
    | place n =>
      have hplace : Bare (written yieldHead n) := tidy_place hp.1 hp.2
      exact (ih hrest).append
        (fun s hs hne => written_named?_eq_none isHead_yieldHead isHead_particleHead hp.2
          (by decide) hs hne _)
        hplace fun u hu => hplace.append hu
    | particle n =>
      obtain ⟨hn, -, hname⟩ := hp
      exact (ih hrest).match_append (written_ne_nil _ _) (named?_written hn _) hname

/-- The runs between the places of a bare text are quiet. -/
lemma Tidy.cut_places {t : Text} (h : Bare t) :
    Cut Quiet (fun n u => u = written yieldHead n ∧ IsName n ∧ '@' ∉ n) (pieces yield? t) := by
  obtain ⟨parts, hparts, rfl⟩ := h
  induction parts with
  | nil => exact .nil
  | cons p parts ih =>
    obtain ⟨hp, hrest⟩ := List.forall_mem_cons.1 hparts
    rw [List.flatMap_cons]
    cases p with
    | plain t =>
      exact (ih hrest).append (fun s hs hne => hp.named?_eq_none hs hne (by simp [heads]) _)
        hp fun u hu => Quiet.append hp hu
    | place n =>
      exact (ih hrest).match_append (written_ne_nil _ _) (named?_written hp.1 _)
        ⟨rfl, hp.1, hp.2⟩
    | particle n => exact hp.2.2.elim

end

/-! ## Resolving tidy views -/

/-- What is left of a view without `@extends` and sections is tidy, and so is every section. -/
structure TidyView (names : Text → Prop) (t : Text) : Prop where
  body : Tidy names (dependencies t).body
  sections : ∀ n b, (dependencies t).find? n = some b → Tidy names b

/-- Every view of the store is tidy, and the views that are put in as particles are tidy texts: they
have neither `@extends` nor sections. -/
structure TidyStore (names : Text → Prop) (ask : Ask) : Prop where
  view : ∀ n s, ask n = .ok s → TidyView names s
  particle : ∀ n s, names n → ask n = .ok s → Tidy names s

section

variable {names : Text → Prop} {ask : Ask} {limit : Int}

/-- Putting in particles leaves bare texts. -/
lemma ExpandsTo.bare (hask : TidyStore names ask) {origin : Option Text} {stack : List Text}
    {ps : List (Piece Text)} {r : Except ResolveFault Expansion} {e : Expansion}
    (h : ExpandsTo ask limit origin stack ps r) (hps : Cut Bare (fun n _ => names n) ps)
    (hr : r = .ok e) : Bare e.text := by
  induction h generalizing e with
  | nil =>
    cases hr
    exact tidy_nil
  | plain _ ih =>
    obtain ⟨ht, hps⟩ := hps.of_plain_cons
    obtain ⟨e', he', rfl⟩ := ok_of_map hr
    exact ht.append (ih hps he')
  | missing _ _ ih =>
    obtain ⟨-, hps⟩ := hps.of_found_cons
    obtain ⟨e', he', rfl⟩ := ok_of_map hr
    have hrest : Bare e'.text := ih hps he'
    exact hrest
  | unread | circular | tooDeep | fails => cases hr
  | inserted ha _ _ _ _ ih₁ ih₂ =>
    obtain ⟨hn, hps⟩ := hps.of_found_cons
    obtain ⟨e', he', rfl⟩ := ok_of_map hr
    exact (ih₁ (hask.particle _ _ hn ha).cut_particles rfl).append (ih₂ hps he')

lemma PartTo.bare (hask : TidyStore names ask) {label t : Text} {e : Expansion} (ht : Tidy names t)
    (h : PartTo ask limit label t (.ok e)) : Bare e.text :=
  ExpandsTo.bare hask h ht.cut_particles rfl

/-- Pouring sections into a bare text leaves a bare text. -/
lemma PoursTo.bare (hask : TidyStore names ask) {label parent : Text} {d : Dependencies}
    {asParent : Bool} {ps : List (Piece Text)} {r : Except ResolveFault Expansion} {e : Expansion}
    (hd : ∀ n b, d.find? n = some b → Tidy names b)
    (h : PoursTo ask limit label parent d asParent ps r)
    (hps : Cut Quiet (fun n u => u = written yieldHead n ∧ IsName n ∧ '@' ∉ n) ps)
    (hr : r = .ok e) : Bare e.text := by
  induction h generalizing e with
  | nil =>
    cases hr
    exact tidy_nil
  | plain _ ih =>
    obtain ⟨ht, hps⟩ := hps.of_plain_cons
    obtain ⟨e', he', rfl⟩ := ok_of_map hr
    exact ht.tidy.append (ih hps he')
  | filled hfind hpart _ ih =>
    obtain ⟨-, hps⟩ := hps.of_found_cons
    obtain ⟨e', he', rfl⟩ := ok_of_map hr
    exact (hpart.bare hask (hd _ _ hfind)).append (ih hps he')
  | fails => cases hr
  | kept _ _ _ ih =>
    obtain ⟨⟨rfl, hn, hat⟩, hrest⟩ := hps.of_found_cons
    obtain ⟨e', he', rfl⟩ := ok_of_map hr
    exact (tidy_place hn hat).append (ih hrest he')
  | dropped _ _ _ ih =>
    obtain ⟨-, hps⟩ := hps.of_found_cons
    obtain ⟨e', he', rfl⟩ := ok_of_map hr
    have hrest : Bare e'.text := ih hps he'
    exact hrest

/-- Without its places, a bare text is quiet. -/
lemma Tidy.quiet_dropYields {t : Text} (h : Bare t) : Quiet (dropYields t) := by
  have hcut := Tidy.cut_places h
  rw [dropYields, Text.replaceAll_eq_flatMap]
  generalize pieces yield? t = ps at hcut ⊢
  induction ps with
  | nil => exact quiet_nil
  | cons p ps ih =>
    rw [List.flatMap_cons]
    cases p with
    | plain u =>
      obtain ⟨hu, hps⟩ := hcut.of_plain_cons
      exact hu.append (ih hps)
    | found n u => exact ih hcut.of_found_cons.2

/-- A tidy view is resolved into a bare text for its children, and else into a quiet one. -/
lemma ResolvesTo.content (hask : TidyStore names ask) {name given : Option Text} {asParent : Bool}
    {stack : List Text} {r : Except ResolveFault Resolved} {v : Resolved}
    (h : ResolvesTo ask limit name given asParent stack r)
    (hgiven : ∀ s, given = some s → TidyView names s) (hr : r = .ok v) :
    if asParent then Bare v.content else Quiet v.content := by
  have hfinished : ∀ {name : Option Text} {asParent : Bool} {parent : Option Text} {e : Expansion},
      Bare e.text → if asParent then Bare (finished name asParent parent e).content
        else Quiet (finished name asParent parent e).content := by
    intro name asParent parent e he
    cases asParent with
    | true => exact he
    | false => exact he.quiet_dropYields
  have hsource : ∀ {name given : Option Text} {s : Text},
      (∀ s, given = some s → TidyView names s) → Source ask (labelOf name) given s →
        TidyView names s := by
    rintro name given s hgiven (hs | ⟨-, hs⟩)
    · exact hgiven s hs
    · exact hask.view _ s hs
  induction h generalizing v with
  | circular | tooDeep | unread | orphan => cases hr
  | root _ _ hs _ hpart =>
    obtain ⟨e, rfl, rfl⟩ := ok_of_map hr
    exact hfinished (hpart.bare hask (hsource hgiven hs).body)
  | child _ _ hs _ _ hpour ih =>
    obtain ⟨e, rfl, rfl⟩ := ok_of_map hr
    have hparent := ih (fun s hs => by cases hs) rfl
    have hpoured := hpour.bare hask (hsource hgiven hs).sections (Tidy.cut_places hparent) rfl
    exact hfinished hpoured

/-- **What is left of the directives.**  A view that is resolved from tidy texts has no directives. -/
theorem resolve_free (hask : TidyStore names ask) {name given : Option Text}
    (hgiven : ∀ s, given = some s → TidyView names s) {v : Resolved}
    (h : (resolve ask name given false limit []).result = .ok v) :
    extends?.Free v.content ∧ yield?.Free v.content ∧
      particle?.Free v.content ∧ section?.Free v.content := by
  have hquiet : Quiet v.content :=
    (resolvesTo_resolve name given false []).content hask hgiven h
  exact ⟨hquiet.named?_free (by simp [heads]), hquiet.named?_free (by simp [heads]),
    hquiet.named?_free (by simp [heads]), hquiet.section?_free⟩

end

/-- A page with a layout and a particle is resolved from tidy texts. -/
theorem resolve_free_page :
    let ask : Ask := fun n =>
      if n = "layout" then .ok "<b>@yield('body')</b>@yield('foot')"
      else if n = "page" then .ok "@extends('layout')@section('body')Hi@particle('note')@endsection"
      else if n = "note" then .ok "!"
      else .error (.missing n)
    let v : Resolved :=
      { name := some "page", content := "<b>Hi!</b>", parent := some "layout"
        warnings := [.missingSection "foot" "page" "layout"] }
    TidyStore (· = "note") ask ∧ (resolve ask (some "page") none false 50 []).result = .ok v ∧
      extends?.Free v.content ∧ yield?.Free v.content ∧
        particle?.Free v.content ∧ section?.Free v.content := by
  intro ask v
  have hv : (resolve ask (some "page") none false 50 []).result = .ok v := by decide +kernel
  have hlayout : Tidy (· = "note") "<b>@yield('body')</b>@yield('foot')" :=
    ⟨[.plain "<b>", .place "body", .plain "</b>", .place "foot"], by decide, by decide⟩
  have hsection : Tidy (· = "note") "Hi@particle('note')" :=
    ⟨[.plain "Hi", .particle "note"], by decide, by decide⟩
  have hnote : Tidy (· = "note") "!" := Quiet.tidy (by decide)
  have hsections : (dependencies
      "@extends('layout')@section('body')Hi@particle('note')@endsection").sections =
        [("body".toList, "Hi@particle('note')".toList)] := by decide
  have hask : TidyStore (· = "note") ask := by
    refine ⟨fun n s hs => ?_, fun n s hn hs => ?_⟩
    · simp only [ask] at hs
      split at hs
      · cases hs
        exact ⟨hlayout, fun n b hb => by cases hb⟩
      split at hs
      · cases hs
        refine ⟨tidy_nil, fun n b hb => ?_⟩
        rw [Dependencies.find?, hsections, Names.find?] at hb
        split at hb <;> cases hb
        exact hsection
      split at hs
      · cases hs
        exact ⟨hnote, fun n b hb => by cases hb⟩
      · cases hs
    · subst hn
      cases hs
      exact hnote
  exact ⟨hask, hv, resolve_free hask (fun s hs => by cases hs) hv⟩

/-- A directive that stands in a section stays, as the section is not read for it again. -/
theorem extends_left_in_section :
    let ask : Ask := fun n =>
      if n = "layout" then .ok "<@yield('s')>"
      else .ok "@section('s')@extends('layout')hi@endsection"
    (resolve ask (some "page") none false defaultLimit []).result =
        .ok { name := some "page", content := "<@extends('layout')hi>", parent := some "layout" } ∧
      ¬ extends?.Free "<@extends('layout')hi>" := by
  refine ⟨by decide +kernel, fun h => ?_⟩
  have hfound := h "@extends('layout')hi>" ⟨"<".toList, rfl⟩
  revert hfound
  decide

/-- A directive that is written around another one is put together when the other is taken out. -/
example : (resolve (fun n => .error (.missing n)) none (some "@yie@yield('a')ld('b')") false
    defaultLimit []).result = .ok { name := none, content := "@yield('b')" } := by
  decide +kernel

end ViewEngine.Layout

/-
# Line breaks

Reading a text as a program ends a line at a line feed, at a carriage return, and at the two
together; positions in a view count line feeds.  The two counts agree on a text in which a carriage
return only occurs in front of a line feed.  This file has what is needed to see that a text that is
cut, stripped and put together again is still such a text.

* `lineBreaks_of_paired`: the two counts agree;
* `not_mem_strip_line`: a line of such a text, without blanks at its ends, has no carriage return.
-/
import Mathlib.Tactic.Common
import Mathlib.Tactic.Lemma
import ViewEngine.Text.Blank
import ViewEngine.Text.Lines

namespace ViewEngine.Text

/-! ## Carriage returns in front of line feeds -/

/-- Every carriage return stands in front of a line feed. -/
def Paired (t : Text) : Prop := ∀ s ∈ t.tails, s.head? = some '\r' → s.tail.head? = some '\n'

instance : DecidablePred Paired := fun t =>
  inferInstanceAs (Decidable (∀ s ∈ t.tails, s.head? = some '\r' → s.tail.head? = some '\n'))

@[simp] lemma paired_nil : Paired [] := by decide

lemma paired_cons_iff {c : Char} {t : Text} :
    Paired (c :: t) ↔ (c = '\r' → t.head? = some '\n') ∧ Paired t := by
  simp only [Paired, List.tails, List.forall_mem_cons, List.head?_cons, Option.some.injEq,
    List.tail_cons]

lemma paired_of_not_mem {t : Text} (h : '\r' ∉ t) : Paired t := by
  induction t with
  | nil => simp
  | cons c t ih =>
    rw [List.mem_cons, not_or] at h
    exact paired_cons_iff.2 ⟨fun hc => absurd hc.symm h.1, ih h.2⟩

lemma Paired.append {s t : Text} (hs : Paired s) (ht : Paired t) : Paired (s ++ t) := by
  induction s with
  | nil => exact ht
  | cons c s ih =>
    obtain ⟨hc, hs⟩ := paired_cons_iff.1 hs
    refine paired_cons_iff.2 ⟨fun hreturn => ?_, ih hs⟩
    simp [hc hreturn]

lemma Paired.right {s t : Text} (h : Paired (s ++ t)) : Paired t := by
  induction s with
  | nil => exact h
  | cons c s ih => exact ih (paired_cons_iff.1 h).2

lemma Paired.left {s t : Text} (h : Paired (s ++ t)) (ht : t.head? ≠ some '\n') : Paired s := by
  induction s with
  | nil => simp
  | cons c s ih =>
    obtain ⟨hc, hrest⟩ := paired_cons_iff.1 h
    refine paired_cons_iff.2 ⟨fun hreturn => ?_, ih hrest⟩
    have hhead := hc hreturn
    cases s with
    | nil => exact absurd hhead ht
    | cons d s => exact hhead

/-- **On such a text both ways to count line breaks agree.** -/
theorem lineBreaks_of_paired {t : Text} (h : Paired t) : lineBreaks t = lineFeeds t := by
  fun_induction lineBreaks t with
  | case1 => rfl
  | case2 c hc =>
    obtain ⟨hreturn, -⟩ := paired_cons_iff.1 h
    rcases hc with rfl | rfl
    · cases hreturn rfl
    · rfl
  | case3 c hc =>
    rw [not_or] at hc
    simp [lineFeeds, hc.2]
  | case4 c d cs hcd ih =>
    obtain ⟨rfl, rfl⟩ := hcd
    rw [ih (paired_cons_iff.1 (paired_cons_iff.1 h).2).2]
    simp [lineFeeds]
  | case5 c d cs hcd ih =>
    obtain ⟨hreturn, hrest⟩ := paired_cons_iff.1 h
    have hc : c ≠ '\r' := fun hc => hcd ⟨hc, by simpa using hreturn hc⟩
    rw [ih hrest]
    by_cases hfeed : c = '\n'
    · subst hfeed
      simp [lineFeeds, Nat.add_comm]
    · simp [lineFeeds, List.count_cons, hc, hfeed]

/-! ## What stripping removes -/

/-- What is stripped from the end of a text is blank. -/
lemma exists_append_stripRight (t : Text) : ∃ v, t = stripRight t ++ v ∧ blank v = true := by
  induction t with
  | nil => exact ⟨[], rfl, rfl⟩
  | cons c t ih =>
    obtain ⟨v, hv, hblank⟩ := ih
    rw [stripRight]
    rcases hright : stripRight t with _ | ⟨d, ds⟩
    · rw [hright, List.nil_append] at hv
      by_cases hc : isBlank c = true
      · refine ⟨c :: t, by simp [hc], ?_⟩
        rw [blank, List.all_cons, Bool.and_eq_true]
        exact ⟨hc, hv ▸ hblank⟩
      · exact ⟨t, by simp [hc], hv ▸ hblank⟩
    · rw [hright] at hv
      exact ⟨v, congrArg (c :: ·) hv, hblank⟩

lemma stripRight_append_blank {u v : Text} (hv : blank v = true) :
    stripRight (u ++ v) = stripRight u := by
  induction u with
  | nil => exact stripRight_eq_nil_iff.2 hv
  | cons c u ih => rw [List.cons_append, stripRight, stripRight, ih]

lemma strip_append_blank {u v : Text} (hv : blank v = true) : strip (u ++ v) = strip u := by
  rw [strip, strip, stripLeft, stripLeft, List.dropWhile_append]
  split
  · next hu =>
    rw [List.isEmpty_iff.1 hu]
    refine stripRight_eq_nil_iff.2 (List.all_eq_true.2 fun c hc => ?_)
    exact List.all_eq_true.1 hv c ((List.dropWhile_suffix _).subset hc)
  · exact stripRight_append_blank hv

lemma getLast?_stripRight {t : Text} {c : Char} (h : (stripRight t).getLast? = some c) :
    isBlank c = false := by
  induction t with
  | nil => cases h
  | cons d t ih =>
    rw [stripRight] at h
    rcases hright : stripRight t with _ | ⟨e, es⟩
    · rw [hright] at h
      dsimp only at h
      split at h
      · cases h
      · next hd =>
        cases h
        simpa using hd
    · rw [hright] at h ih
      exact ih (by simpa using h)

lemma blank_takeWhile (t : Text) : blank (t.takeWhile isBlank) = true :=
  List.all_takeWhile

/-- What is stripped from a text is blank. -/
lemma exists_blank_append_strip (t : Text) :
    ∃ u v, t = u ++ (strip t ++ v) ∧ blank u = true ∧ blank v = true := by
  obtain ⟨v, hv, hblank⟩ := exists_append_stripRight (stripLeft t)
  refine ⟨t.takeWhile isBlank, v, ?_, blank_takeWhile t, hblank⟩
  rw [strip, ← hv]
  exact List.takeWhile_append_dropWhile.symm

lemma exists_append_strip (t : Text) : ∃ u v, t = u ++ (strip t ++ v) := by
  obtain ⟨u, v, ht, -, -⟩ := exists_blank_append_strip t
  exact ⟨u, v, ht⟩

lemma mem_of_mem_strip {t : Text} {c : Char} (hc : c ∈ strip t) : c ∈ t := by
  obtain ⟨u, v, ht⟩ := exists_append_strip t
  rw [ht]
  simp [hc]

lemma strip_blank_append {u t : Text} (hu : blank u = true) : strip (u ++ t) = strip t := by
  rw [strip, strip, stripLeft, stripLeft,
    List.dropWhile_append_of_pos fun c hc => List.all_eq_true.1 hu c hc]

/-! ## Lines -/

lemma prefix_of_cutAtLineFeeds {t l : Text} {ls : List Text} (h : cutAtLineFeeds t = l :: ls) :
    l <+: t := by
  induction t generalizing l ls with
  | nil =>
    cases h
    exact List.prefix_refl _
  | cons c t ih =>
    rw [cutAtLineFeeds] at h
    split at h
    · cases h
      exact List.nil_prefix
    rcases hcut : cutAtLineFeeds t with _ | ⟨l', ls'⟩
    · exact absurd hcut (cutAtLineFeeds_ne_nil t)
    · rw [hcut] at h
      cases h
      exact List.cons_prefix_cons.2 ⟨rfl, ih hcut⟩

/-- A line is a part of the text without a line feed. -/
lemma mem_cutAtLineFeeds {t l : Text} (h : l ∈ cutAtLineFeeds t) : '\n' ∉ l ∧ l <:+: t := by
  induction t generalizing l with
  | nil =>
    rw [cutAtLineFeeds, List.mem_singleton] at h
    subst h
    exact ⟨by simp, List.infix_refl _⟩
  | cons c t ih =>
    rw [cutAtLineFeeds] at h
    split at h
    · rcases List.mem_cons.1 h with rfl | h
      · exact ⟨by simp, List.nil_infix⟩
      · obtain ⟨hfeed, hl⟩ := ih h
        exact ⟨hfeed, hl.trans (List.suffix_cons c t).isInfix⟩
    next hc =>
    rcases hcut : cutAtLineFeeds t with _ | ⟨l', ls⟩
    · exact absurd hcut (cutAtLineFeeds_ne_nil t)
    rw [hcut] at h ih
    rcases List.mem_cons.1 h with rfl | h
    · obtain ⟨hfeed, -⟩ := ih List.mem_cons_self
      have hstart : c :: l' <+: c :: t :=
        List.cons_prefix_cons.2 ⟨rfl, prefix_of_cutAtLineFeeds hcut⟩
      exact ⟨by simp [Ne.symm hc, hfeed], hstart.isInfix⟩
    · obtain ⟨hfeed, hl⟩ := ih (List.mem_cons_of_mem l' h)
      exact ⟨hfeed, hl.trans (List.suffix_cons c t).isInfix⟩

lemma blank_of_cutAtLineFeeds {t l : Text} (ht : blank t = true) (hl : l ∈ cutAtLineFeeds t) :
    blank l = true :=
  List.all_eq_true.2 fun c hc => List.all_eq_true.1 ht c ((mem_cutAtLineFeeds hl).2.subset hc)

lemma exists_last_line (t : Text) : ∃ ls l, cutAtLineFeeds t = ls ++ [l] :=
  ⟨_, _, (List.dropLast_concat_getLast (cutAtLineFeeds_ne_nil t)).symm⟩

/-- Where two texts meet, the last line of the one goes on as the first line of the other. -/
lemma cutAtLineFeeds_join {s t l m : Text} {ls ms : List Text} (hs : cutAtLineFeeds s = ls ++ [l])
    (ht : cutAtLineFeeds t = m :: ms) : cutAtLineFeeds (s ++ t) = ls ++ (l ++ m) :: ms := by
  induction s generalizing ls l with
  | nil =>
    have hempty : ls = [] ∧ l = [] := by
      cases ls with
      | nil => exact ⟨rfl, (List.singleton_inj.1 hs).symm⟩
      | cons k ls => simp [cutAtLineFeeds] at hs
    rw [hempty.1, hempty.2]
    exact ht
  | cons c s ih =>
    rw [cutAtLineFeeds] at hs
    rw [List.cons_append, cutAtLineFeeds]
    obtain ⟨ks, k, hk⟩ := exists_last_line s
    rw [ih hk]
    rw [hk] at hs
    split at hs
    · next hc =>
      rw [if_pos hc]
      have hlast : ([] :: ks) ++ [k] = ls ++ [l] := hs
      obtain ⟨rfl, h⟩ := List.append_inj' hlast rfl
      cases h
      rfl
    · next hc =>
      rw [if_neg hc]
      cases ks with
      | nil =>
        have hlast : [] ++ [c :: k] = ls ++ [l] := hs
        obtain ⟨rfl, h⟩ := List.append_inj' hlast rfl
        cases h
        rfl
      | cons k' ks =>
        have hlast : ((c :: k') :: ks) ++ [k] = ls ++ [l] := hs
        obtain ⟨rfl, h⟩ := List.append_inj' hlast rfl
        cases h
        rfl

/-- Blanks behind a text stand behind its last line, or on lines of their own. -/
lemma cutAtLineFeeds_append_blank {v : Text} (hv : blank v = true) (t : Text) :
    ∃ ls l b bs, cutAtLineFeeds t = ls ++ [l] ∧ cutAtLineFeeds (t ++ v) = ls ++ (l ++ b) :: bs ∧
      blank b = true ∧ ∀ b' ∈ bs, blank b' = true := by
  obtain ⟨b, bs, hb⟩ := List.exists_cons_of_ne_nil (cutAtLineFeeds_ne_nil v)
  obtain ⟨ls, l, ht⟩ := exists_last_line t
  exact ⟨ls, l, b, bs, ht, cutAtLineFeeds_join ht hb,
    blank_of_cutAtLineFeeds hv (hb ▸ List.mem_cons_self),
    fun b' hb' => blank_of_cutAtLineFeeds hv (hb ▸ List.mem_cons_of_mem b hb')⟩

/-- In front of a text, characters other than line feeds stand on its first line. -/
lemma cutAtLineFeeds_append {w : Text} (hw : '\n' ∉ w) (v : Text) :
    ∃ l ls, cutAtLineFeeds v = l :: ls ∧ cutAtLineFeeds (w ++ v) = (w ++ l) :: ls ∧
      (l.head? = none ∨ l.head? = v.head?) := by
  induction w with
  | nil =>
    rcases hcut : cutAtLineFeeds v with _ | ⟨l, ls⟩
    · exact absurd hcut (cutAtLineFeeds_ne_nil v)
    · refine ⟨l, ls, rfl, hcut, ?_⟩
      obtain ⟨u, rfl⟩ := prefix_of_cutAtLineFeeds hcut
      cases l with
      | nil => exact .inl rfl
      | cons d l => exact .inr rfl
  | cons c w ih =>
    rw [List.mem_cons, not_or] at hw
    obtain ⟨l, ls, hcut, hall, hhead⟩ := ih hw.2
    refine ⟨l, ls, hcut, ?_, hhead⟩
    rw [List.cons_append, cutAtLineFeeds, if_neg (Ne.symm hw.1), hall]
    rfl

/-- A carriage return in a line stands at its end, where it is stripped. -/
lemma not_mem_strip_line {t l : Text} (ht : Paired t) (hl : l ∈ cutAtLineFeeds t) :
    '\r' ∉ strip l := by
  intro hmem
  obtain ⟨hfeed, u, v, rfl⟩ := mem_cutAtLineFeeds hl
  obtain ⟨x, y, hxy⟩ := List.append_of_mem hmem
  obtain ⟨w, z, hwz⟩ := exists_append_strip l
  cases y with
  -- it is not the last character, which is no blank
  | nil =>
    have hlast : (strip l).getLast? = some '\r' := by rw [hxy]; simp
    have hblank : isBlank '\r' = false := getLast?_stripRight hlast
    exact absurd hblank (by decide)
  -- so a character of the line stands behind it, and it is no line feed
  | cons c y =>
    rw [hwz, hxy] at ht hfeed
    have hreturn : Paired ('\r' :: c :: (y ++ (z ++ v))) := by
      refine Paired.right (s := u ++ (w ++ x)) ?_
      simpa using ht
    have hhead := (paired_cons_iff.1 hreturn).1 rfl
    rw [List.head?_cons, Option.some.injEq] at hhead
    exact hfeed (by simp [hhead])

/-- Without carriage returns, the line ends are line feeds already. -/
lemma unifyLineEnds_of_not_mem {t : Text} (h : '\r' ∉ t) : unifyLineEnds t = t := by
  induction t using unifyLineEnds.induct with
  | case1 => rfl
  | case2 => simp at h
  | case3 c hc => rw [unifyLineEnds, if_neg hc]
  | case4 cs => simp at h
  | case5 d cs hd => simp at h
  | case6 c d cs hc ih =>
    rw [unifyLineEnds, if_neg hc, ih fun hmem => h (List.mem_cons_of_mem c hmem)]

end ViewEngine.Text

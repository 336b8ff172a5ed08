/-
# Numbered lines

Errors are located by counting line feeds, and shown among the lines into which a source is cut at
every character that ends a line somewhere.  This file says in which line a word of a text stands when
line feeds are counted, and how far both ways to cut a text agree.

* `StandsOn`, `exists_standsOn`: the line in which a word stands;
* `feedLines`: the lines at line feeds alone;
* `take_lines`: the first lines, if they have no other character that ends a line.
-/
import ViewEngine.Proofs.Text.Lines

namespace ViewEngine.Text

variable {source t u v w l : Text} {n : Int}

/-! ## Line feeds -/

lemma length_cutAtLineFeeds (t : Text) : (cutAtLineFeeds t).length = lineFeeds t + 1 := by
  induction t with
  | nil => rfl
  | cons c t ih =>
    rw [cutAtLineFeeds]
    split
    · next hc => rw [List.length_cons, ih, lineFeeds, lineFeeds, hc, List.count_cons_self]
    · next hc =>
      have hfeeds : lineFeeds (c :: t) = lineFeeds t := List.count_cons_of_ne hc
      obtain ⟨l, ls, hl⟩ := List.exists_cons_of_ne_nil (cutAtLineFeeds_ne_nil t)
      rw [hfeeds, ← ih, hl]
      rfl

/-- A text is one line, or a line with a text on further lines behind it. -/
lemma cutAtLineFeeds_cases (t : Text) :
    ('\n' ∉ t ∧ cutAtLineFeeds t = [t]) ∨
      ∃ l r, t = l ++ '\n' :: r ∧ '\n' ∉ l ∧ cutAtLineFeeds t = l :: cutAtLineFeeds r := by
  induction t with
  | nil => exact .inl ⟨by simp, rfl⟩
  | cons c t ih =>
    rw [cutAtLineFeeds]
    by_cases hc : c = '\n'
    · rw [if_pos hc, hc]
      exact .inr ⟨[], t, rfl, by simp, rfl⟩
    · rw [if_neg hc]
      rcases ih with ⟨ht, hcut⟩ | ⟨l, r, rfl, hl, hcut⟩
      · exact .inl ⟨by simp [Ne.symm hc, ht], by rw [hcut]⟩
      · exact .inr ⟨c :: l, r, rfl, by simp [Ne.symm hc, hl], by rw [hcut]⟩

/-- The part of a text in front of one of its lines. -/
lemma exists_front {ls ls' : List Text} (h : cutAtLineFeeds t = ls ++ l :: ls') :
    ∃ x y, t = x ++ (l ++ y) ∧ lineFeeds x = ls.length := by
  induction ls generalizing t with
  | nil =>
    obtain ⟨y, hy⟩ := prefix_of_cutAtLineFeeds h
    exact ⟨[], y, hy.symm, rfl⟩
  | cons m ls ih =>
    rcases cutAtLineFeeds_cases t with ⟨-, hcut⟩ | ⟨k, r, rfl, hk, hcut⟩
    · simp [hcut] at h
    · rw [hcut] at h
      obtain ⟨rfl, hrest⟩ := List.cons.inj h
      obtain ⟨x, y, rfl, hx⟩ := ih hrest
      refine ⟨k ++ '\n' :: x, y, by simp, ?_⟩
      have hfeeds : lineFeeds k = 0 := List.count_eq_zero.2 hk
      rw [lineFeeds_append, hfeeds, lineFeeds, List.count_cons_self, ← lineFeeds, hx,
        List.length_cons, Nat.zero_add]

/-! ## Words -/

/-- The word `w`, which stands behind `u` in the source, is a part of the line `l`, which is the
line with the number `n`. -/
structure StandsOn (source u w : Text) (n : Int) (l : Text) : Prop where
  split : ∃ v, source = u ++ (w ++ v)
  line : ∃ front a b behind, cutAtLineFeeds u = front ++ [a] ∧
    cutAtLineFeeds source = front ++ l :: behind ∧ l = a ++ (w ++ b) ∧ n = front.length + 1

/-- **A word without a line feed stands in a line**, whose number the line feeds in front of the word
give. -/
theorem exists_standsOn (hw : '\n' ∉ w) (h : source = u ++ (w ++ v)) :
    ∃ l, StandsOn source u w (lineFeeds u + 1) l := by
  obtain ⟨front, a, hu⟩ := exists_last_line u
  obtain ⟨b, behind, -, hcut, -⟩ := cutAtLineFeeds_append hw v
  refine ⟨a ++ (w ++ b), ⟨v, h⟩, front, a, b, behind, hu, ?_, rfl, ?_⟩
  · rw [h, cutAtLineFeeds_join hu hcut]
  · have hlength := length_cutAtLineFeeds u
    rw [hu, List.length_append, List.length_singleton] at hlength
    omega

lemma StandsOn.number (h : StandsOn source u w n l) : n = lineFeeds u + 1 := by
  obtain ⟨front, a, b, behind, hu, -, -, hn⟩ := h.line
  have hlength := length_cutAtLineFeeds u
  rw [hu, List.length_append, List.length_singleton] at hlength
  omega

/-- A line without the blanks at its ends stands in it. -/
lemma exists_standsOn_strip {ls ls' : List Text} (h : cutAtLineFeeds t = ls ++ l :: ls') :
    ∃ x, StandsOn t x (strip l) (ls.length + 1) l := by
  obtain ⟨x, y, ht, hx⟩ := exists_front h
  obtain ⟨p, q, hl⟩ := exists_append_strip l
  have hfeed : '\n' ∉ l := (mem_cutAtLineFeeds (h ▸ List.mem_append_right _ List.mem_cons_self)).1
  have hp : lineFeeds p = 0 := by
    refine List.count_eq_zero.2 fun hmem => hfeed ?_
    rw [hl]
    exact List.mem_append_left _ hmem
  have hsplit : t = (x ++ p) ++ (strip l ++ (q ++ y)) := by
    conv_lhs => rw [ht, hl]
    simp
  obtain ⟨k, hk⟩ := exists_standsOn (fun hmem => hfeed (mem_of_mem_strip hmem)) hsplit
  rw [lineFeeds_append, hx, hp, Nat.add_zero] at hk
  obtain ⟨front, a, b, behind, -, hcut, -, hn⟩ := hk.line
  -- both are the line with this number
  have hlength : ls.length = front.length := by omega
  obtain ⟨-, hline⟩ := List.append_inj (h.symm.trans hcut) hlength
  obtain ⟨rfl, -⟩ := List.cons.inj hline
  exact ⟨x ++ p, hk⟩

/-! ## Lines at line feeds -/

/-- The lines without an empty one at their end. -/
def withoutEmptyEnd : List Text → List Text
  | [] => []
  | [l] => if l = [] then [] else [l]
  | l :: m :: ls => l :: withoutEmptyEnd (m :: ls)

/-- The lines of the text, if line feeds alone end lines.  A line feed at the very end of the text
begins no further line. -/
def feedLines (t : Text) : List Text := withoutEmptyEnd (cutAtLineFeeds t)

lemma withoutEmptyEnd_append {ls ls' : List Text} (h : ls' ≠ []) :
    withoutEmptyEnd (ls ++ ls') = ls ++ withoutEmptyEnd ls' := by
  induction ls with
  | nil => rfl
  | cons l ls ih =>
    obtain ⟨m, ms, hm⟩ := List.exists_cons_of_ne_nil (List.append_ne_nil_of_right_ne_nil ls h)
    rw [List.cons_append, hm, withoutEmptyEnd, ← hm, ih, List.cons_append]

/-- A line that is not empty is one of them. -/
lemma getElem?_feedLines {front behind : List Text}
    (h : cutAtLineFeeds t = front ++ l :: behind) (hl : l ≠ []) :
    (feedLines t)[front.length]? = some l := by
  have hfirst : (withoutEmptyEnd (l :: behind))[0]? = some l := by
    cases behind with
    | nil => simp [withoutEmptyEnd, hl]
    | cons m ms => rfl
  rw [feedLines, h, withoutEmptyEnd_append (List.cons_ne_nil l behind),
    List.getElem?_append_right (Nat.le_refl _), Nat.sub_self, hfirst]

/-- A character that does not end a line stands on the line of what is behind it. -/
lemma lines_cons {c d : Char} (hc : endsLine c = false) {cs l : Text} {ls : List Text}
    (h : lines (d :: cs) = l :: ls) : lines (c :: d :: cs) = (c :: l) :: ls := by
  have hreturn : ¬ (c = '\r' ∧ d = '\n') := by
    rintro ⟨rfl, -⟩
    cases hc
  rw [lines, if_neg hreturn, if_neg (by simp [hc]), h]

lemma lines_of_plain (h : ∀ c ∈ t, endsLine c = false) :
    lines t = if t = [] then [] else [t] := by
  induction t with
  | nil => rfl
  | cons c t ih =>
    obtain ⟨hc, ht⟩ := List.forall_mem_cons.1 h
    cases t with
    | nil => simp [lines, hc]
    | cons d t => exact lines_cons hc (ih ht)

lemma lines_append_feed (h : ∀ c ∈ l, endsLine c = false) (r : Text) :
    lines (l ++ '\n' :: r) = l :: lines r := by
  induction l with
  | nil =>
    cases r with
    | nil => rfl
    | cons d r =>
      have hreturn : ¬ (('\n' : Char) = '\r' ∧ d = '\n') := fun hc => absurd hc.1 (by decide)
      rw [List.nil_append, lines, if_neg hreturn, if_pos (by decide)]
  | cons c l ih =>
    obtain ⟨hc, hl⟩ := List.forall_mem_cons.1 h
    obtain ⟨d, cs, hd⟩ := List.exists_cons_of_ne_nil
      (List.append_ne_nil_of_right_ne_nil l (List.cons_ne_nil '\n' r))
    have hrest := ih hl
    rw [hd] at hrest
    rw [List.cons_append, hd, lines_cons hc hrest]

/-- **The first lines are those at line feeds**, if nothing else in them ends a line. -/
theorem take_lines (k : Nat)
    (h : ∀ l ∈ (cutAtLineFeeds t).take k, ∀ c ∈ l, endsLine c = false) :
    (lines t).take k = (feedLines t).take k := by
  induction k generalizing t with
  | zero => rfl
  | succ k ih =>
    rcases cutAtLineFeeds_cases t with ⟨-, hcut⟩ | ⟨l, r, rfl, -, hcut⟩
    · rw [hcut, List.take_succ_cons, List.forall_mem_cons] at h
      rw [lines_of_plain h.1, feedLines, hcut]
      rfl
    · rw [hcut, List.take_succ_cons, List.forall_mem_cons] at h
      obtain ⟨m, ms, hm⟩ := List.exists_cons_of_ne_nil (cutAtLineFeeds_ne_nil r)
      have hrest := ih h.2
      rw [lines_append_feed h.1, feedLines, hcut, hm, withoutEmptyEnd, ← hm, ← feedLines,
        List.take_succ_cons, List.take_succ_cons, hrest]

end ViewEngine.Text

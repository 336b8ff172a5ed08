/-
# Other line ends

A text may be written with carriage returns, or with carriage returns and line feeds, in place of its
line feeds.  Most of what is asked of a text does not see the difference: whether it is blank, what is
left of it without blanks, which words of other characters begin in it.  What counts lines or cuts them
does, unless each line end still has its line feed.

* `respell`: the text with other line ends;
* `prefix_respell_iff`, `suffix_respell`: words at the front of its parts;
* `cutAtLineFeeds_respell`, `paired_respell`: its lines, where each has its line feed;
* `strip_respell`: a text with one line that is not blank.
-/
import Mathlib.Data.List.Forall2
import ViewEngine.Proofs.Text.Lines

namespace ViewEngine.Text

/-- The text with `e` in place of each line feed. -/
def respell (e t : Text) : Text := expand (fun c => if c = '\n' then e else [c]) t

/-- The line ends other than a line feed. -/
def lineEnds : List Text := [['\r', '\n'], ['\r']]

section

variable {e s t u v w : Text} {c : Char}

@[simp] lemma respell_nil (e : Text) : respell e [] = [] := rfl

@[simp] lemma respell_append (e s t : Text) : respell e (s ++ t) = respell e s ++ respell e t :=
  expand_append _ s t

@[simp] lemma respell_feed (e t : Text) : respell e ('\n' :: t) = e ++ respell e t := rfl

lemma respell_cons (hc : c ≠ '\n') (e t : Text) : respell e (c :: t) = c :: respell e t := by
  rw [respell, expand_cons, if_neg hc]
  rfl

lemma respell_of_not_mem (h : '\n' ∉ t) (e : Text) : respell e t = t := by
  induction t with
  | nil => rfl
  | cons c t ih =>
    rw [List.mem_cons, not_or] at h
    rw [respell_cons (Ne.symm h.1), ih h.2]

lemma respell_flatten (e : Text) (ts : List Text) :
    respell e ts.flatten = (ts.map (respell e)).flatten := by
  induction ts with
  | nil => rfl
  | cons t ts ih => rw [List.flatten_cons, respell_append, ih, List.map_cons, List.flatten_cons]

/-! ## Line ends -/

lemma ne_nil_of_lineEnds (he : e ∈ lineEnds) : e ≠ [] := by
  rintro rfl
  revert he
  decide

lemma isBlank_of_lineEnds (he : e ∈ lineEnds) (hc : c ∈ e) : isBlank c = true := by
  simp only [lineEnds, List.mem_cons, List.not_mem_nil, or_false] at he
  rcases he with rfl | rfl
  · simp only [List.mem_cons, List.not_mem_nil, or_false] at hc
    rcases hc with rfl | rfl <;> decide
  · rw [List.mem_singleton] at hc
    subst hc
    decide

lemma respell_eq_nil_iff (he : e ∈ lineEnds) : respell e t = [] ↔ t = [] := by
  cases t with
  | nil => simp
  | cons c t =>
    by_cases hc : c = '\n'
    · subst hc
      simp [ne_nil_of_lineEnds he]
    · simp [respell_cons hc]

lemma blank_respell (he : e ∈ lineEnds) (t : Text) : blank (respell e t) = blank t := by
  have hend : blank e = true := List.all_eq_true.2 fun c hc => isBlank_of_lineEnds he hc
  induction t with
  | nil => rfl
  | cons c t ih =>
    by_cases hc : c = '\n'
    · subst hc
      have hfeed : blank ('\n' :: t) = blank t := rfl
      rw [respell_feed, blank, List.all_append, ← blank, ← blank, hend, ih, hfeed]
      rfl
    · rw [respell_cons hc, blank, List.all_cons, ← blank, ih]
      rfl

/-- One line break at the front of a text is one line break there, whatever it is written with. -/
lemma afterLineBreak?_respell (he : e ∈ lineEnds) (ht : '\r' ∉ t) :
    afterLineBreak? (respell e t) = (afterLineBreak? t).map (respell e) := by
  rcases t with _ | ⟨c, t⟩
  · rfl
  rw [List.mem_cons, not_or] at ht
  by_cases hc : c = '\n'
  · subst hc
    simp only [lineEnds, List.mem_cons, List.not_mem_nil, or_false] at he
    rcases he with rfl | rfl
    · rfl
    -- behind a carriage return alone, the next line end does not begin with a line feed
    · rcases t with _ | ⟨d, t⟩
      · rfl
      · by_cases hd : d = '\n'
        · subst hd
          rfl
        · rw [respell_feed, respell_cons hd]
          simp [afterLineBreak?, hd, respell_cons hd]
  · rw [respell_cons hc]
    simp [afterLineBreak?, hc, Ne.symm ht.1]

/-! ## Words -/

/-- A word of other characters begins in front if and only if it did. -/
lemma prefix_respell_iff (he : e ∈ lineEnds) (hw : ∀ c ∈ w, isBlank c = false) :
    w <+: respell e t ↔ w <+: t := by
  induction w generalizing t with
  | nil => simp
  | cons c w ih =>
    obtain ⟨hc, hw⟩ := List.forall_mem_cons.1 hw
    rcases t with _ | ⟨d, t⟩
    · simp
    by_cases hd : d = '\n'
    · subst hd
      obtain ⟨b, e', rfl⟩ := List.exists_cons_of_ne_nil (ne_nil_of_lineEnds he)
      have hb : c ≠ b := by
        rintro rfl
        rw [isBlank_of_lineEnds he List.mem_cons_self] at hc
        cases hc
      have hfeed : c ≠ '\n' := by
        rintro rfl
        exact absurd hc (by decide)
      rw [respell_feed, List.cons_append, List.cons_prefix_cons, List.cons_prefix_cons]
      simp [hb, hfeed]
    · rw [respell_cons hd, List.cons_prefix_cons, List.cons_prefix_cons, ih hw]

/-- A last part that begins with another character is a last part with other line ends. -/
lemma suffix_respell (he : e ∈ lineEnds) (hs : c :: s <:+ respell e t) (hc : isBlank c = false) :
    ∃ r, r <:+ t ∧ respell e r = c :: s := by
  induction t with
  | nil => simp at hs
  | cons d t ih =>
    by_cases hd : d = '\n'
    · subst hd
      rw [respell_feed] at hs
      obtain ⟨x, hx⟩ := hs
      rcases List.append_eq_append_iff.1 hx with ⟨y, hy, hrest⟩ | ⟨y, -, hrest⟩
      -- the part does not begin inside the line end
      · cases y with
        | nil => exact ⟨t, List.suffix_cons _ t, hrest.symm⟩
        | cons b y =>
          cases hrest
          rw [isBlank_of_lineEnds he (by simp [hy])] at hc
          cases hc
      · obtain ⟨r, hr, heq⟩ := ih ⟨y, hrest.symm⟩
        exact ⟨r, hr.trans (List.suffix_cons _ t), heq⟩
    · rw [respell_cons hd, List.suffix_cons_iff] at hs
      rcases hs with heq | hs
      · exact ⟨d :: t, List.suffix_refl _, (respell_cons hd e t).trans heq.symm⟩
      · obtain ⟨r, hr, heq⟩ := ih hs
        exact ⟨r, hr.trans (List.suffix_cons d t), heq⟩

/-! ## Line ends that keep their line feed -/

lemma lineFeeds_respell (t : Text) : lineFeeds (respell ['\r', '\n'] t) = lineFeeds t := by
  induction t with
  | nil => rfl
  | cons c t ih =>
    by_cases hc : c = '\n'
    · subst hc
      have hend : lineFeeds ['\r', '\n'] = 1 := rfl
      rw [respell_feed, lineFeeds_append, ih, hend, lineFeeds, lineFeeds, List.count_cons_self,
        Nat.add_comm]
    · rw [respell_cons hc, lineFeeds, lineFeeds, List.count_cons, List.count_cons]
      exact congrArg (· + _) ih

/-- Every carriage return that is put there stands in front of its line feed. -/
lemma paired_respell (ht : '\r' ∉ t) : Paired (respell ['\r', '\n'] t) := by
  induction t with
  | nil => exact paired_nil
  | cons c t ih =>
    rw [List.mem_cons, not_or] at ht
    by_cases hc : c = '\n'
    · subst hc
      have hend : Paired ['\r', '\n'] := by decide
      exact hend.append (ih ht.2)
    · rw [respell_cons hc]
      exact paired_cons_iff.2 ⟨fun hreturn => absurd hreturn.symm ht.1, ih ht.2⟩

/-- The lines are the same but for the carriage returns at their ends. -/
lemma cutAtLineFeeds_respell (t : Text) :
    List.Forall₂ (fun l l' => l' = l ∨ l' = l ++ ['\r']) (cutAtLineFeeds t)
      (cutAtLineFeeds (respell ['\r', '\n'] t)) := by
  induction t with
  | nil => exact .cons (.inl rfl) .nil
  | cons c t ih =>
    by_cases hc : c = '\n'
    · subst hc
      exact .cons (.inr rfl) ih
    · rw [respell_cons hc, cutAtLineFeeds, cutAtLineFeeds, if_neg hc, if_neg hc]
      cases hcut : cutAtLineFeeds t with
      | nil => exact absurd hcut (cutAtLineFeeds_ne_nil t)
      | cons l ls =>
        rw [hcut] at ih
        obtain ⟨l', ls', hl, hls, heq⟩ := List.forall₂_cons_left_iff.1 ih
        rw [heq]
        refine .cons ?_ hls
        rcases hl with rfl | rfl
        · exact .inl rfl
        · exact .inr rfl

/-! ## Line ends without a line feed -/

lemma not_mem_respell (t : Text) : '\n' ∉ respell ['\r'] t := by
  induction t with
  | nil => simp
  | cons c t ih =>
    by_cases hc : c = '\n'
    · subst hc
      simpa using ih
    · rw [respell_cons hc, List.mem_cons, not_or]
      exact ⟨Ne.symm hc, ih⟩

/-- Without line feeds between characters that are not blank, line ends are blanks at the ends. -/
lemma strip_respell (he : e ∈ lineEnds) (ht : '\n' ∉ strip t) : strip (respell e t) = strip t := by
  obtain ⟨x, y, hsplit, hx, hy⟩ := exists_blank_append_strip t
  have hsame : strip t = strip (strip t) := by
    conv_lhs => rw [hsplit, strip_blank_append hx, strip_append_blank hy]
  have hrespell : respell e t = respell e x ++ (strip t ++ respell e y) := by
    conv_lhs => rw [hsplit, respell_append, respell_append, respell_of_not_mem ht]
  rw [hrespell, strip_blank_append (by rw [blank_respell he, hx]),
    strip_append_blank (by rw [blank_respell he, hy]), ← hsame]

end

end ViewEngine.Text

/-
# Markers in a text

A text without markers is one run, also in front of a tag; and a tag is cut into its two markers and
what stands between them, if no marker begins there.

* `pieces_unmarked`, `pieces_unmarked_append`: text outside tags;
* `pieces_inside`, `pieces_comment_tag`: a tag, and one that holds a comment.
-/
import Mathlib.Data.List.Infix
import Mathlib.Tactic.Common
import Mathlib.Tactic.Lemma
import ViewEngine.Markup.Marker
import ViewEngine.Proofs.Text.Pieces
import ViewEngine.Text.Blank

namespace ViewEngine

/-! ## Which marker begins -/

namespace Marker

lemma first?_eq_none {t : Text} (h : ∀ m : Marker, ¬ m.text <+: t) : first? t = none := by
  have hfind : (all.find? fun m => Text.startsWith m.text t) = none := by
    refine List.find?_eq_none.2 fun m _ hm => ?_
    obtain ⟨r, hr⟩ := Option.isSome_iff_exists.1 hm
    exact h m ⟨r, (Text.after?_eq_some_iff.1 hr).symm⟩
  rw [first?, hfind]
  rfl

/-- A text in which no marker occurs. -/
def Unmarked (t : Text) : Prop := ∀ m : Marker, ¬ m.text <:+: t

instance : DecidablePred Unmarked := fun t =>
  decidable_of_iff (∀ m ∈ all, ¬ m.text <:+: t) ⟨fun h m => h m m.mem_all, fun h m _ => h m⟩

lemma Unmarked.free {t : Text} (h : Unmarked t) : first?.Free t :=
  fun _ hs => first?_eq_none fun m hm => h m (hm.isInfix.trans hs.isInfix)

/-- Only the first character of a marker opens a tag. -/
lemma not_mem_tail_text (m : Marker) : '<' ∉ m.text.tail := by
  cases m <;> decide

/-- No marker reaches from a text without markers into the tag behind it. -/
lemma first?_unmarked_append {s v : Text} (h : Unmarked s) (hs : s ≠ []) :
    first? (s ++ '<' :: v) = none := by
  refine first?_eq_none fun m hm => ?_
  obtain ⟨r, hr⟩ := hm
  rcases List.append_eq_append_iff.1 hr with ⟨u, hu, -⟩ | ⟨w, hw, hv⟩
  -- the marker would end in the text, or at its border, or reach the `<` behind it
  · exact h m ⟨[], u, by rw [hu]; rfl⟩
  · rcases w with _ | ⟨c, w⟩
    · rw [List.append_nil] at hw
      exact h m (hw ▸ List.infix_refl _)
    · have hc : '<' = c := (List.cons.inj hv).1
      apply not_mem_tail_text m
      rw [hw, ← hc]
      cases s with
      | nil => exact absurd rfl hs
      | cons d s => simp

end Marker

/-! ## Text outside tags -/

open Marker (first? Unmarked)

lemma pieces_unmarked {t : Text} (h : Unmarked t) (ht : t ≠ []) :
    Text.pieces first? t = [.plain t] :=
  Text.pieces_of_free h.free ht

lemma Marker.Unmarked.suffix {s t : Text} (h : Unmarked t) (hs : s <:+ t) : Unmarked s :=
  fun m hm => h m (hm.trans hs.isInfix)

/-- A run of text in front of a tag. -/
lemma pieces_unmarked_append {t v : Text} (h : Unmarked t) (ht : t ≠ [])
    (hv : ∀ u ps, Text.pieces first? ('<' :: v) ≠ .plain u :: ps) :
    Text.pieces first? (t ++ '<' :: v) = .plain t :: Text.pieces first? ('<' :: v) :=
  Text.pieces_plain_append ht (fun _ hs hne => Marker.first?_unmarked_append (h.suffix hs) hne) hv

/-! ## Tags -/

/-- May the character stand in the code of a tag as generated code has it? -/
def isCodeChar (c : Char) : Bool := c.isAlphanum || c = '_' || c = ' ' || c = ':'

lemma ne_of_isCodeChar {c d : Char} (h : isCodeChar c = true) (hd : isCodeChar d = false) :
    c ≠ d := by
  rintro rfl
  rw [h] at hd
  cases hd

/-- A text between two spaces. -/
def spaced (t : Text) : Text := ' ' :: (t ++ [' '])

lemma isCodeChar_of_mem_spaced {t : Text} (h : ∀ c ∈ t, isCodeChar c = true) :
    ∀ c ∈ spaced t, isCodeChar c = true := by
  intro c hc
  simp only [spaced, List.mem_cons, List.mem_append, List.not_mem_nil, or_false] at hc
  rcases hc with rfl | hc | rfl
  · rfl
  · exact h c hc
  · rfl

/-- A text that a close marker ends: no marker begins in the text, not even one that goes on in the
close marker. -/
structure Apart (t : Text) (closer : Marker) : Prop where
  ne_nil : t ≠ []
  unmarked : ∀ s, s <:+ t → s ≠ [] → ∀ m : Marker, ¬ m.text <+: s ++ closer.text

/-- The characters of a marker in front of its last one. -/
lemma Marker.mem_dropLast_text (m : Marker) : ∀ c ∈ m.text.dropLast, c ∈ ['<', '%', '-', '_'] := by
  have hall : (m.text.dropLast.all fun c => ['<', '%', '-', '_'].contains c) = true := by
    cases m <;> rfl
  intro c hc
  simpa using List.all_eq_true.1 hall c hc

/-- No marker begins in such a text, whatever stands behind the close marker. -/
lemma Apart.first? {t s : Text} {closer : Marker} (h : Apart t closer) (hs : s <:+ t) (hne : s ≠ [])
    (v : Text) : Marker.first? (s ++ (closer.text ++ v)) = none := by
  refine Marker.first?_eq_none fun m hm => h.unmarked s hs hne m ?_
  -- a character and the close marker are together as long as any marker
  have hlong : m.text.length ≤ (s ++ closer.text).length := by
    have hlen : 0 < s.length := List.length_pos_iff.2 hne
    have hm : m.text.length ≤ 3 := by cases m <;> decide
    have hcloser : 2 ≤ closer.text.length := by cases closer <;> decide
    rw [List.length_append]
    omega
  rw [← List.append_assoc] at hm
  exact List.prefix_of_prefix_length_le hm (List.prefix_append _ v) hlong

/-- A text without markers, and without one that would go on in the close marker. -/
lemma Marker.Unmarked.apart {t u : Text} {c : Char} (h : Unmarked t) (ht : t = u ++ [c])
    (hc : c ∉ ['<', '%', '-', '_']) (closer : Marker) : Apart t closer where
  ne_nil := by simp [ht]
  unmarked s hs hne m hm := by
    rcases List.prefix_or_prefix_of_prefix hm (List.prefix_append s closer.text) with hms | hsm
    · exact h m (hms.isInfix.trans hs.isInfix)
    -- the marker would go on behind the last character
    · obtain ⟨w, hw⟩ := hsm
      rcases List.eq_nil_or_concat w with rfl | ⟨w, d, rfl⟩
      · rw [List.append_nil] at hw
        exact h m (hw ▸ hs.isInfix)
      · have hmem : c ∈ s := by
          obtain ⟨v, hv⟩ := hs
          have hlast := congrArg List.getLast? (hv.trans ht)
          rw [List.getLast?_append, List.getLast?_eq_some_getLast hne, List.getLast?_concat] at hlast
          obtain rfl : s.getLast hne = c := Option.some.inj hlast
          exact List.getLast_mem hne
        have hmarker : c ∈ m.text.dropLast := by
          rw [← hw, List.concat_eq_append, ← List.append_assoc, List.dropLast_concat]
          exact List.mem_append_left w hmem
        exact hc (m.mem_dropLast_text c hmarker)

/-- A text that may stand between the markers of a tag: no marker occurs in it, and a space or a line
feed keeps it apart from either. -/
structure Inside (t : Text) : Prop where
  unmarked : Unmarked t
  front : ∃ c u, t = c :: u ∧ (c = ' ' ∨ c = '\n')
  last : ∃ u c, t = u ++ [c] ∧ (c = ' ' ∨ c = '\n')

lemma Inside.apart {t : Text} (h : Inside t) (closer : Marker) : Apart t closer := by
  obtain ⟨u, c, ht, hc⟩ := h.last
  exact h.unmarked.apart ht (by rcases hc with rfl | rfl <;> decide) closer

lemma Marker.percent_mem_text (m : Marker) : '%' ∈ m.text := by
  cases m <;> decide

/-- Code without percent signs may stand in a tag. -/
lemma inside_spaced {t : Text} (h : '%' ∉ t) : Inside (spaced t) where
  unmarked m hm := by
    have hmem := hm.subset m.percent_mem_text
    simp [spaced, h] at hmem
  front := ⟨' ', t ++ [' '], rfl, .inl rfl⟩
  last := ⟨' ' :: t, ' ', rfl, .inl rfl⟩

/-! ### Blanks around a text -/

/-- A text that occurs behind characters that it does not have. -/
lemma Text.infix_of_append {w u v : Text} (hw : w ≠ []) (hu : ∀ c ∈ u, c ∉ w) (h : w <:+: u ++ v) :
    w <:+: v := by
  induction u with
  | nil => exact h
  | cons c u ih =>
    obtain ⟨hc, hu⟩ := List.forall_mem_cons.1 hu
    rcases List.infix_cons_iff.1 h with hfirst | hinfix
    · obtain ⟨d, w, rfl⟩ := List.exists_cons_of_ne_nil hw
      rw [List.cons_prefix_cons] at hfirst
      exact absurd (by simp [hfirst.1]) hc
    · exact ih hu hinfix

namespace Marker

lemma not_mem_text_of_isBlank {c : Char} (hc : Text.isBlank c = true) (m : Marker) : c ∉ m.text := by
  intro hmem
  have hall : (m.text.all fun c => !Text.isBlank c) = true := by cases m <;> decide
  have hnot := List.all_eq_true.1 hall c hmem
  rw [hc] at hnot
  cases hnot

/-- No marker occurs in a text only because of blanks around it. -/
lemma Unmarked.between {pre t post : Text} (h : Unmarked t) (hpre : Text.blank pre = true)
    (hpost : Text.blank post = true) : Unmarked (pre ++ (t ++ post)) := by
  intro m hm
  have hblank : ∀ {u : Text}, Text.blank u = true → ∀ c ∈ u, c ∉ m.text := fun hu c hc =>
    not_mem_text_of_isBlank (List.all_eq_true.1 hu c hc) m
  have hright := Text.infix_of_append m.text_ne_nil (hblank hpre) hm
  -- from behind, the blanks at the end come first
  rw [← List.reverse_infix, List.reverse_append] at hright
  have hleft := Text.infix_of_append (by simpa using m.text_ne_nil)
    (fun c hc => by simpa using hblank hpost c (List.mem_reverse.1 hc)) hright
  exact h m (List.reverse_infix.1 hleft)

/-- The open marker of a tag of code, in front of a character with which no other marker goes on. -/
lemma first?_openEval {c : Char} (hc : c ∉ ['%', '=', '-', '#', '_']) (u : Text) :
    first? (Marker.openEval.text ++ c :: u) = some (.openEval, Marker.openEval.text.length) := by
  simp only [List.mem_cons, List.not_mem_nil, or_false, not_or] at hc
  simp [first?, all, text, Text.startsWith, Text.after?, Ne.symm hc.1, Ne.symm hc.2.1,
    Ne.symm hc.2.2.1, Ne.symm hc.2.2.2.1, Ne.symm hc.2.2.2.2]

end Marker

/-- The pieces of a tag. -/
def tagPieces (m closer : Marker) (inside : Text) : List (Text.Piece Marker) :=
  [.found m m.text, .plain inside, .found closer closer.text]

/-- What stands between two markers is one run. -/
lemma pieces_between {m closer : Marker} (hclose : closer.isClose = true) {t v : Text}
    (h : Apart t closer)
    (hopen : first? (m.text ++ (t ++ (closer.text ++ v))) = some (m, m.text.length)) :
    Text.pieces first? (m.text ++ (t ++ (closer.text ++ v))) =
      tagPieces m closer t ++ Text.pieces first? v := by
  have hbehind : Text.pieces first? (closer.text ++ v) =
      .found closer closer.text :: Text.pieces first? v := by
    refine Text.pieces_found closer.text_ne_nil ?_
    cases closer <;> first | rfl | cases hclose
  have hinside : Text.pieces first? (t ++ (closer.text ++ v)) =
      .plain t :: .found closer closer.text :: Text.pieces first? v := by
    rw [← hbehind]
    refine Text.pieces_plain_append h.ne_nil (fun s hs hne => h.first? hs hne v) ?_
    intro u ps heq
    rw [hbehind] at heq
    cases heq
  rw [Text.pieces_found m.text_ne_nil hopen, hinside]
  rfl

/-- **A tag is cut into its markers and its inside**, whichever of the close markers it has. -/
theorem pieces_inside (m closer : Marker) (hclose : closer.isClose = true) {t : Text}
    (h : Inside t) (v : Text) :
    Text.pieces first? (m.text ++ (t ++ (closer.text ++ v))) =
      tagPieces m closer t ++ Text.pieces first? v := by
  refine pieces_between hclose (h.apart closer) ?_
  obtain ⟨c, u, rfl, hc⟩ := h.front
  rcases hc with rfl | rfl <;> cases m <;> rfl

/-- A comment may begin with any character. -/
theorem pieces_comment_tag (closer : Marker) (hclose : closer.isClose = true) {t : Text}
    (h : Apart t closer) (v : Text) :
    Text.pieces first? (Marker.openComment.text ++ (t ++ (closer.text ++ v))) =
      tagPieces .openComment closer t ++ Text.pieces first? v :=
  pieces_between hclose h rfl

/-- A tag. -/
def tag (m : Marker) (inside : Text) : Text := m.text ++ (spaced inside ++ Marker.close.text)

end ViewEngine

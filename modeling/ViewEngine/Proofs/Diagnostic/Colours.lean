/-
# Colours leave no trace

A coloured message is the plain message with escape sequences in it, and `Colour.strip` takes escape
sequences out.  But a message quotes texts of its author, who may have written anything: the rest of a
sequence may end a quoted text, and what follows it in the message may complete it.  So it has to be
shown that no sequence reads across the place where colours were put in, neither in the coloured message
nor in the plain one, and that looking for a code in the message is not misled by them.

A sequence only reads characters between the space and the tilde.  Any other character is a border that
it does not cross: the escape character of an inserted sequence, and the line feeds between the parts of
a message.

* `Colour.strip_append_border`: stripping goes part by part at a border;
* `Alike`: two texts that are the same but for colours;
* `ViewError.alike_message`: the messages with and without colours;
* `colours_leave_no_trace`: what is left when the colours are taken out.
-/
import Mathlib.Data.List.Forall2
import ViewEngine.Diagnostic.ViewError
import ViewEngine.Proofs.Text.Pieces

namespace ViewEngine

/-! ## Words in a text -/

namespace Text

variable {c : Char} {u v w : Text}

lemma startsWith_append_cons (hc : c ∉ w) (u v : Text) :
    startsWith w (u ++ c :: v) = startsWith w u := by
  unfold startsWith
  induction w generalizing u with
  | nil => rfl
  | cons a w ih =>
    rw [List.mem_cons, not_or] at hc
    cases u with
    | nil => rw [List.nil_append, after?, after?, if_neg (Ne.symm hc.1)]
    | cons b u =>
      rw [List.cons_append, after?, after?]
      split
      · exact ih hc.2 u
      · rfl

/-- A word occurs on one side of a character that it does not have. -/
lemma occurs_append_cons (hc : c ∉ w) (hw : w ≠ []) :
    occurs w (u ++ c :: v) = (occurs w u || occurs w v) := by
  induction u with
  | nil =>
    have hfront : startsWith w (c :: v) = startsWith w [] := startsWith_append_cons hc [] v
    obtain ⟨a, w, rfl⟩ := List.exists_cons_of_ne_nil hw
    show (startsWith (a :: w) (c :: v) || occurs (a :: w) v) = _
    rw [hfront]
    rfl
  | cons b u ih =>
    rw [List.cons_append, occurs, ih, occurs, ← List.cons_append, startsWith_append_cons hc,
      Bool.or_assoc]

/-- A word does not begin among characters that are not its first. -/
lemma occurs_append_of_not_mem (hc : c ∉ u) : occurs (c :: w) (u ++ v) = occurs (c :: w) v := by
  induction u with
  | nil => rfl
  | cons b u ih =>
    rw [List.mem_cons, not_or] at hc
    have hfront : startsWith (c :: w) (b :: (u ++ v)) = false := by
      rw [startsWith, after?, if_neg hc.1]
      rfl
    rw [List.cons_append, occurs, hfront, ih hc.2, Bool.false_or]

end Text

/-! ## Stripping -/

namespace Colour

/-- No escape sequence has the character behind its escape character. -/
def IsBorder (c : Char) : Prop := c.toNat < 0x20 ∨ 0x7e < c.toNat

variable {c : Char} {t u v : Text}

lemma IsBorder.not_between (hc : IsBorder c) {lo hi : Nat} (hlo : 0x20 ≤ lo) (hhi : hi ≤ 0x7e) :
    between lo hi c = false := by
  rw [between, Bool.and_eq_false_iff, decide_eq_false_iff_not, decide_eq_false_iff_not]
  rcases hc with hc | hc
  · exact .inl (by omega)
  · exact .inr (by omega)

lemma dropWhile_append_border {p : Char → Bool} (hc : p c = false) (u v : Text) :
    (u ++ c :: v).dropWhile p = u.dropWhile p ++ c :: v := by
  rw [List.dropWhile_append]
  split
  · next h => rw [List.isEmpty_iff.1 h, List.dropWhile_cons_of_neg (by simp [hc]), List.nil_append]
  · rfl

/-- A sequence that begins in front of a border ends in front of it. -/
lemma sequenceAt?_append_border (hc : IsBorder c) (hu : u ≠ []) :
    sequenceAt? (u ++ c :: v) = sequenceAt? u := by
  have hletter : ∀ lo hi, 0x20 ≤ lo → hi ≤ 0x7e → between lo hi c = false :=
    fun lo hi hlo hhi => hc.not_between hlo hhi
  have hbracket : c ≠ '[' := by
    rintro rfl
    rcases hc with hc | hc <;> exact absurd hc (by decide)
  obtain ⟨a, u, rfl⟩ := List.exists_cons_of_ne_nil hu
  by_cases ha : a = '\x1b'
  · subst ha
    rcases u with _ | ⟨b, u⟩
    -- the border stands directly behind the escape character
    · simp [sequenceAt?, hletter]
    by_cases hb : b = '['
    · subst hb
      simp only [List.cons_append, sequenceAt?]
      rw [dropWhile_append_border (hletter 0x30 0x3f (by omega) (by omega)),
        dropWhile_append_border (hletter 0x20 0x2f (by omega) (by omega))]
      rcases hrest : (u.dropWhile (between 0x30 0x3f)).dropWhile (between 0x20 0x2f) with _ | ⟨f, r⟩
      · simp [hletter]
      · simp only [List.cons_append, List.length_append, List.length_cons]
        congr 3
        omega
    · simp [sequenceAt?]
  · simp [sequenceAt?, ha]

lemma sequenceAt?_sound : Text.Matcher.Sound sequenceAt? where
  pos {t _ n} h := by
    unfold sequenceAt? at h
    split at h
    · next t =>
      dsimp only at h
      split at h
      · next f r hrest =>
        split at h
        · have hsuffix := (List.dropWhile_suffix (l := t.dropWhile (between 0x30 0x3f))
            (between 0x20 0x2f)).trans (List.dropWhile_suffix _)
          rw [hrest] at hsuffix
          have hlength := hsuffix.length_le
          rw [List.length_cons] at hlength
          cases h
          omega
        · cases h
      · cases h
    · split at h
      · cases h
        exact Nat.zero_lt_two
      · cases h
    · cases h
  le {t _ n} h := by
    unfold sequenceAt? at h
    split at h
    · dsimp only at h
      split at h
      · split at h
        · cases h
          simp only [List.length_cons]
          omega
        · cases h
      · cases h
    · split at h
      · cases h
        simp
      · cases h
    · cases h

@[simp] lemma strip_nil : strip [] = [] := rfl

/-- **Stripping goes part by part at a border.** -/
theorem strip_append_border (hc : IsBorder c) (u v : Text) :
    strip (u ++ c :: v) = strip u ++ strip (c :: v) :=
  Text.replaceAll_append sequenceAt?_sound u fun _ _ hs => sequenceAt?_append_border hc hs

/-- What is in front of the first escape character stays. -/
lemma strip_append_of_not_mem (hu : '\x1b' ∉ u) (v : Text) : strip (u ++ v) = u ++ strip v := by
  refine Text.replaceAll_append_of_none fun s hs hne => ?_
  obtain ⟨d, s, rfl⟩ := List.exists_cons_of_ne_nil hne
  have hd : d ≠ '\x1b' := fun h => hu (h ▸ hs.subset List.mem_cons_self)
  simp [sequenceAt?, hd]

lemma strip_of_not_mem (hu : '\x1b' ∉ u) : strip u = u := by
  have h := strip_append_of_not_mem hu []
  rwa [strip_nil, List.append_nil] at h

/-- A line feed stays, and parts the text. -/
lemma strip_append_feed (u v : Text) : strip (u ++ '\n' :: v) = strip u ++ '\n' :: strip v := by
  rw [strip_append_border (.inl (by decide))]
  exact congrArg (strip u ++ ·) (strip_append_of_not_mem (u := ['\n']) (by decide) v)

/-! ### Painted text -/

/-- The sequence of a style is taken out. -/
lemma strip_sequence_append (s : Style) (v : Text) : strip (s.sequence ++ v) = strip v := by
  have hfound : sequenceAt? (s.sequence ++ v) = some ((), s.sequence.length) := by
    cases s <;> simp [Style.sequence, Style.parameter, sequenceAt?, between] <;> omega
  have hne : s.sequence ≠ [] := List.cons_ne_nil _ _
  exact (Text.replaceAll_found hne hfound).trans (List.nil_append _)

lemma strip_sequences_append (ss : List Style) (v : Text) :
    strip (ss.flatMap Style.sequence ++ v) = strip v := by
  induction ss with
  | nil => rfl
  | cons s ss ih => rw [List.flatMap_cons, List.append_assoc, strip_sequence_append, ih]

lemma paint_eq (on : Bool) (styles : List Style) (t : Text) :
    paint on styles t = t ∨
      paint on styles t = styles.flatMap Style.sequence ++ (t ++ Style.reset.sequence) := by
  unfold paint
  split
  · exact .inl rfl
  · exact .inr (List.append_assoc _ _ _)

/-- **Painting a text leaves nothing behind**, whatever the text is. -/
theorem strip_paint (on : Bool) (styles : List Style) (t : Text) :
    strip (paint on styles t) = strip t := by
  rcases paint_eq on styles t with h | h
  · rw [h]
  · have hreset : strip Style.reset.sequence = [] := by decide
    rw [h, strip_sequences_append]
    refine (strip_append_border (.inl (by decide)) t _).trans ?_
    exact (congrArg (strip t ++ ·) hreset).trans (List.append_nil _)

/-- Nothing is left of the paint in front of a text either, if the painted text has no escape
character. -/
lemma strip_paint_append (on : Bool) (styles : List Style) (ht : '\x1b' ∉ t) (v : Text) :
    strip (paint on styles t ++ v) = t ++ strip v := by
  rcases paint_eq on styles t with h | h
  · rw [h, strip_append_of_not_mem ht]
  · rw [h, List.append_assoc, strip_sequences_append, List.append_assoc,
      strip_append_of_not_mem ht, strip_sequence_append]

end Colour

/-! ## Texts that are the same but for colours -/

/-- The two texts are the same when escape sequences are taken out, and the same codes are found in
them. -/
structure Alike (a b : Text) : Prop where
  strip_eq : Colour.strip a = Colour.strip b
  occurs_eq : ∀ c : ErrorCode, Text.occurs c.text a = Text.occurs c.text b

/-- How a code is written: none of the characters between the parts of a message is in it. -/
lemma ErrorCode.exists_text (c : ErrorCode) :
    ∃ w, c.text = 'V' :: w ∧ ' ' ∉ c.text ∧ '\n' ∉ c.text ∧ '\x1b' ∉ c.text := by
  cases c <;> exact ⟨_, rfl, by decide⟩

namespace Alike

variable {a a' b b' u : Text}

lemma refl (a : Text) : Alike a a := ⟨rfl, fun _ => rfl⟩

/-- A text with paint on it. -/
lemma paint (on : Bool) (styles : List Style) (t : Text) : Alike (Colour.paint on styles t) t where
  strip_eq := Colour.strip_paint on styles t
  occurs_eq c := by
    obtain ⟨w, hw, -, -, hescape⟩ := c.exists_text
    rcases Colour.paint_eq on styles t with h | h
    · rw [h]
    · have hstyles : 'V' ∉ styles.flatMap Style.sequence := by
        rw [List.mem_flatMap]
        rintro ⟨s, -, hs⟩
        cases s <;> exact absurd hs (by decide)
      have hreset : Text.occurs c.text ['[', '0', 'm'] = false := by cases c <;> decide
      have hsplit : Text.occurs c.text (t ++ Style.reset.sequence) =
          (Text.occurs c.text t || Text.occurs c.text ['[', '0', 'm']) :=
        Text.occurs_append_cons hescape (by rw [hw]; exact List.cons_ne_nil _ _)
      rw [hreset, Bool.or_false] at hsplit
      rw [h, ← hsplit, hw]
      exact Text.occurs_append_of_not_mem hstyles

/-- Alike texts on lines behind each other. -/
lemma line (h : Alike a b) (h' : Alike a' b') : Alike (a ++ '\n' :: a') (b ++ '\n' :: b') where
  strip_eq := by
    rw [Colour.strip_append_feed, Colour.strip_append_feed, h.strip_eq, h'.strip_eq]
  occurs_eq c := by
    obtain ⟨w, hw, -, hfeed, -⟩ := c.exists_text
    have hne : c.text ≠ [] := hw ▸ List.cons_ne_nil _ _
    rw [Text.occurs_append_cons hfeed hne, Text.occurs_append_cons hfeed hne, h.occurs_eq,
      h'.occurs_eq]

/-- Alike texts behind a painted word that has no escape character, and a space. -/
lemma behind (on : Bool) (styles : List Style) (hu : '\x1b' ∉ u) (h : Alike a b) :
    Alike (Colour.paint on styles u ++ ' ' :: a) (u ++ ' ' :: b) where
  strip_eq := by
    have hspace : ∀ v, Colour.strip (' ' :: v) = ' ' :: Colour.strip v := fun v =>
      Colour.strip_append_of_not_mem (u := [' ']) (by decide) v
    rw [Colour.strip_paint_append on styles hu, Colour.strip_append_of_not_mem hu, hspace, hspace,
      h.strip_eq]
  occurs_eq c := by
    obtain ⟨w, hw, hspace, -, -⟩ := c.exists_text
    have hne : c.text ≠ [] := hw ▸ List.cons_ne_nil _ _
    rw [Text.occurs_append_cons hspace hne, Text.occurs_append_cons hspace hne,
      (paint on styles u).occurs_eq, h.occurs_eq]

/-- Alike texts behind a plain word and a space. -/
lemma after (hu : '\x1b' ∉ u) (h : Alike a b) : Alike (u ++ ' ' :: a) (u ++ ' ' :: b) :=
  behind false [] hu h

/-- Alike texts on lines of their own. -/
lemma joinWith {as bs : List Text} (h : List.Forall₂ Alike as bs) :
    Alike (Text.joinWith ['\n'] as) (Text.joinWith ['\n'] bs) := by
  induction h with
  | nil => exact refl []
  | @cons a b as bs hfirst hrest ih =>
    cases hrest with
    | nil => exact hfirst
    | cons =>
      rw [Text.joinWith, Text.joinWith, List.append_assoc, List.append_assoc]
      exact hfirst.line ih

end Alike

/-! ## Messages -/

lemma escape_not_mem_ofInt (n : Int) : '\x1b' ∉ Text.ofInt n := by
  have hdigits : ∀ k : Nat, '\x1b' ∉ Text.ofNat k := fun k hmem =>
    absurd (Nat.isDigit_of_mem_toDigits (by decide) (by decide) hmem) (by decide)
  cases n with
  | ofNat k => exact hdigits k
  | negSucc k =>
    rw [Text.ofInt, List.mem_cons, not_or]
    exact ⟨by decide, hdigits (k + 1)⟩

namespace Snippet

lemma alike_formatLine (isError : Bool) (n : Int) (t : Text) :
    Alike (formatLine true isError n t) (formatLine false isError n t) := by
  unfold formatLine
  dsimp only
  have hbody : Alike
      (if isError then Colour.paint true [.brightRed] t else Colour.dimmed true t)
      (if isError then Colour.paint false [.brightRed] t else Colour.dimmed false t) := by
    cases isError with
    | true => exact .paint true [.brightRed] t
    | false => exact .paint true [.dim] t
  have hnumber : '\x1b' ∉ (if isError then (">" : Text) else " ") ++
      Text.padLeft 3 (Text.ofInt n) := by
    rw [List.mem_append, Text.padLeft, List.mem_append, List.mem_replicate, not_or, not_or]
    exact ⟨by cases isError <;> decide, by simp, escape_not_mem_ofInt n⟩
  rw [List.append_assoc, List.append_assoc]
  exact .behind true [.yellow] hnumber (.after (u := ['|']) (by decide) hbody)

lemma alike_format (s : Snippet) : Alike (s.format true) (s.format false) := by
  have hrule : Alike (Colour.dimmed true "   |") (Colour.dimmed false "   |") :=
    .paint true [.dim] "   |"
  refine .joinWith (.cons hrule (List.rel_append ?_ (.cons hrule .nil)))
  rw [List.forall₂_map_left_iff, List.forall₂_map_right_iff]
  exact List.forall₂_same.2 fun l _ => alike_formatLine (l.1 = s.errorLine) l.1 l.2

end Snippet

lemma alike_formatViewStack (stack : List Text) :
    Alike (formatViewStack true stack) (formatViewStack false stack) := by
  unfold formatViewStack
  split
  · exact .refl []
  · refine .joinWith (.cons (.paint true [.dim] "View stack:") ?_)
    rw [List.forall₂_map_left_iff, List.forall₂_map_right_iff]
    exact List.forall₂_same.2 fun n _ =>
      .after (u := "  •") (by decide) (.paint true [.cyan] n)

lemma Place.alike_format (m : Text) (p : Place) : Alike (p.format true m) (p.format false m) := by
  have hheader : Alike (m ++ "\n  --> " ++ Colour.location true p.text)
      (m ++ "\n  --> " ++ Colour.location false p.text) := by
    rw [List.append_assoc, List.append_assoc]
    exact .line (.refl m) (.after (u := "  -->") (by decide) (.paint true [.cyan] p.text))
  unfold Place.format
  dsimp only
  split
  · next s _ =>
    rw [List.append_assoc _ _ (s.format true), List.append_assoc _ _ (s.format false)]
    exact hheader.line s.alike_format
  · exact hheader

lemma RuntimeFailure.alike_format (f : RuntimeFailure) : Alike (f.format true) (f.format false) := by
  unfold RuntimeFailure.format
  dsimp only
  refine .joinWith (.cons (.refl _) (List.rel_append (List.rel_append (List.rel_append ?_ ?_) ?_) ?_))
  -- the place
  · split
    · exact .cons (.after (u := "  Location:") (by decide) (.paint true [.cyan] _)) .nil
    · exact .nil
  -- the lines around it
  · cases f.snippet with
    | none => exact .nil
    | some s => exact .cons s.alike_format .nil
  -- the views being resolved
  · split
    · exact .nil
    · exact .cons (alike_formatViewStack f.stack) .nil
  -- advice
  · cases nonempty? f.suggestion with
    | none => exact .nil
    | some s =>
      have hhint : Alike (Colour.hint true "Suggestion:" ++ ' ' :: s) ("Suggestion:" ++ ' ' :: s) :=
        .behind true [.green] (by decide) (.refl s)
      have hadvice : Alike ("  " ++ Colour.hint true "Suggestion:" ++ " " ++ s)
          ("  " ++ Colour.hint false "Suggestion:" ++ " " ++ s) := by
        simp only [List.append_assoc]
        exact .after (u := [' ']) (by decide) hhint
      exact .cons hadvice .nil

namespace ViewError

/-- **The messages with and without colours** are the same but for the colours. -/
theorem alike_message (e : ViewError) : Alike (e.message true) (e.message false) := by
  cases e with
  | general m => exact .refl m
  | notFound m => exact .refl m
  | malformed m p => exact p.alike_format m
  | unmatchedTag tag p => exact p.alike_format _
  | uncompilable m p _ _ => exact p.alike_format m
  | runtime f => exact f.alike_format

lemma strip_errorCode_append (on : Bool) (c : ErrorCode) (v : Text) :
    Colour.strip (Colour.errorCode on c.text ++ v) = c.text ++ Colour.strip v := by
  obtain ⟨-, -, -, -, hescape⟩ := c.exists_text
  exact Colour.strip_paint_append on [.brightRed, .bold] hescape v

/-- A code is put in front of both of two alike headers, or of none. -/
lemma strip_withCode (code : Option ErrorCode) {a b : Text} (h : Alike a b) :
    Colour.strip (withCode true code a) = Colour.strip (withCode false code b) := by
  cases code with
  | none => exact h.strip_eq
  | some c =>
    have hcolon : ∀ v, Colour.strip (": " ++ v) = ": " ++ Colour.strip v :=
      Colour.strip_append_of_not_mem (by decide)
    unfold withCode
    dsimp only
    rw [h.occurs_eq c]
    split
    · exact h.strip_eq
    · rw [List.append_assoc, List.append_assoc, strip_errorCode_append, strip_errorCode_append,
        hcolon, hcolon, h.strip_eq]

lemma strip_compactAt (c : ErrorCode) (m : Text) (p : Place) :
    Colour.strip (compactAt true c m p) = Colour.strip (compactAt false c m p) := by
  unfold compactAt
  simp only [List.append_assoc]
  rw [strip_errorCode_append, strip_errorCode_append]

lemma strip_compact (e : ViewError) :
    Colour.strip (e.compact true) = Colour.strip (e.compact false) := by
  cases e with
  | general m => exact strip_withCode none (.refl m)
  | notFound m => exact strip_withCode (some .templateNotFound) (.refl m)
  | malformed m p => exact strip_compactAt _ m p
  | unmatchedTag tag p => exact strip_compactAt _ _ p
  | uncompilable m p _ c => exact strip_compactAt c m p
  | runtime f => exact strip_withCode (some f.code) f.alike_format

end ViewError

/-- **Colours change nothing but escape sequences.**  For every error, whatever its fields hold, the
full message and the compact one are the same with colours and without once the escape sequences are
taken out, and so is any painted text.  What is taken out are escape sequences: a text without an escape
character stays as it is. -/
theorem colours_leave_no_trace :
    (∀ e : ViewError, Colour.strip (e.message true) = Colour.strip (e.message false)) ∧
    (∀ e : ViewError, Colour.strip (e.compact true) = Colour.strip (e.compact false)) ∧
    (∀ on styles t, Colour.strip (Colour.paint on styles t) = Colour.strip t) ∧
    (∀ t, '\x1b' ∉ t → Colour.strip t = t) :=
  ⟨fun e => e.alike_message.strip_eq, ViewError.strip_compact, Colour.strip_paint,
    fun _ => Colour.strip_of_not_mem⟩

/-- A message and a name that end in the middle of a sequence, which nothing behind them completes; the
code stands in the advice already. -/
theorem colours_leave_no_trace_cut :
    let e : ViewError := .runtime
      { message := "\x1b[3", name := some "a\x1b", suggestion := some "V-RUN-001" }
    let plain : Text := "Runtime Error: \x1b[3\n  Location: a\x1b\n  Suggestion: V-RUN-001"
    e.compact true ≠ plain ∧ Colour.strip (e.compact true) = plain ∧
      '\x1b' ∉ ("a[36m" : Text) ∧ Colour.strip "a[36m" = "a[36m" := by
  intro e plain
  obtain ⟨-, hcompact, -, hquiet⟩ := colours_leave_no_trace
  have hescape : '\x1b' ∉ ("a[36m" : Text) := by decide
  have hplain : Colour.strip (e.compact false) = plain := by decide +kernel
  exact ⟨by decide +kernel, (hcompact e).trans hplain, hescape, hquiet _ hescape⟩

end ViewEngine

/-
# Views with other line ends

Views are written with carriage returns and line feeds, or with carriage returns alone, on some systems.
They have the same tags as with line feeds.  If each line end keeps its line feed, the generator also
finds the same lines: it goes through both views in the same way, and each statement starts on the same
line and comes from the same line.  Carriage returns alone are line breaks where one is trimmed behind a
tag, and nowhere else, so that a view of such lines has one line only.

* `fragments_respell`, `tokens_respell`: the tags of a view with other line ends;
* `Correspondence.crlf`, `Correspondence.cr`: the likeness of the two views;
* `generate_respell`: what is generated for them.
-/
import ViewEngine.Proofs.Code.Correspondence
import ViewEngine.Proofs.Code.Lines
import ViewEngine.Proofs.Code.PassThrough
import ViewEngine.Proofs.Markup.Decomposition
import ViewEngine.Proofs.Text.Respelling

namespace ViewEngine

open Text (lineEnds respell)

/-! ## Tags -/

section

variable {e p : Text} {parts : List Text} {m : Marker}

lemma Marker.not_blank {c : Char} (hc : c ∈ m.text) : Text.isBlank c = false := by
  have hall : (m.text.all fun c => !Text.isBlank c) = true := by
    cases m <;> decide
  simpa using List.all_eq_true.1 hall c hc

lemma Marker.not_mem_feed (m : Marker) : '\n' ∉ m.text := by
  cases m <;> decide

lemma Marker.not_mem_return (m : Marker) : '\r' ∉ m.text := by
  cases m <;> decide

lemma Marker.respell_text (m : Marker) (e : Text) : respell e m.text = m.text :=
  Text.respell_of_not_mem m.not_mem_feed e

variable (he : e ∈ lineEnds)

include he

lemma Marker.prefix_respell_iff {t : Text} : m.text <+: respell e t ↔ m.text <+: t :=
  Text.prefix_respell_iff he fun _ => Marker.not_blank

/-- What is a marker with other line ends is that marker. -/
lemma eq_of_respell (h : respell e p = m.text) : p = m.text := by
  have hprefix : m.text <+: respell e p := by rw [h]
  obtain ⟨r, rfl⟩ := (Marker.prefix_respell_iff he).1 hprefix
  rw [Text.respell_append, m.respell_text, List.append_right_eq_self, Text.respell_eq_nil_iff he] at h
  rw [h, List.append_nil]

lemma isMarker_respell_iff : IsMarker (respell e p) ↔ IsMarker p := by
  constructor
  · rintro ⟨m, hm⟩
    exact ⟨m, eq_of_respell he hm⟩
  · rintro ⟨m, rfl⟩
    exact ⟨m, m.respell_text e⟩

/-- **Other line ends do not make or break markers.** -/
theorem Leftmost.respell (h : Leftmost parts) : Leftmost (parts.map (Text.respell e)) where
  ne_nil p hp := by
    obtain ⟨q, hq, rfl⟩ := List.mem_map.1 hp
    exact fun hnil => h.ne_nil q hq ((Text.respell_eq_nil_iff he).1 hnil)
  apart {before p q after} heq := by
    obtain ⟨front, back, rfl, -, hback⟩ := List.map_eq_append_iff.1 heq
    obtain ⟨p', back, rfl, rfl, hrest⟩ := List.map_eq_cons_iff.1 hback
    obtain ⟨q', back, rfl, rfl, -⟩ := List.map_eq_cons_iff.1 hrest
    rw [isMarker_respell_iff he, isMarker_respell_iff he]
    exact h.apart rfl
  longest {before after m m'} heq hm' := by
    obtain ⟨front, back, rfl, -, hback⟩ := List.map_eq_append_iff.1 heq
    obtain ⟨p, back, rfl, hp, rfl⟩ := List.map_eq_cons_iff.1 hback
    rw [eq_of_respell he hp] at h
    rw [← m.respell_text e, ← Text.respell_flatten, ← Text.respell_append,
      Marker.prefix_respell_iff he] at hm'
    exact h.longest rfl hm'
  unmarked {before p after} heq hp s hs hne m hm := by
    obtain ⟨front, back, rfl, -, hback⟩ := List.map_eq_append_iff.1 heq
    obtain ⟨q, back, rfl, rfl, rfl⟩ := List.map_eq_cons_iff.1 hback
    rw [isMarker_respell_iff he] at hp
    -- the marker does not begin inside a line end
    obtain ⟨c, s, rfl⟩ := List.exists_cons_of_ne_nil hne
    have hc : Text.isBlank c = false := by
      obtain ⟨d, w, hw⟩ := List.exists_cons_of_ne_nil m.text_ne_nil
      have hmem : d ∈ m.text := by rw [hw]; exact List.mem_cons_self
      rw [hw, List.cons_append, List.cons_prefix_cons] at hm
      exact hm.1 ▸ Marker.not_blank hmem
    obtain ⟨r, hr, heq⟩ := Text.suffix_respell he hs hc
    rw [← heq, ← Text.respell_flatten, ← Text.respell_append, Marker.prefix_respell_iff he] at hm
    refine h.unmarked rfl hp hr ?_ m hm
    rintro rfl
    cases heq

/-- The fragments of a view with other line ends. -/
theorem fragments_respell (s : Text) :
    fragments (respell e s) = (fragments s).map (Text.respell e) := by
  conv_lhs => rw [← flatten_fragments s, Text.respell_flatten]
  exact ((leftmost_fragments s).respell he).fragments_flatten

end

lemma text_ofFragment (t : Text) : (ofFragment t).text = t := by
  unfold ofFragment
  split <;> rfl

/-- The token of a view with other line ends, if `f` takes lines to lines. -/
def Token.respell (e : Text) (f : Int → Int) (t : Token) : Token :=
  ⟨t.kind, Text.respell e t.value, f t.line⟩

section

variable {e : Text} {f : Int → Int} (he : e ∈ lineEnds)
  (hf : ∀ n t, f (n + Text.lineFeeds t) = f n + Text.lineFeeds (respell e t))

include he

lemma ofPiece_respell (n : Int) (p : Text) :
    Token.ofPiece (f n) (ofFragment (respell e p)) = (Token.ofPiece n (ofFragment p)).respell e f := by
  by_cases hp : IsMarker p
  · obtain ⟨m, rfl⟩ := hp
    rw [m.respell_text, ofFragment_text, Token.ofPiece, Token.ofPiece, Token.respell, m.respell_text]
  · rw [ofFragment_of_not hp, ofFragment_of_not (mt (isMarker_respell_iff he).1 hp)]
    rfl

include hf

lemma ofPieces_respell (n : Int) (ps : List Text) :
    Token.ofPieces (f n) ((ps.map (respell e)).map ofFragment) =
      (Token.ofPieces n (ps.map ofFragment)).map (Token.respell e f) := by
  induction ps generalizing n with
  | nil => rfl
  | cons p ps ih =>
    rw [List.map_cons, List.map_cons, List.map_cons, Token.ofPieces, Token.ofPieces, List.map_cons,
      ofPiece_respell he, text_ofFragment, text_ofFragment, ← hf, ih]

/-- **The tokens of a view with other line ends.** -/
theorem tokens_respell (hone : f 1 = 1) (s : Text) :
    tokens (respell e s) = (tokens s).map (Token.respell e f) := by
  have hpieces := ofPieces_respell he hf 1 (fragments s)
  rwa [hone, ← fragments_respell he, ← pieces_eq_map, ← pieces_eq_map] at hpieces

end

/-! ## What the generator looks at -/

section

variable {e : Text} (he : e ∈ lineEnds)

include he

lemma stripSemicolon_respell (t : Text) :
    stripSemicolon (respell e t) = respell e (stripSemicolon t) := by
  rcases blank_or_last t with hblank | ⟨u, d, v, rfl, hd, hv⟩
  · rw [stripSemicolon_blank hblank, stripSemicolon_blank (by rw [Text.blank_respell he, hblank])]
  · have hfeed : d ≠ '\n' := by
      rintro rfl
      exact absurd hd (by decide)
    have hblank : Text.blank (respell e v) = true := by rw [Text.blank_respell he, hv]
    rw [Text.respell_append, Text.respell_cons hfeed]
    by_cases hsemicolon : d = ';'
    · subst hsemicolon
      rw [stripSemicolon_semicolon _ hblank, stripSemicolon_semicolon _ hv, Text.respell_append]
    · rw [stripSemicolon_other _ hd hsemicolon hblank, stripSemicolon_other _ hd hsemicolon hv,
        Text.respell_append, Text.respell_cons hfeed]

lemma trimmed_respell (trim : Bool) {t : Text} (ht : '\r' ∉ t) :
    trimmed trim (respell e t) = respell e (trimmed trim t) := by
  unfold trimmed
  rw [Text.afterLineBreak?_respell he ht]
  split
  · cases Text.afterLineBreak? t <;> rfl
  · rfl

lemma trimmedLine_respell (trim : Bool) {t : Text} (ht : '\r' ∉ t) (n : Int) :
    trimmedLine trim (respell e t) n = trimmedLine trim t n := by
  unfold trimmedLine
  rw [Text.afterLineBreak?_respell he ht, Option.isSome_map]

/-- A text outside of tags is appended by one statement, or is empty, whatever its line ends are. -/
lemma literalStatements_respell {R : Statement → Statement → Prop} {d : Nat} {n n' : Int}
    (h : ∀ x x', R ⟨d, appendLiteral x, n⟩ ⟨d, appendLiteral x', n'⟩) (t : Text) :
    List.Forall₂ R (literalStatements d t n) (literalStatements d (respell e t) n') := by
  have hempty : (respell e t).isEmpty = t.isEmpty := by
    rw [Bool.eq_iff_iff, List.isEmpty_iff, List.isEmpty_iff]
    exact Text.respell_eq_nil_iff he
  unfold literalStatements
  rw [hempty]
  split
  · exact .nil
  · exact .cons (h _ _) .nil

end

lemma lineFeeds_appendLiteral (t : Text) : Text.lineFeeds (appendLiteral t) = 0 := by
  rw [Text.lineFeeds, List.count_eq_zero]
  intro hfeed
  rcases List.mem_append.1 hfeed with hfeed | hfeed
  · rcases List.mem_append.1 hfeed with hfeed | hfeed
    · exact absurd hfeed (by decide)
    · exact Literal.not_mem_escape (.inl rfl) t hfeed
  · exact absurd hfeed (by decide)

lemma lineFeeds_wrap {t t' : Text} (h : Text.lineFeeds t' = Text.lineFeeds t) (u v : Text) :
    Text.lineFeeds (u ++ t' ++ v) = Text.lineFeeds (u ++ t ++ v) := by
  rw [Text.lineFeeds_append, Text.lineFeeds_append, h, Text.lineFeeds_append, Text.lineFeeds_append]

/-! ### Lines of code -/

/-- Of a text that is read from its end, the part in front of a line feed, with one character more. -/
lemma contains_takeWhile_concat (t : Text) (c : Char) :
    ((t ++ [c]).takeWhile (· ≠ '\n')).contains '#' =
      ((t.takeWhile (· ≠ '\n')).contains '#' || !t.contains '\n' && c = '#') := by
  induction t with
  | nil =>
    by_cases hc : c = '\n'
    · subst hc
      decide
    · simp [hc, eq_comm]
  | cons d t ih =>
    by_cases hd : d = '\n'
    · simp [hd]
    · have hne : ('\n' == d) = false := beq_eq_false_iff_ne.2 (Ne.symm hd)
      rw [List.cons_append, List.takeWhile_cons_of_pos (by simpa using hd),
        List.takeWhile_cons_of_pos (by simpa using hd), List.contains_cons, List.contains_cons, ih,
        List.contains_cons, Bool.or_assoc, hne, Bool.false_or]

lemma mayEndInComment_cons (c : Char) (t : Text) :
    mayEndInComment (c :: t) = (mayEndInComment t || !t.contains '\n' && c = '#') := by
  rw [mayEndInComment, mayEndInComment, List.reverse_cons, contains_takeWhile_concat,
    List.contains_reverse]

lemma mayEndInComment_respell (t : Text) :
    mayEndInComment (respell ['\r', '\n'] t) = mayEndInComment t := by
  induction t with
  | nil => rfl
  | cons c t ih =>
    by_cases hc : c = '\n'
    · subst hc
      rw [Text.respell_feed, List.cons_append, List.singleton_append, mayEndInComment_cons,
        mayEndInComment_cons, mayEndInComment_cons, ih]
      simp
    · have hmem : (respell ['\r', '\n'] t).contains '\n' = t.contains '\n' := by
        rw [Bool.eq_iff_iff, List.contains_iff_mem, List.contains_iff_mem, ← List.count_pos_iff,
          ← List.count_pos_iff, ← Text.lineFeeds, ← Text.lineFeeds, Text.lineFeeds_respell]
      rw [Text.respell_cons hc, mayEndInComment_cons, mayEndInComment_cons, ih, hmem]

lemma forall₂_numbered {R : Text → Text → Prop} {ls ls' : List Text} (h : List.Forall₂ R ls ls')
    (n : Int) : List.Forall₂ (fun l l' => R l.1 l'.1 ∧ l.2 = l'.2) (Generator.numbered n ls)
      (Generator.numbered n ls') := by
  induction h generalizing n with
  | nil => exact .nil
  | cons h _ ih => exact .cons ⟨h, rfl⟩ (ih (n + 1))

/-- With the line feeds kept, code has the same lines. -/
lemma codeRows_respell (t : Text) (n : Int) :
    List.Forall₂ (fun l l' => Text.strip l'.1 = Text.strip l.1 ∧ l.2 = l'.2)
      (codeRows t n) (codeRows (respell ['\r', '\n'] t) n) := by
  have hcut : List.Forall₂ (fun l l' => Text.strip l' = Text.strip l)
      (Text.cutAtLineFeeds t) (Text.cutAtLineFeeds (respell ['\r', '\n'] t)) := by
    refine (Text.cutAtLineFeeds_respell t).imp ?_
    rintro l _ (rfl | rfl)
    · rfl
    · exact Text.strip_append_blank (by decide)
  have hclosed : List.Forall₂ (fun l l' => Text.strip l' = Text.strip l)
      (Text.cutAtLineFeeds (closeComment t))
      (Text.cutAtLineFeeds (closeComment (respell ['\r', '\n'] t))) := by
    unfold closeComment
    rw [mayEndInComment_respell]
    split
    · rw [cutAtLineFeeds_feed, cutAtLineFeeds_feed]
      exact List.rel_append hcut (.cons rfl .nil)
    · exact hcut
  refine List.rel_filter ?_ (forall₂_numbered hclosed n)
  rintro l l' ⟨hstrip, -⟩
  simp [hstrip]

/-- Code on one line stands on the line on which it begins. -/
lemma line_of_codeRows {t : Text} (ht : '\n' ∉ t) {n : Int} {l : Text × Int}
    (hl : l ∈ codeRows t n) : l.2 = n := by
  obtain ⟨hl, hblank⟩ := List.mem_filter.1 hl
  unfold closeComment at hl
  split at hl
  · rw [cutAtLineFeeds_feed, cutAtLineFeeds_single ht] at hl
    rcases List.mem_cons.1 hl with rfl | hl
    · rfl
    -- the line that closes a comment is blank
    · obtain rfl := List.mem_singleton.1 hl
      cases hblank
  · rw [cutAtLineFeeds_single ht] at hl
    obtain rfl := List.mem_singleton.1 hl
    rfl

/-- Blanks around code do not matter. -/
lemma strips_codeRows (t : Text) (n : Int) :
    (codeRows t n).map (fun l => Text.strip l.1) = writtenLines [Text.strip t] := by
  obtain ⟨u, v, hsplit, hu, hv⟩ := Text.exists_blank_append_strip t
  rw [codeRows, Generator.map_filter_numbered, written_closeComment]
  conv_rhs => rw [← writtenLines_between hu hv, ← hsplit, writtenLines, List.flatMap_singleton]

/-! ## The two likenesses -/

/-- A view, and the same view with a carriage return in front of each line feed. -/
def Correspondence.crlf : Correspondence where
  text _ t t' := '\r' ∉ t ∧ t' = respell ['\r', '\n'] t
  line n n' := n = n'
  statement s s' :=
    s'.depth = s.depth ∧ s'.line = s.line ∧ Text.lineFeeds s'.text = Text.lineFeeds s.text
  marker _ m := ⟨m.not_mem_return, (m.respell_text _).symm⟩
  single := by
    rintro n _ d x rfl _
    exact ⟨rfl, rfl, rfl⟩
  literal := by
    rintro mode t _ n _ _ ⟨ht, rfl⟩ rfl trim d
    rw [trimmed_respell (by decide) trim ht, trimmedLine_respell (by decide) trim ht]
    refine literalStatements_respell (by decide) (fun x x' => ⟨rfl, rfl, ?_⟩) _
    rw [lineFeeds_appendLiteral, lineFeeds_appendLiteral]
  blank := by
    rintro mode shown t _ _ ⟨-, rfl⟩
    rw [stripSemicolon_respell (by decide), Text.blank_respell (by decide)]
  shown := by
    rintro mode shown t _ n _ d hmode ⟨-, rfl⟩ rfl
    have hargument : Text.lineFeeds (argument (respell ['\r', '\n'] t)) =
        Text.lineFeeds (argument t) := by
      rw [argument_eq, argument_eq, stripSemicolon_respell (by decide), mayEndInComment_respell,
        Text.lineFeeds_append, Text.lineFeeds_append, Text.lineFeeds_respell]
    refine ⟨rfl, rfl, ?_⟩
    cases mode <;> cases hmode
    · exact lineFeeds_wrap hargument _ _
    · exact lineFeeds_wrap hargument _ _
  code := by
    rintro t _ n _ ⟨-, rfl⟩ rfl
    exact codeRows_respell t _

/-- A view, and the same view with carriage returns for line feeds.  No line of the second is another
than the first, and code has to be written on one line. -/
def Correspondence.cr : Correspondence where
  text mode t t' := '\r' ∉ t ∧ t' = respell ['\r'] t ∧ (mode = .eval → '\n' ∉ Text.strip t)
  line _ n' := n' = 1
  statement s s' := s'.depth = s.depth ∧ (s'.line = 1 ∨ s'.line = 2)
  marker _ m := ⟨m.not_mem_return, (m.respell_text _).symm, fun _ hfeed =>
    m.not_mem_feed (Text.mem_of_mem_strip hfeed)⟩
  single := by
    rintro n _ d x rfl _
    exact ⟨rfl, .inl rfl⟩
  literal := by
    rintro mode t _ _ _ _ ⟨ht, rfl, -⟩ rfl trim d
    rw [trimmed_respell (by decide) trim ht]
    refine literalStatements_respell (by decide) (fun x x' => ⟨rfl, ?_⟩) _
    -- behind a line break that was trimmed, the text is taken to be on the second line
    unfold trimmedLine
    split
    · exact .inr rfl
    · exact .inl rfl
  blank := by
    rintro mode shown t _ _ ⟨-, rfl, -⟩
    rw [stripSemicolon_respell (by decide), Text.blank_respell (by decide)]
  shown := by
    rintro mode shown t _ _ _ d hmode - rfl
    exact ⟨rfl, .inl rfl⟩
  code := by
    rintro t _ n _ ⟨-, rfl, ht⟩ rfl
    have hlines : ∀ l ∈ codeRows (respell ['\r'] t) 1, l.2 = 1 := fun l hl =>
      line_of_codeRows (Text.not_mem_respell t) hl
    have hstrips : List.Forall₂ (fun l' l => Text.strip l'.1 = Text.strip l.1)
        (codeRows (respell ['\r'] t) 1) (codeRows t n) := by
      rw [← List.forall₂_map_right_iff, ← List.forall₂_map_left_iff, List.forall₂_eq_eq_eq,
        strips_codeRows, strips_codeRows, Text.strip_respell (by decide) (ht rfl)]
    exact (((List.forall₂_and_left _ _).2 ⟨hlines, hstrips⟩).imp fun _ _ h => h.symm).flip

lemma value_of_marker {s : Text} {before after : List Token} {t : Token}
    (h : tokens s = before ++ t :: after) {e : Text} {f : Int → Int} {m : Marker} (hm : t.kind = .tag m) :
    t.value = m.text ∧ (t.respell e f).value = m.text := by
  have hvalue : t.value = m.text :=
    value_of_tokens (h ▸ List.mem_append_right _ List.mem_cons_self) hm
  exact ⟨hvalue, by rw [Token.respell, hvalue, m.respell_text]⟩

section

variable {s : Text} (hs : '\r' ∉ s)

include hs

lemma not_mem_return {before after : List Token} {t : Token} (h : tokens s = before ++ t :: after) :
    '\r' ∉ t.value := by
  rw [eq_of_tokens h] at hs
  simp only [List.mem_append, not_or] at hs
  exact hs.2.1

lemma tokens_crlf :
    Correspondence.crlf.Tokens none (tokens s) (tokens (respell ['\r', '\n'] s)) := by
  rw [tokens_respell (f := id) (by decide) (fun n t => by rw [Text.lineFeeds_respell]; rfl) rfl]
  refine Correspondence.tokens_map _ fun before t after h => ?_
  exact ⟨rfl, rfl, fun m hm => value_of_marker h hm, fun _ _ _ => ⟨not_mem_return hs h, rfl⟩⟩

/-- Here no code behind an open marker may stand on several lines. -/
lemma tokens_cr (hcode : ∀ before u t after, tokens s = before ++ u :: t :: after →
      u.opens? = some .eval → t.kind = .text → '\n' ∉ Text.strip t.value) :
    Correspondence.cr.Tokens none (tokens s) (tokens (respell ['\r'] s)) := by
  have hfeeds : ∀ t, Text.lineFeeds (respell ['\r'] t) = 0 := fun t =>
    List.count_eq_zero.2 (Text.not_mem_respell t)
  rw [tokens_respell (f := fun _ => 1) (by decide) (fun n t => by rw [hfeeds]; rfl) rfl]
  refine Correspondence.tokens_map _ fun before t after h => ?_
  refine ⟨rfl, rfl, fun m hm => value_of_marker h hm, fun hkind mode hmode =>
    ⟨not_mem_return hs h, rfl, ?_⟩⟩
  rintro rfl
  rcases hmode with (hinert | hinert) | hprev
  · cases hinert
  · cases hinert
  rw [Option.or_none] at hprev
  obtain ⟨u, hu, hopens⟩ := Option.bind_eq_some_iff.1 hprev
  obtain ⟨front, rfl⟩ := List.getLast?_eq_some_iff.1 hu
  exact hcode front u t after (by rw [h, List.append_assoc]; rfl) hopens hkind

end

/-! ## What is generated -/

/-- Errors about two views that have the same kind, message, tag and code: only the views, the lines and
what was generated up to there differ. -/
inductive ViewError.Alike (line : Int → Int → Prop) : ViewError → ViewError → Prop
  | unmatchedTag {n n'} (hn : line n n') (tag : Text) (name s s' : Option Text) :
      Alike line (.unmatchedTag tag { line := some n, name, source := s })
        (.unmatchedTag tag { line := some n', name, source := s' })
  | uncompilable {n n'} (hn : line n n') (message : Text) (name s s' out out' : Option Text)
      (code : ErrorCode) :
      Alike line (.uncompilable message { line := some n, name, source := s } out code)
        (.uncompilable message { line := some n', name, source := s' } out' code)

lemma Correspondence.Faults.alike {C : Correspondence} {h h' : Halt} (hfaults : C.Faults h h')
    (name s s' : Option Text) :
    (h.fault.toError name s).Alike C.line (h'.fault.toError name s') := by
  cases hfaults with
  | unmatchedTag hn => exact .unmatchedTag hn ..
  | noExpression hn => exact .uncompilable hn ..
  | unexpectedEnd hn => exact .uncompilable hn ..

/-- The line on which the statement with index `i` starts, as those count who read the code. -/
def Listing.startLine (l : Listing) (i : Nat) : Int :=
  Text.lineBreaks ((l.statements.take i).flatMap Statement.code) + 1

namespace Generator

/-- What is generated for corresponding tokens: the same error, or corresponding statements. -/
lemma generate_outcomes {C : Correspondence} {s s' : Text}
    (h : C.Tokens none (tokens s) (tokens s')) (name : Option Text) :
    (∃ e e', generate s name = .error e ∧ generate s' name = .error e' ∧ e.Alike C.line e') ∨
      ∃ g g', run {} (tokens s) = .ok g ∧ run {} (tokens s') = .ok g' ∧
        generate s name = .ok (g.listing.toGenerated name s) ∧
        generate s' name = .ok (g'.listing.toGenerated name s') ∧
        List.Forall₂ C.statement g.listing.statements g'.listing.statements := by
  have hbegin : C.States [] ({} : Generator) {} := ⟨⟨[], rfl, .nil⟩, rfl, rfl, rfl, rfl⟩
  have houtcomes := Correspondence.run h hbegin (.outside (.inl rfl) rfl)
  unfold generate
  generalize run {} (tokens s) = r, run {} (tokens s') = r' at houtcomes
  cases houtcomes with
  | ok hstates =>
    obtain ⟨ss, hss, hforall⟩ := hstates.statements
    rw [List.nil_append] at hss
    exact .inr ⟨_, _, rfl, rfl, rfl, rfl, hss ▸ hforall⟩
  | error hstate hfault => exact .inl ⟨_, _, rfl, rfl, hfault.alike ..⟩

lemma allPaired_of_run {source : Text} (hsource : Text.Paired source) {g : Generator}
    (h : run {} (tokens source) = .ok g) : AllPaired g.listing.statements :=
  steps_all (run_eq_ok_iff.1 h).2 (List.forall_mem_nil _)
    fun _ _ _ _ _ hsplit hadded => hadded.allPaired hsource hsplit

lemma lineMap_crlf {ss ss' : List Statement} (h : List.Forall₂ Correspondence.crlf.statement ss ss') :
    ss'.flatMap Statement.lineMap = ss.flatMap Statement.lineMap := by
  induction h with
  | nil => rfl
  | cons h _ ih =>
    obtain ⟨-, hline, hfeeds⟩ := h
    rw [List.flatMap_cons, List.flatMap_cons, ih, Statement.lineMap, Statement.lineMap, hline, hfeeds]

/-- The statements start on the same lines of the code, and come from the same lines of the view. -/
lemma starts_crlf {l l' : Listing} (hl : AllPaired l.statements) (hl' : AllPaired l'.statements)
    (h : List.Forall₂ Correspondence.crlf.statement l.statements l'.statements) {i : Nat}
    (hi : i < l.statements.length) (name s s' : Option Text) :
    l'.startLine i = l.startLine i ∧
      (l.toGenerated name s).templateLine (l.startLine i) = some l.statements[i].line ∧
      (l'.toGenerated name s').templateLine (l'.startLine i) = some l.statements[i].line := by
  have hfront : ∀ {ss : List Statement}, AllPaired ss → AllPaired (ss.take i) := fun h s hs =>
    h s (List.mem_of_mem_take hs)
  have hstart : l'.startLine i = l.startLine i := by
    rw [Listing.startLine, Listing.startLine, lineBreaks_flatMap_code (hfront hl'),
      lineBreaks_flatMap_code (hfront hl), lineMap_crlf (List.forall₂_take i h)]
  have hlines : (l'.toGenerated name s').templateLine = (l.toGenerated name s).templateLine := by
    funext n
    rw [Generated.templateLine, Generated.templateLine]
    exact congrArg (fun lines : List Int => if 0 < n then lines[(n - 1).toNat]? else none)
      (lineMap_crlf h)
  have hfirst : (l.toGenerated name s).templateLine (l.startLine i) = some l.statements[i].line := by
    have hsplit : l.statements = l.statements.take i ++ l.statements[i] :: l.statements.drop (i + 1) := by
      rw [← List.drop_eq_getElem_cons hi, List.take_append_drop]
    rw [← Listing.getElem_lineMap hl hsplit (Nat.zero_le _), Generated.templateLine, if_pos]
    · congr 1
      rw [Listing.startLine]
      omega
    · rw [Listing.startLine]
      omega
  exact ⟨hstart, hfirst, by rw [hlines, hstart, hfirst]⟩

lemma lines_cr {ss ss' : List Statement} (h : List.Forall₂ Correspondence.cr.statement ss ss') :
    ∀ s ∈ ss', s.line = 1 ∨ s.line = 2 := by
  induction h with
  | nil => exact List.forall_mem_nil _
  | cons h _ ih => exact List.forall_mem_cons.2 ⟨h.2, ih⟩

/-- **The line ends of a view matter to its lines only, and only if they have no line feeds.**  Take a
view without carriage returns, and the view with a carriage return put in front of each line feed.
Either both have the same error on the same line, or code is generated for both.  Then both codes have
as many statements, which start on the same lines of the code, and the same line map, which leads from
there to the lines of the statements.

Take the view with carriage returns in place of its line feeds, and let the code of each tag stand on
one line, if blanks at its ends are left out.  Then both have the same error, which is on the first line
here, or code of as many statements is generated for both.  Here all lines of the code come from the
first line of the view, or from the second, behind a line break that was trimmed. -/
theorem generate_respell {s : Text} (hs : '\r' ∉ s) (name : Option Text) :
    let paired := respell ['\r', '\n'] s
    let bare := respell ['\r'] s
    ((∃ e e', generate s name = .error e ∧ generate paired name = .error e' ∧ e.Alike Eq e') ∨
      ∃ g g', run {} (tokens s) = .ok g ∧ run {} (tokens paired) = .ok g' ∧
        generate s name = .ok (g.listing.toGenerated name s) ∧
        generate paired name = .ok (g'.listing.toGenerated name paired) ∧
        g'.listing.lineMap = g.listing.lineMap ∧
        g'.listing.statements.length = g.listing.statements.length ∧
        ∀ i (hi : i < g.listing.statements.length),
          g'.listing.startLine i = g.listing.startLine i ∧
          (g.listing.toGenerated name s).templateLine (g.listing.startLine i) =
            some g.listing.statements[i].line ∧
          (g'.listing.toGenerated name paired).templateLine (g'.listing.startLine i) =
            some g.listing.statements[i].line) ∧
    ((∀ before u t after, tokens s = before ++ u :: t :: after →
        u.opens? = some .eval → t.kind = .text → '\n' ∉ Text.strip t.value) →
      (∃ e e', generate s name = .error e ∧ generate bare name = .error e' ∧
        e.Alike (fun _ n => n = 1) e') ∨
      ∃ g g', run {} (tokens s) = .ok g ∧ run {} (tokens bare) = .ok g' ∧
        generate s name = .ok (g.listing.toGenerated name s) ∧
        generate bare name = .ok (g'.listing.toGenerated name bare) ∧
        g'.listing.statements.length = g.listing.statements.length ∧
        ∀ n ∈ g'.listing.lineMap, n = 1 ∨ n = 2) := by
  intro paired bare
  refine ⟨?_, fun hcode => ?_⟩
  · rcases generate_outcomes (tokens_crlf hs) name with ⟨e, e', he, he', halike⟩ | hok
    · exact .inl ⟨e, e', he, he', halike⟩
    · obtain ⟨g, g', hg, hg', hcode, hcode', hforall⟩ := hok
      have hall : AllPaired g.listing.statements :=
        allPaired_of_run (Text.paired_of_not_mem hs) hg
      have hall' : AllPaired g'.listing.statements := allPaired_of_run (Text.paired_respell hs) hg'
      exact .inr ⟨g, g', hg, hg', hcode, hcode', lineMap_crlf hforall, hforall.length_eq.symm,
        fun i hi => starts_crlf hall hall' hforall hi name s paired⟩
  · rcases generate_outcomes (tokens_cr hs hcode) name with ⟨e, e', he, he', halike⟩ | hok
    · exact .inl ⟨e, e', he, he', halike⟩
    · obtain ⟨g, g', hg, hg', hcode, hcode', hforall⟩ := hok
      refine .inr ⟨g, g', hg, hg', hcode, hcode', hforall.length_eq.symm, fun n hn => ?_⟩
      obtain ⟨x', hx', hn⟩ := List.mem_flatMap.1 hn
      obtain rfl := List.eq_of_mem_replicate hn
      exact lines_cr hforall x' hx'

/-- A view with a line break that is trimmed, one in text and one in an expression. -/
theorem generate_respell_breaks :
    let s : Text := "<% x = 1 -%>\na\n<%=\n y %>"
    '\r' ∉ s ∧
      (∃ code, generate (respell ['\r', '\n'] s) none =
        .ok { code, lineMap := [1, 2, 3, 3], source := some (respell ['\r', '\n'] s) }) ∧
      (∀ before u t after, tokens s = before ++ u :: t :: after →
        u.opens? = some .eval → t.kind = .text → '\n' ∉ Text.strip t.value) ∧
      ∃ code, generate (respell ['\r'] s) none = .ok code ∧ ∀ n ∈ code.lineMap, n = 1 ∨ n = 2 := by
  intro s
  have hs : '\r' ∉ s := by decide +kernel
  have hgenerate : generate s none = .ok {
      code := "x = 1\n_append(\"a\\n\")\n_append(escape(\n y ))\n", lineMap := [1, 2, 3, 3]
      source := some s } := by
    decide +kernel
  have hlines : ∀ t ∈ tokens s, t.kind = .text → '\n' ∉ Text.strip t.value := by decide +kernel
  have hcode : ∀ before u t after, tokens s = before ++ u :: t :: after →
      u.opens? = some .eval → t.kind = .text → '\n' ∉ Text.strip t.value :=
    fun before u t after hsplit _ => hlines t (by simp [hsplit])
  obtain ⟨hpaired, hbare⟩ := generate_respell hs none
  refine ⟨hs, ?_, hcode, ?_⟩
  · rcases hpaired with ⟨e, e', he, -, -⟩ | ⟨g, g', -, -, hcode, hcode', hmap, -, -⟩
    · rw [hgenerate] at he
      cases he
    · have hlisting : g.listing.lineMap = [1, 2, 3, 3] :=
        congrArg Generated.lineMap (Except.ok.inj (hcode.symm.trans hgenerate))
      refine ⟨g'.listing.code, hcode'.trans ?_⟩
      rw [Listing.toGenerated, hmap, hlisting]
  · rcases hbare hcode with ⟨e, e', he, -, -⟩ | ⟨-, g', -, -, -, hcode', -, hmap⟩
    · rw [hgenerate] at he
      cases he
    · exact ⟨_, hcode', hmap⟩

/-- Behind a tag that trims, a carriage return is a line break for the text there, but not for the tag
behind the text: the same code stands on lines 1, 2 and 2 with a line feed, and on lines 1, 2 and 1 with
a carriage return.  In a code tag it does not end a line, so that an `end` behind it is not seen. -/
theorem lone_return_miscounted :
    (let s : Text := "<% x = 1 -%>\na<%= y %>"
    let bare : Text := "<% x = 1 -%>\ra<%= y %>"
    let code : Text := "x = 1\n_append(\"a\")\n_append(escape( y ))\n"
    '\r' ∉ s ∧ respell ['\r'] s = bare ∧
      generate s none = .ok { code, lineMap := [1, 2, 2], source := some s } ∧
      generate bare none = .ok { code, lineMap := [1, 2, 1], source := some bare } ∧
      Generated.templateLine { code, lineMap := [1, 2, 2] } 3 = some 2 ∧
      Generated.templateLine { code, lineMap := [1, 2, 1] } 3 = some 1) ∧
    let s : Text := "<% x\nend %>"
    let bare : Text := "<% x\rend %>"
    respell ['\r'] s = bare ∧
      generate s none = .error (.uncompilable "'end' without an open block"
        { line := some 2, source := some s } (some "x\n") .unexpectedEnd) ∧
      generate bare none =
        .ok { code := "x\rend\n", lineMap := [1], source := some bare } := by
  decide +kernel

end Generator

end ViewEngine

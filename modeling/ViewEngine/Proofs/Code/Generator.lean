/-
# What the generator makes of a tag

Pieces of a view are described by the statements that they add, and by how they change the depth and
the trimming of the next text, whatever stands in front of them and behind them.

* `Emits.append`: pieces behind each other add their statements one after the other;
* `emits_text`, `emits_escaped`, `emits_raw`, `emits_comment`: pieces that keep the depth;
* `emits_header`, `emits_clause`, `emits_end`: the lines of code that open and close blocks.
-/
import Mathlib.Tactic.Common
import Mathlib.Tactic.Lemma
import ViewEngine.Code.Generator
import ViewEngine.Proofs.Code.Literal
import ViewEngine.Proofs.Markup.Pieces
import ViewEngine.Proofs.Markup.Tokens

namespace ViewEngine

/-! ## Blanks at the ends of code -/

lemma isBlank_of_isCodeChar {c : Char} (h : isCodeChar c = true) (hc : c ≠ ' ') :
    Text.isBlank c = false := by
  simp only [isCodeChar, Bool.or_eq_true, decide_eq_true_eq] at h
  rcases h with ((h | rfl) | rfl) | rfl
  -- letters and digits lie between the control characters and the blanks above ASCII
  · obtain ⟨hlow, hhigh⟩ := toNat_of_isAlphanum h
    have hwide : Text.wideBlankRanges.has c = false := by
      simp only [Text.Ranges.has, Text.wideBlankRanges, List.any_cons, List.any_nil,
        Bool.or_false, Bool.or_eq_false_iff, Bool.and_eq_false_iff, decide_eq_false_iff_not]
      omega
    simp only [Text.isBlank, hwide, hc, decide_false, Bool.or_false, Bool.false_or,
      Bool.and_eq_false_iff, decide_eq_false_iff_not]
    omega
  · rfl
  · exact absurd rfl hc
  · rfl

namespace Text

lemma stripRight_last {c : Char} (hc : isBlank c = false) {v : Text} (hv : blank v = true)
    (u : Text) : stripRight (u ++ c :: v) = u ++ [c] := by
  induction u with
  | nil =>
    rw [List.nil_append, stripRight, stripRight_eq_nil_iff.2 hv]
    simp [hc]
  | cons d u ih =>
    rw [List.cons_append, stripRight, ih]
    cases u <;> rfl

/-- The blanks around a text that does not begin or end in one. -/
lemma strip_spaced {c d : Char} {t u v : Text} (hfront : t = c :: u) (hlast : t = v ++ [d])
    (hc : isBlank c = false) (hd : isBlank d = false) : strip (spaced t) = t := by
  have hleft : stripLeft (spaced t) = t ++ [' '] := by
    have hspace : isBlank ' ' = true := rfl
    rw [stripLeft, spaced, List.dropWhile_cons, if_pos hspace, hfront, List.cons_append,
      List.dropWhile_cons, hc]
    rfl
  rw [strip, hleft]
  have hright := stripRight_last hd (v := [' ']) rfl v
  rw [hlast, List.append_assoc]
  exact hright

end Text

lemma cutAtLineFeeds_single {t : Text} (h : '\n' ∉ t) : Text.cutAtLineFeeds t = [t] := by
  induction t with
  | nil => rfl
  | cons c t ih =>
    have hc : c ≠ '\n' := fun hc => h (hc ▸ List.mem_cons_self)
    rw [Text.cutAtLineFeeds, if_neg hc, ih fun hmem => h (List.mem_cons_of_mem c hmem)]

lemma closeComment_of_not_mem {t : Text} (h : '#' ∉ t) : closeComment t = t := by
  have hlast : mayEndInComment t = false := by
    rw [mayEndInComment, ← Bool.not_eq_true, List.contains_iff_mem]
    intro hmem
    exact h (List.mem_reverse.1 ((List.takeWhile_sublist _).subset hmem))
  rw [closeComment, hlast]
  rfl

lemma stripSemicolon_of_not_mem {t : Text} (h : ';' ∉ t) : stripSemicolon t = t := by
  unfold stripSemicolon
  split
  · rename_i front hfront
    have hmem : ';' ∈ t.reverse.dropWhile Text.isBlank := by rw [hfront]; simp
    exact absurd (List.mem_reverse.1 ((List.dropWhile_sublist _).subset hmem)) h
  · rfl

lemma not_mem_spaced {t : Text} (h : ∀ c ∈ t, isCodeChar c = true) {d : Char}
    (hd : isCodeChar d = false) : d ∉ spaced t :=
  fun hmem => ne_of_isCodeChar (isCodeChar_of_mem_spaced h d hmem) hd rfl

/-! ## Marks in lines -/

/-- The characters at which a mark begins. -/
def markChars : List Char := ['#', '(', '[', '{', ')', ']', '}', '\'', '"', '\n']

lemma mark?_eq_none {c : Char} (cs : Text) (hc : c ∉ markChars) :
    Brackets.mark? (c :: cs) = none := by
  simp only [markChars, List.mem_cons, List.not_mem_nil, or_false, not_or] at hc
  obtain ⟨h₀, h₁, h₂, h₃, h₄, h₅, h₆, h₇, h₈, h₉⟩ := hc
  simp [Brackets.mark?, h₀, h₁, h₂, h₃, h₄, h₅, h₆, h₇, h₈, h₉]

lemma pieces_comment {cs : Text} (hfeed : '\n' ∉ cs) (hreturn : '\r' ∉ cs) :
    Text.pieces Brackets.mark? ('#' :: cs) = [.found .comment ('#' :: cs)] := by
  have hall : cs.takeWhile (fun d => d ≠ '\r' ∧ d ≠ '\n') = cs := by
    induction cs with
    | nil => rfl
    | cons d cs ih =>
      rw [List.mem_cons, not_or] at hfeed hreturn
      rw [List.takeWhile_cons, if_pos (by simp [Ne.symm hfeed.1, Ne.symm hreturn.1]),
        ih hfeed.2 hreturn.2]
  have hfound : Brackets.mark? ('#' :: cs ++ []) = some (.comment, ('#' :: cs).length) := by
    rw [List.append_nil, Brackets.mark?, if_pos rfl, hall]
    rfl
  have := Text.pieces_found (List.cons_ne_nil '#' cs) hfound
  rwa [List.append_nil] at this

/-- A line that begins with a character of code is looked at. -/
lemma scan_of_first {c : Char} {cs : Text} (hc : Text.isBlank c = false) (hmark : c ≠ '#') :
    Brackets.scan (c :: cs) [] =
      { code := (Brackets.beforeComment? [] (Text.pieces Brackets.mark? (c :: cs))).getD (c :: cs)
        pending := ((Text.pieces Brackets.mark? (c :: cs)).filterMap Text.Piece.held?).foldl
          Brackets.step [] } := by
  have hspace : c ≠ ' ' := by rintro rfl; cases hc
  have htab : c ≠ '\t' := by rintro rfl; cases hc
  have hfeed : c ≠ '\x0c' := by rintro rfl; cases hc
  have hreturn : c ≠ '\r' := by rintro rfl; cases hc
  have hblanks : Brackets.indentation (c :: cs) = [] := by
    simp [Brackets.indentation, hspace, htab, hfeed]
  unfold Brackets.scan
  simp only [hblanks, List.length_nil, List.drop_zero, List.head?_cons, Option.some.injEq, hmark,
    hreturn, decide_false, Bool.and_false, Bool.false_eq_true, if_false]
  refine congrArg (Brackets.Scan.mk _) (congrArg (List.foldl Brackets.step []) ?_)
  refine congrArg (fun f => List.filterMap f _) (funext fun p => ?_)
  cases p <;> rfl

/-- A line is the code in front of its comment, if no mark begins in the code. -/
lemma scan_commented {c : Char} {code comment : Text} (hc : Text.isBlank c = false)
    (hcode : ∀ d ∈ c :: code, d ∉ markChars)
    (hcomment : comment = [] ∨ ∃ cs, comment = '#' :: cs ∧ '\n' ∉ cs ∧ '\r' ∉ cs) :
    Brackets.scan (c :: (code ++ comment)) [] = ⟨c :: code, []⟩ := by
  have hsuffix : ∀ s v, s <:+ c :: code → s ≠ [] → Brackets.mark? (s ++ v) = none := by
    intro s v hs hne
    obtain ⟨d, s, rfl⟩ := List.exists_cons_of_ne_nil hne
    exact mark?_eq_none (s ++ v) (hcode d (hs.subset List.mem_cons_self))
  have hmark : c ≠ '#' := fun h => hcode c List.mem_cons_self (by simp [markChars, h])
  rw [scan_of_first hc hmark]
  rcases hcomment with rfl | ⟨cs, rfl, hfeed, hreturn⟩
  · have hfree : Text.Matcher.Free Brackets.mark? (c :: code) := by
      intro s hs
      cases s with
      | nil => rfl
      | cons d s => simpa using hsuffix (d :: s) [] hs (List.cons_ne_nil d s)
    rw [List.append_nil, Text.pieces_of_free hfree (List.cons_ne_nil c code)]
    rfl
  · have hpieces : Text.pieces Brackets.mark? (c :: code ++ '#' :: cs) =
        [.plain (c :: code), .found .comment ('#' :: cs)] := by
      rw [← pieces_comment hfeed hreturn]
      refine Text.pieces_plain_append (List.cons_ne_nil c code) (fun s hs => hsuffix s _ hs) ?_
      intro t ps heq
      rw [pieces_comment hfeed hreturn] at heq
      cases heq
    rw [List.cons_append] at hpieces
    rw [hpieces]
    rfl

/-! ## Lines that open blocks -/

/-- A line of code that opens a block. -/
structure IsHeader (h : Text) : Prop where
  code : ∀ c ∈ h, isCodeChar c = true
  front : ∃ c cs, h = c :: cs ∧ c ≠ ' '
  last : ∃ front, h = front ++ [':']
  not_end : isEndLine h = false

namespace IsHeader

variable {h : Text}

lemma strip_spaced (hh : IsHeader h) : Text.strip (spaced h) = h := by
  obtain ⟨c, cs, hfront, hc⟩ := hh.front
  obtain ⟨front, hlast⟩ := hh.last
  have hcode : isCodeChar c = true := hh.code c (by rw [hfront]; exact List.mem_cons_self)
  exact Text.strip_spaced hfront hlast (isBlank_of_isCodeChar hcode hc) rfl

lemma opensBlock (hh : IsHeader h) : opensBlock h = true := by
  obtain ⟨front, rfl⟩ := hh.last
  rw [ViewEngine.opensBlock, Text.stripRight_last (c := ':') rfl (v := []) rfl]
  simp

/-- Nothing in the line is a bracket, a quote or a comment. -/
lemma scan (hh : IsHeader h) : Brackets.scan h [] = ⟨h, []⟩ := by
  have hmark : markChars.all (fun d => !isCodeChar d) = true := rfl
  obtain ⟨c, cs, rfl, hspace⟩ := hh.front
  have hc := isBlank_of_isCodeChar (hh.code c List.mem_cons_self) hspace
  have hcode : ∀ d ∈ c :: cs, d ∉ markChars := by
    intro d hd hmem
    have hd' := List.all_eq_true.1 hmark d hmem
    rw [hh.code d hd] at hd'
    cases hd'
  have hall := scan_commented hc hcode (.inl rfl)
  rwa [List.append_nil] at hall

end IsHeader

/-! ## Expressions -/

/-- An expression that may be shown: it is not blank, and nothing in it is a comment, a semicolon or a
part of a marker. -/
structure IsExpression (e : Text) : Prop where
  no_comment : '#' ∉ e
  no_semicolon : ';' ∉ e
  no_percent : '%' ∉ e
  not_blank : ∃ c ∈ e, Text.isBlank c = false

namespace IsExpression

variable {e : Text}

lemma closeComment (h : IsExpression e) : closeComment (spaced e) = spaced e :=
  closeComment_of_not_mem (by simp [spaced, h.no_comment])

lemma stripSemicolon (h : IsExpression e) : stripSemicolon (spaced e) = spaced e :=
  stripSemicolon_of_not_mem (by simp [spaced, h.no_semicolon])

lemma spaced_not_blank (h : IsExpression e) : Text.blank (spaced e) = false := by
  obtain ⟨c, hc, hblank⟩ := h.not_blank
  rw [← Bool.not_eq_true, Text.blank, List.all_eq_true]
  intro hall
  rw [hall c (by simp [spaced, hc])] at hblank
  cases hblank

end IsExpression

/-! ## Statements that pieces add -/

/-- A line of code at a depth. -/
def row (depth : Nat) (t : Text) : Text := List.replicate (4 * depth) ' ' ++ t ++ ['\n']

/-- A line that opens a block at a depth, and the first line of the block. -/
def headerStatements (depth : Nat) (h : Text) (line : Int) : List Statement :=
  [⟨depth, h, line⟩, ⟨depth + 1, "pass", line⟩]

/-- What remains of a text whose first line break may be trimmed. -/
def trimmed (trim : Bool) (t : Text) : Text :=
  if trim then (Text.afterLineBreak? t).getD t else t

/-- The line on which the rest of a text begins whose first line break may be trimmed. -/
def trimmedLine (trim : Bool) (t : Text) (line : Int) : Int :=
  if trim && (Text.afterLineBreak? t).isSome then line + 1 else line

/-- The statement that appends a text, if there is any. -/
def literalStatements (depth : Nat) (t : Text) (line : Int) : List Statement :=
  if t.isEmpty then [] else [⟨depth, appendLiteral t, line⟩]

/-- The part of the view that pieces are. -/
def piecesText (ps : List (Text.Piece Marker)) : Text := ps.flatMap Text.Piece.text

lemma piecesText_append (ps qs : List (Text.Piece Marker)) :
    piecesText (ps ++ qs) = piecesText ps ++ piecesText qs :=
  List.flatMap_append

lemma piecesText_plain (t : Text) : piecesText [.plain t] = t := List.append_nil t

lemma piecesText_tagPieces (m closer : Marker) (t : Text) :
    piecesText (tagPieces m closer t) = m.text ++ (t ++ closer.text) := by
  show m.text ++ (t ++ (closer.text ++ [])) = _
  rw [List.append_nil]

namespace Generator

/-- From a line of the view on, and in front of others, the pieces add the statements; the depth
changes from `d` to `d'`, and whether the next text is trimmed from `b` to `b'`. -/
def Emits (ps : List (Text.Piece Marker)) (line : Int) (b b' : Bool) (d d' : Nat)
    (ss : List Statement) : Prop :=
  ∀ done rest,
    run { listing := ⟨done, d⟩, trim := b } (Token.ofPieces line (ps ++ rest)) =
      run { listing := ⟨done ++ ss, d'⟩, trim := b' }
        (Token.ofPieces (line + Text.lineFeeds (piecesText ps)) rest)

variable {ps qs : List (Text.Piece Marker)} {line : Int} {b b' b'' : Bool} {d d' d'' : Nat}
  {ss ss' : List Statement}

lemma Emits.nil : Emits [] line b b d d [] := by
  intro done rest
  have hline : line + Text.lineFeeds (piecesText []) = line := Int.add_zero line
  rw [hline, List.append_nil]
  rfl

/-- Pieces behind each other. -/
theorem Emits.append (h : Emits ps line b b' d d' ss)
    (h' : Emits qs (line + Text.lineFeeds (piecesText ps)) b' b'' d' d'' ss') :
    Emits (ps ++ qs) line b b'' d d'' (ss ++ ss') := by
  intro done rest
  have hlines : line + Text.lineFeeds (piecesText (ps ++ qs)) =
      line + Text.lineFeeds (piecesText ps) + Text.lineFeeds (piecesText qs) := by
    rw [piecesText_append, Text.lineFeeds_append]
    omega
  rw [List.append_assoc, h done (qs ++ rest), h' (done ++ ss) rest, List.append_assoc, hlines]

lemma run_token {g g' : Generator} {t : Token} {ts : List Token} (hclose : needsClose t = false)
    (h : g.token t = .ok g') : run g (t :: ts) = run g' ts := by
  rw [run, hclose, h]
  rfl

/-- A run of text. -/
lemma emits_text {t : Text} :
    Emits [.plain t] line b false d d
      (literalStatements d (trimmed b t) (trimmedLine b t line)) := by
  intro done rest
  have htoken : token { listing := ⟨done, d⟩, trim := b } ⟨.text, t, line⟩ =
      .ok { listing := ⟨done ++ literalStatements d (trimmed b t) (trimmedLine b t line), d⟩ } := by
    show Except.ok (output _ t line) = _
    refine congrArg Except.ok ?_
    unfold output literalStatements trimmed trimmedLine
    cases b with
    | false =>
      simp only [Bool.false_eq_true, if_false, Bool.false_and]
      split
      · rw [List.append_nil]
      · rfl
    | true =>
      cases Text.afterLineBreak? t with
      | none =>
        simp only [if_true, Option.getD_none, Option.isSome_none, Bool.and_false,
          Bool.false_eq_true, if_false]
        split
        · rw [List.append_nil]
        · rfl
      | some r =>
        simp only [if_true, Option.getD_some, Option.isSome_some, Bool.and_true]
        split
        · rw [List.append_nil]
        · rfl
  rw [piecesText_plain]
  exact run_token rfl htoken

/-- What a tag adds is what its inside adds in the mode of its marker. -/
lemma emits_tag {m closer : Marker} (mode : Mode) (hm : m.mode? = some mode)
    (hliteral : mode ≠ .literal) (hclose : closer.isClose = true) {inside : Text}
    (h : ∀ done, text { listing := ⟨done, d⟩, mode, trim := b } inside line =
      .ok { listing := ⟨done ++ ss, d'⟩, mode, trim := b }) :
    Emits (tagPieces m closer inside) line b (decide (closer ≠ .close)) d d' ss := by
  intro done rest
  have hne : m ≠ .openLiteral := by
    rintro rfl
    cases hm
    exact hliteral rfl
  -- no marker holds a line feed, so only the inside counts
  have hopenLine : line + (Text.lineFeeds m.text : Nat) = line := by
    rw [Marker.lineFeeds_text]
    exact Int.add_zero line
  have hlines : line + Text.lineFeeds (piecesText (tagPieces m closer inside)) =
      line + Text.lineFeeds inside := by
    rw [piecesText_tagPieces, Text.lineFeeds_append, Text.lineFeeds_append, Marker.lineFeeds_text,
      Marker.lineFeeds_text, Nat.zero_add, Nat.add_zero]
  have hcloseLine : line + (Text.lineFeeds inside : Nat) + (Text.lineFeeds closer.text : Nat) =
      line + Text.lineFeeds inside := by
    rw [Marker.lineFeeds_text]
    exact Int.add_zero _
  -- the three tokens of the tag: its opening, its inside, its closing
  have hopen : token { listing := ⟨done, d⟩, trim := b } ⟨.tag m, m.text, line⟩ =
      .ok { listing := ⟨done, d⟩, mode, trim := b } := by
    simp only [token, marker, hm, hne, if_false]
  have hinside : token { listing := ⟨done, d⟩, mode, trim := b } ⟨.text, inside, line⟩ =
      .ok { listing := ⟨done ++ ss, d'⟩, mode, trim := b } := h done
  have hclosing : token { listing := ⟨done ++ ss, d'⟩, mode, trim := b }
      ⟨.tag closer, closer.text, line + Text.lineFeeds inside⟩ =
      .ok { listing := ⟨done ++ ss, d'⟩, trim := decide (closer ≠ .close) } := by
    have hmode : closer.mode? = none := by cases closer <;> first | rfl | cases hclose
    have hkind : closer ≠ .closeLiteral := by rintro rfl; cases hclose
    simp only [token, marker, hmode, hkind, hliteral, if_false]
  -- the closing stands two tokens behind the opening, so that the tag is not unclosed
  have hpresent : ∀ ts : List Token, (needsClose ⟨.tag m, m.text, line⟩ &&
      !closesSecond (⟨.text, inside, line⟩ ::
        ⟨.tag closer, closer.text, line + Text.lineFeeds inside⟩ :: ts)) = false := by
    intro ts
    have hcloses : closesSecond (⟨.text, inside, line⟩ ::
        ⟨.tag closer, closer.text, line + Text.lineFeeds inside⟩ :: ts) = true := hclose
    rw [hcloses, Bool.not_true, Bool.and_false]
  have hunclosed : needsClose ⟨.tag closer, closer.text, line + Text.lineFeeds inside⟩ = false := by
    cases closer <;> first | rfl | cases hclose
  rw [hlines]
  show run _ (⟨.tag m, m.text, line⟩ ::
    Token.ofPieces (line + (Text.lineFeeds m.text : Nat))
      (.plain inside :: .found closer closer.text :: rest)) = _
  rw [hopenLine]
  show run _ (⟨.tag m, m.text, line⟩ :: ⟨.text, inside, line⟩ ::
    ⟨.tag closer, closer.text, line + Text.lineFeeds inside⟩ ::
    Token.ofPieces (line + (Text.lineFeeds inside : Nat) + (Text.lineFeeds closer.text : Nat))
      rest) = _
  rw [hcloseLine, run, hpresent, hopen]
  show run { listing := ⟨done, d⟩, mode, trim := b } _ = _
  rw [run_token rfl hinside, run_token hunclosed hclosing]

/-! ### Outputs and comments -/

section

variable {closer : Marker} (hclose : closer.isClose = true)

include hclose

/-- The value of an expression, escaped. -/
lemma emits_escaped {e : Text} (he : IsExpression e) :
    Emits (tagPieces .openEscaped closer (spaced e)) line b (decide (closer ≠ .close)) d d
      [⟨d, appendEscaped (spaced e), line⟩] := by
  refine emits_tag .escaped rfl (by decide) hclose fun done => ?_
  simp only [text, he.closeComment, he.stripSemicolon, he.spaced_not_blank, Bool.false_eq_true,
    if_false]
  rfl

/-- The value of an expression as it is. -/
lemma emits_raw {e : Text} (he : IsExpression e) :
    Emits (tagPieces .openRaw closer (spaced e)) line b (decide (closer ≠ .close)) d d
      [⟨d, appendRaw (spaced e), line⟩] := by
  refine emits_tag .raw rfl (by decide) hclose fun done => ?_
  simp only [text, he.closeComment, he.stripSemicolon, he.spaced_not_blank, Bool.false_eq_true,
    if_false]
  rfl

/-- A comment. -/
lemma emits_comment {t : Text} :
    Emits (tagPieces .openComment closer t) line b (decide (closer ≠ .close)) d d [] := by
  refine emits_tag .comment rfl (by decide) hclose fun done => ?_
  rw [List.append_nil]
  rfl

/-! ### Blocks -/

omit hclose

lemma addCode_header {h : Text} (hh : IsHeader h) {l : Listing} {mode : Mode} :
    addCode { listing := l, mode, trim := b } h line =
      { listing := (l.add h line).indent.add "pass" line, mode, trim := b } := by
  unfold addCode
  simp only [emit, hh.scan, List.isEmpty_nil, hh.opensBlock, Bool.and_self, if_true]

lemma text_code {h : Text} (hh : IsHeader h) {l : Listing} :
    text { listing := l, mode := .eval, trim := b } (spaced h) line =
      if isClauseLine h = true then
        ((closeBlock { listing := l, mode := .eval, trim := b } line).bind fun g =>
          .ok (g.addCode h line))
      else .ok (addCode { listing := l, mode := .eval, trim := b } h line) := by
  have hne : h.isEmpty = false := by
    obtain ⟨c, cs, rfl, -⟩ := hh.front
    rfl
  simp only [text, closeComment_of_not_mem (not_mem_spaced hh.code (d := '#') rfl),
    cutAtLineFeeds_single (not_mem_spaced hh.code (d := '\n') rfl), codeLines, codeLine,
    hh.strip_spaced, hne, hh.not_end, List.isEmpty_nil, Bool.not_true, Bool.false_eq_true, if_false]
  split
  · cases closeBlock { listing := l, mode := .eval, trim := b } line <;> rfl
  · rfl

lemma add_header (done : List Statement) (h : Text) :
    ((⟨done, d⟩ : Listing).add h line).indent.add "pass" line =
      ⟨done ++ headerStatements d h line, d + 1⟩ := by
  simp [Listing.add, Listing.indent, headerStatements]

include hclose

/-- A line that opens a block. -/
lemma emits_header {h : Text} (hh : IsHeader h) (hclause : isClauseLine h = false) :
    Emits (tagPieces .openEval closer (spaced h)) line b (decide (closer ≠ .close)) d (d + 1)
      (headerStatements d h line) := by
  refine emits_tag .eval rfl (by decide) hclose fun done => ?_
  rw [text_code hh, hclause, addCode_header hh, add_header]
  rfl

/-- A line that closes a block and opens the next. -/
lemma emits_clause {h : Text} (hh : IsHeader h) (hclause : isClauseLine h = true) :
    Emits (tagPieces .openEval closer (spaced h)) line b (decide (closer ≠ .close)) (d + 1) (d + 1)
      (headerStatements d h line) := by
  refine emits_tag .eval rfl (by decide) hclose fun done => ?_
  -- the open block is closed first, so the line stands one step further left
  have hcloses : closeBlock { listing := ⟨done, d + 1⟩, mode := .eval, trim := b } line =
      .ok { listing := ⟨done, d⟩, mode := .eval, trim := b } := rfl
  rw [text_code hh, hclause, hcloses]
  show Except.ok (addCode { listing := ⟨done, d⟩, mode := .eval, trim := b } h line) = _
  rw [addCode_header hh, add_header]

/-- The word that closes a block. -/
lemma emits_end :
    Emits (tagPieces .openEval closer (spaced ['e', 'n', 'd'])) line b (decide (closer ≠ .close))
      (d + 1) d [] := by
  refine emits_tag .eval rfl (by decide) hclose fun done => ?_
  rw [List.append_nil]
  rfl

end

end Generator

end ViewEngine

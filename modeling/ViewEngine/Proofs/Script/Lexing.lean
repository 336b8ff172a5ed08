/-
# Cutting lines of code into tokens

What the tokens of a script are is said here line by line and, inside a line, token by token.  Blocks
that end are closed when the next line begins, or at the end of the script; the indentations that are
open are multiples of four.  Of each token its kind and its line are described; only where a block
begins or ends is the line left open, because no parser looks at it there.

* `IsWord`, `IsNameLike`: words of ASCII letters, and whatever is read as one name;
* `Token.spot`: what a parser sees of a token;
* `LexesAt.line`, `LexesAt.deeper`: a line at an open indentation, and one that opens a block;
* `Inner.word`, `Inner.identifier`, `Inner.literal`, …: the tokens of a line, one lemma for each kind.
-/
import Mathlib.Tactic.Common
import Mathlib.Tactic.Lemma
import ViewEngine.Proofs.Code.Literal
import ViewEngine.Script.Token

namespace ViewEngine.Script

/-! ## Words -/

/-- The form of words: a letter or an underscore, followed by letters, digits and underscores. -/
def IsWord (x : Text) : Prop :=
  ∃ c cs, x = c :: cs ∧ (c.isAlpha = true ∨ c = '_') ∧
    ∀ d ∈ cs, d.isAlphanum = true ∨ d = '_'

lemma isWord_cons {c : Char} {cs : Text} (hc : c.isAlpha = true ∨ c = '_')
    (hcs : (cs.all fun d => d.isAlphanum || d = '_') = true) : IsWord (c :: cs) := by
  refine ⟨c, cs, rfl, hc, fun d hd => ?_⟩
  simpa using List.all_eq_true.1 hcs d hd

namespace IsWord

variable {x : Text}

lemma ne_nil (h : IsWord x) : x ≠ [] := by
  obtain ⟨c, cs, rfl, -, -⟩ := h
  exact List.cons_ne_nil c cs

lemma mem (h : IsWord x) : ∀ c ∈ x, c.isAlphanum = true ∨ c = '_' := by
  obtain ⟨c, cs, rfl, hc, hcs⟩ := h
  intro d hd
  rcases List.mem_cons.1 hd with rfl | hd
  · exact hc.imp_left fun h => by simp [Char.isAlphanum, h]
  · exact hcs d hd

lemma ascii (h : IsWord x) : ∀ c ∈ x, c.toNat < 128 := by
  intro c hc
  rcases h.mem c hc with h | rfl
  · exact (toNat_of_isAlphanum h).2
  · decide

end IsWord

lemma not_isDigit_of_isAlpha {c : Char} (h : c.isAlpha = true) : c.isDigit = false := by
  have hrange := toNat_of_isAlpha h
  have hval : c.toNat = c.val.toNat := rfl
  have h0 : '0'.val.toNat = 48 := rfl
  have h9 : '9'.val.toNat = 57 := rfl
  simp only [Char.isDigit, Bool.and_eq_false_iff, decide_eq_false_iff_not, UInt32.le_iff_toNat_le]
  omega

/-- A text that the first look takes for one name: every character may belong to a name, and the first
one is no digit. -/
structure IsNameLike (x : Text) : Prop where
  nameLike : ∀ c ∈ x, isNameLike c = true
  front : ∃ c cs, x = c :: cs ∧ c.isDigit = false

lemma IsWord.isNameLike {x : Text} (h : IsWord x) : IsNameLike x where
  nameLike c hc := by
    rcases h.mem c hc with h | rfl
    · simp [Script.isNameLike, h]
    · rfl
  front := by
    obtain ⟨c, cs, rfl, hc, -⟩ := h
    refine ⟨c, cs, rfl, ?_⟩
    rcases hc with hc | rfl
    · exact not_isDigit_of_isAlpha hc
    · rfl

/-- An identifier, of letters of any script, is read as one name. -/
lemma isNameLike_of_isIdentifier {x : Text} (h : Text.isIdentifier x = true) : IsNameLike x := by
  cases x with
  | nil => cases h
  | cons c cs =>
    rw [Text.isIdentifier, Bool.and_eq_true, List.all_eq_true] at h
    obtain ⟨hstart, hrest⟩ := h
    have hlarge : ∀ d : Char, ¬ d.toNat < 128 → isNameLike d = true := fun d hd => by
      simp [isNameLike, Nat.not_lt.1 hd]
    refine ⟨fun d hd => ?_, c, cs, rfl, ?_⟩
    · by_cases hsmall : d.toNat < 128
      · rcases List.mem_cons.1 hd with rfl | hd
        · rw [Text.isNameStart, if_pos hsmall] at hstart
          simp only [Bool.or_eq_true, decide_eq_true_eq] at hstart
          rcases hstart with halpha | rfl
          · simp [isNameLike, Char.isAlphanum, halpha]
          · rfl
        · have hd := hrest d hd
          rw [Text.isNameRest, if_pos hsmall] at hd
          rw [isNameLike, hd, Bool.true_or]
      · exact hlarge d hsmall
    · by_cases hsmall : c.toNat < 128
      · rw [Text.isNameStart, if_pos hsmall] at hstart
        simp only [Bool.or_eq_true, decide_eq_true_eq] at hstart
        rcases hstart with halpha | rfl
        · exact not_isDigit_of_isAlpha halpha
        · rfl
      · have hval : c.toNat = c.val.toNat := rfl
        have h9 : '9'.val.toNat = 57 := rfl
        simp only [Char.isDigit, Bool.and_eq_false_iff, decide_eq_false_iff_not,
          UInt32.le_iff_toNat_le]
        omega

/-! ## Spots -/

/-- What a parser sees of a token: its kind and its line. -/
abbrev Spot := TokenKind × Nat

/-- Does the token only mark where a block begins or ends, or the script? -/
def TokenKind.isMark : TokenKind → Bool
  | indent | dedent | finish => true
  | _ => false

/-- What a parser sees of the token; the line of a mark does not matter. -/
def Token.spot (t : Token) : Spot := (t.kind, if t.kind.isMark then 0 else t.line)

/-- Tokens of these kinds on one line. -/
def onLine (line : Nat) (ks : List TokenKind) : List Spot := ks.map (·, line)

/-! ## Tokens from a state on -/

/-- The tokens from a state on are these, and nothing is wrong. -/
def Lexes (s : LexState) (t : Text) (sp : List Spot) : Prop :=
  (lexFrom 0 s t).list.map Token.spot = sp ∧ (lexFrom 0 s t).ending = .complete

lemma lexFrom_length (s : LexState) (u t : Text) : lexFrom u.length s (u ++ t) = lexFrom 0 s t := by
  induction u with
  | nil => rfl
  | cons c u ih => rw [List.cons_append, List.length_cons, lexFrom, ih]

/-- What is cut off inside a line. -/
lemma lexFrom_inside {s : LexState} (hs : s.lineStart = false) (c : Char) (cs : Text) :
    lexFrom 0 s (c :: cs) =
      match look s c cs with
      | .skip n next => lexFrom (n - 1) next cs
      | .token k n next => (lexFrom (n - 1) next cs).push [⟨k, s.line, next.brackets.length⟩]
      | .stop e => ⟨[], e⟩ := by
  obtain ⟨line, indents, brackets, start⟩ := s
  cases hs
  rw [lexFrom]
  simp only [Bool.false_eq_true, if_false, List.replicate_zero, List.nil_append, List.drop_zero,
    Nat.add_zero]
  cases look { line, indents, brackets, lineStart := false } c cs <;> rfl

/-- What is cut off at the front of a line. -/
lemma lexFrom_front {s : LexState} (hs : s.lineStart = true) {c : Char} {cs : Text} {closed : Nat}
    {opens : Bool} {margin : Margin} (h : lineStart s (c :: cs) = .code closed opens margin 0) :
    lexFrom 0 s (c :: cs) =
      (lexFrom 0 { s with lineStart := false,
                          indents := (if opens then [margin] else []) ++ s.indents.drop closed }
        (c :: cs)).push
        (List.replicate closed ⟨.dedent, s.line, 0⟩ ++ if opens then [⟨.indent, s.line, 0⟩] else [])
      := by
  -- the two sides differ in the tokens of the front only: the same is cut off behind it
  have hinside := lexFrom_inside (s := { s with
    lineStart := false
    indents := (if opens then [margin] else []) ++ s.indents.drop closed }) rfl c cs
  rw [hinside, lexFrom]
  simp only [hs, if_true, h, Nat.add_zero]
  generalize look _ c cs = l
  cases l <;> simp [Tokens.push]

lemma Lexes.token {s next : LexState} {c : Char} {u r : Text} {k : TokenKind}
    {sp : List Spot} (hs : s.lineStart = false) (hk : k.isMark = false)
    (hlook : look s c (u ++ r) = .token k (u.length + 1) next) (h : Lexes next r sp) :
    Lexes s (c :: (u ++ r)) ((k, s.line) :: sp) := by
  unfold Lexes
  rw [lexFrom_inside hs, hlook]
  simp only [Nat.add_sub_cancel, lexFrom_length]
  have hspot : (⟨k, s.line, next.brackets.length⟩ : Token).spot = (k, s.line) := by
    rw [Token.spot, hk]
    rfl
  exact ⟨congrArg₂ List.cons hspot h.1, h.2⟩

lemma Lexes.skip {s next : LexState} {c : Char} {r : Text} {sp : List Spot}
    (hs : s.lineStart = false) (hlook : look s c r = .skip 1 next) (h : Lexes next r sp) :
    Lexes s (c :: r) sp := by
  unfold Lexes
  rw [lexFrom_inside hs, hlook]
  exact h

/-! ## The front of a line -/

/-- The open indentations in so many blocks. -/
def margins : Nat → List Margin
  | 0 => []
  | d + 1 => ⟨4 * (d + 1), 4 * (d + 1)⟩ :: margins d

@[simp] lemma length_margins (d : Nat) : (margins d).length = d := by
  induction d with
  | zero => rfl
  | succ d ih => rw [margins, List.length_cons, ih]

lemma drop_margins (d k : Nat) : (margins (d + k)).drop k = margins d := by
  induction k with
  | zero => rfl
  | succ k ih => exact ih

lemma indentChange_margins (d k : Nat) :
    indentChange ⟨4 * d, 4 * d⟩ (margins (d + k)) = some (k, false) := by
  induction k with
  -- the line lies at the indentation that is open on top
  | zero => cases d <;> simp [margins, indentChange]
  | succ k ih =>
    have hlt : ¬ 4 * (d + k + 1) < 4 * d := by omega
    have hne : ¬ 4 * (d + k + 1) = 4 * d := by omega
    rw [← Nat.add_assoc, margins, indentChange, if_neg hlt, if_neg hne, ih]

lemma indentChange_deeper (d : Nat) :
    indentChange ⟨4 * (d + 1), 4 * (d + 1)⟩ (margins d) = some (0, true) := by
  cases d with
  | zero => simp [margins, indentChange]
  | succ d => simp [margins, indentChange]

lemma ne_of_isNameLike {c d : Char} (h : isNameLike c = true) (hd : isNameLike d = false) :
    c ≠ d := by
  rintro rfl
  rw [h] at hd
  cases hd

lemma measure_blanks (f : Front) (n : Nat) (t : Text) :
    Front.measure f (List.replicate n ' ' ++ t) =
      Front.measure { f with count := f.count + n
                             margin := ⟨f.margin.wide + n, f.margin.narrow + n⟩ } t := by
  induction n generalizing f with
  | zero => rfl
  | succ n ih =>
    have hstep : Front.measure f (List.replicate (n + 1) ' ' ++ t) =
        Front.measure { f with count := f.count + 1
                               margin := ⟨f.margin.wide + 1, f.margin.narrow + 1⟩ }
          (List.replicate n ' ' ++ t) := by
      rw [List.replicate_succ, List.cons_append, Front.measure.eq_def]
      simp only [if_true]
    rw [hstep, ih]
    simp only [Nat.add_assoc, Nat.add_comm 1 n]

lemma measure_word (f : Front) {c : Char} (hc : isNameLike c = true) (cs : Text) :
    Front.measure f (c :: cs) = f := by
  have h1 : c ≠ ' ' := ne_of_isNameLike hc rfl
  have h2 : c ≠ '\t' := ne_of_isNameLike hc rfl
  have h3 : c ≠ '\x0c' := ne_of_isNameLike hc rfl
  have h4 : c ≠ '\\' := ne_of_isNameLike hc rfl
  rw [Front.measure.eq_def]
  simp only [h1, h2, h3, h4, if_false]

/-- What stands at the front of a line with a word on it. -/
lemma lineStart_word {s : LexState} {d closed : Nat} {opens : Bool} {c : Char} {cs : Text}
    (hc : isNameLike c = true) (hchange : indentChange ⟨4 * d, 4 * d⟩ s.indents = some (closed, opens))
    (hroom : opens = true → s.indents.length < indentLimit) :
    lineStart s (List.replicate (4 * d) ' ' ++ c :: cs) = .code closed opens ⟨4 * d, 4 * d⟩ 0 := by
  have h1 : c ≠ '\n' := ne_of_isNameLike hc rfl
  have h2 : c ≠ '#' := ne_of_isNameLike hc rfl
  have hmeasure : Front.measure {} (List.replicate (4 * d) ' ' ++ c :: cs) =
      { count := 4 * d, margin := ⟨4 * d, 4 * d⟩ } := by
    rw [measure_blanks, measure_word _ hc]
    simp
  have hdrop : (List.replicate (4 * d) ' ' ++ c :: cs).drop (4 * d) = c :: cs :=
    List.drop_left' (by simp)
  have hnotfull : (opens && decide (indentLimit ≤ s.indents.length)) = false := by
    cases opens with
    | false => rfl
    | true =>
      have := hroom rfl
      simp only [Bool.true_and, decide_eq_false_iff_not]
      omega
  unfold lineStart
  rw [hmeasure]
  simp only [hdrop, Bool.false_eq_true, if_false, Front.indentation, if_true]
  split
  · rename_i heq
    exact absurd (List.cons.inj heq).1 h1
  · rename_i heq
    exact absurd (List.cons.inj heq).1 h2
  · rw [hchange]
    simp only [hnotfull, Bool.false_eq_true, if_false]

/-! ## Tokens inside a line -/

/-- The tokens of the rest of a line in so many blocks, behind some open brackets. -/
def Inner (d line : Nat) (brackets : Text) (t : Text) (sp : List Spot) : Prop :=
  ∀ bs, bs.map (·.1) = brackets →
    Lexes { line, indents := margins d, brackets := bs, lineStart := false } t sp

/-- The tokens from the front of a line on, in so many blocks. -/
def LexesAt (d line : Nat) (t : Text) (sp : List Spot) : Prop :=
  Lexes { line, indents := margins d } t sp

lemma LexesAt.nil (d line : Nat) :
    LexesAt d line [] (List.replicate d (.dedent, 0) ++ [(.finish, 0)]) := by
  have h : lexFrom 0 { line, indents := margins d } [] =
      { list := (margins d).map (fun _ => ⟨.dedent, line - 1, 0⟩) ++ [⟨.finish, line - 1, 0⟩]
        ending := .complete } := rfl
  constructor
  · rw [h]
    simp [List.map_const', Token.spot, TokenKind.isMark]
  · rw [h]

namespace Inner

variable {d line : Nat} {b t : Text} {sp : List Spot}

lemma blank (h : Inner d line b t sp) : Inner d line b (' ' :: t) sp := by
  intro bs hbs
  exact .skip rfl rfl (h bs hbs)

lemma blanks (h : Inner d line b t sp) (n : Nat) :
    Inner d line b (List.replicate n ' ' ++ t) sp := by
  induction n with
  | zero => exact h
  | succ n ih => exact ih.blank

lemma newline (h : LexesAt d (line + 1) t sp) :
    Inner d line [] ('\n' :: t) ((.newline, line) :: sp) := by
  intro bs hbs
  obtain rfl : bs = [] := List.map_eq_nil_iff.1 hbs
  exact .token (u := []) rfl rfl rfl h

end Inner

/-! ### Words -/

/-- A text in front of which a word ends, and no string begins. -/
def EndsWord (r : Text) : Prop :=
  ∃ c cs, r = c :: cs ∧ isNameLike c = false ∧ c ≠ '\'' ∧ c ≠ '"'

lemma endsWord_blank (r : Text) : EndsWord (' ' :: r) := ⟨' ', r, rfl, by decide⟩

lemma endsWord_opening (r : Text) : EndsWord ('(' :: r) := ⟨'(', r, rfl, by decide⟩

lemma endsWord_closing (r : Text) : EndsWord (')' :: r) := ⟨')', r, rfl, by decide⟩

lemma endsWord_colon (r : Text) : EndsWord (':' :: r) := ⟨':', r, rfl, by decide⟩

lemma endsWord_newline (r : Text) : EndsWord ('\n' :: r) := ⟨'\n', r, rfl, by decide⟩

lemma isAlpha_of_isNameLike {c : Char} (h : isNameLike c = false) : c.isAlpha = false := by
  simp only [isNameLike, Char.isAlphanum, Bool.or_eq_false_iff] at h
  exact h.1.1.1

/-- The kind of the token that a word makes. -/
def wordKind (x : Text) : TokenKind := if keywords.contains x then .keyword x else .name x

/-- The name that a script means where an identifier is written that is no reserved word: its
compatible form, unless it is ASCII. -/
def meantName (x : Text) : Text :=
  if x.all fun c => c.toNat < 128 then x else Text.compatible x

section

variable {x r : Text} (hr : EndsWord r)

include hr

lemma takeWhile_nameLike (hx : ∀ c ∈ x, isNameLike c = true) : (x ++ r).takeWhile isNameLike = x := by
  obtain ⟨c, cs, rfl, hc⟩ := hr
  have hend : (c :: cs).takeWhile isNameLike = [] := by simp [hc.1]
  rw [List.takeWhile_append_of_pos hx, hend, List.append_nil]

/-- No quote stands behind the letters of a name. -/
lemma dropWhile_nameLike (hx : ∀ c ∈ x, isNameLike c = true) {q : Char} {rest : Text}
    (h : (x ++ r).dropWhile Char.isAlpha = q :: rest) : q ≠ '\'' ∧ q ≠ '"' := by
  induction x with
  | nil =>
    obtain ⟨c, cs, rfl, hc⟩ := hr
    have hend : (c :: cs).dropWhile Char.isAlpha = c :: cs := by
      simp [isAlpha_of_isNameLike hc.1]
    rw [List.nil_append, hend] at h
    cases h
    exact hc.2
  | cons d x ih =>
    rw [List.cons_append, List.dropWhile_cons] at h
    split at h
    -- the quote would stand behind the name, or be a character of it
    · exact ih (fun c hc => hx c (List.mem_cons_of_mem d hc)) h
    · cases h
      have hq := hx q List.mem_cons_self
      exact ⟨ne_of_isNameLike hq rfl, ne_of_isNameLike hq rfl⟩

lemma stringAt?_nameLike (hx : ∀ c ∈ x, isNameLike c = true) : stringAt? (x ++ r) = none := by
  have hdrop : (x ++ r).drop ((x ++ r).takeWhile Char.isAlpha).length =
      (x ++ r).dropWhile Char.isAlpha := by
    have hcut := List.takeWhile_append_dropWhile (p := Char.isAlpha) (l := x ++ r)
    have hdrop := @List.drop_left _ ((x ++ r).takeWhile Char.isAlpha)
      ((x ++ r).dropWhile Char.isAlpha)
    rwa [hcut] at hdrop
  -- letters may introduce a string, but no quote follows them
  unfold stringAt?
  simp only [hdrop]
  split
  · split
    · rename_i hcons
      have hq := dropWhile_nameLike hr hx hcons
      simp [hq.1, hq.2]
    · rfl
  · rfl

/-- What is read as one name is looked at as a whole. -/
lemma look_nameLike {s : LexState} {c : Char} {cs : Text} (hx : IsNameLike (c :: cs)) :
    look s c (cs ++ r) = lookName s (c :: (cs ++ r)) := by
  have hname : isNameLike c = true := hx.nameLike c List.mem_cons_self
  have hdigit : c.isDigit = false := by
    obtain ⟨d, ds, heq, hd⟩ := hx.front
    rw [(List.cons.inj heq).1, hd]
  have hgap : isGap c = false := by
    simp [isGap, ne_of_isNameLike hname (d := ' ') rfl, ne_of_isNameLike hname (d := '\t') rfl,
      ne_of_isNameLike hname (d := '\x0c') rfl]
  have h1 : c ≠ '#' := ne_of_isNameLike hname rfl
  have h2 : c ≠ '\n' := ne_of_isNameLike hname rfl
  have h3 : c ≠ '\\' := ne_of_isNameLike hname rfl
  have h4 : c ≠ '.' := ne_of_isNameLike hname rfl
  have hstring : stringAt? (c :: (cs ++ r)) = none := stringAt?_nameLike hr hx.nameLike
  unfold look
  simp only [hgap, h1, h2, h3, h4, hdigit, hstring, hname, Bool.false_eq_true, if_false,
    decide_false, Bool.false_and, Bool.or_false, if_true]

/-- The word at the front of a text. -/
lemma look_word {s : LexState} {c : Char} {cs : Text} (hx : IsWord (c :: cs)) :
    look s c (cs ++ r) = .token (wordKind (c :: cs)) (cs.length + 1) s := by
  have hword : (c :: (cs ++ r)).takeWhile isNameLike = c :: cs :=
    takeWhile_nameLike hr hx.isNameLike.nameLike
  have hascii : (c :: cs).all (fun d => d.toNat < 128) = true := by
    simpa using hx.ascii
  rw [look_nameLike hr hx.isNameLike]
  unfold lookName wordKind
  simp only [hword, hascii, if_true, List.length_cons]
  split <;> rfl

/-- The identifier at the front of a text. -/
lemma look_identifier {s : LexState} {c : Char} {cs : Text}
    (hx : Text.isIdentifier (c :: cs) = true) (hfree : c :: cs ∉ keywords) :
    look s c (cs ++ r) = .token (.name (meantName (c :: cs))) (cs.length + 1) s := by
  have hlike := isNameLike_of_isIdentifier hx
  have hword : (c :: (cs ++ r)).takeWhile isNameLike = c :: cs :=
    takeWhile_nameLike hr hlike.nameLike
  have hkeyword : keywords.contains (c :: cs) = false := by
    rw [← Bool.not_eq_true, List.contains_iff_mem]
    exact hfree
  rw [look_nameLike hr hlike]
  unfold lookName meantName
  simp only [hword, hkeyword, hx, Bool.false_eq_true, if_false, if_true, List.length_cons]
  split <;> rfl

end

/-- A literal does not begin like one in triple quotes. -/
lemma not_triple {u r : Text} (hr : r.head? ≠ some '"') :
    Text.startsWith ['"', '"'] (Literal.escape u ++ '"' :: r) = false := by
  -- behind the first quote stands the end of an empty literal, or a character that is no quote
  cases u with
  | nil =>
    cases r with
    | nil => rfl
    | cons c r =>
      have hc : '"' ≠ c := fun h => hr (by rw [h]; rfl)
      simp [Literal.escape_nil, Text.startsWith, Text.after?, hc]
  | cons c u =>
    rw [Literal.escape_cons, List.append_assoc]
    rcases Literal.escapeChar_cases c with ⟨-, h⟩ | ⟨-, h⟩ | ⟨-, h⟩ | ⟨-, h⟩ | ⟨-, h⟩ | ⟨hc, h⟩
    all_goals rw [h]
    · rfl
    · rfl
    · rfl
    · rfl
    · rfl
    · simp [Text.startsWith, Text.after?, Ne.symm hc.2.2.2.1]

/-- The literal at the front of a text. -/
lemma stringAt?_literal {u r : Text} (hr : r.head? ≠ some '"') :
    stringAt? ('"' :: (Literal.escape u ++ '"' :: r)) =
      some (some (.string false false (Literal.escape u), (Literal.escape u).length + 2)) := by
  have hletters : ('"' :: (Literal.escape u ++ '"' :: r)).takeWhile Char.isAlpha = [] := rfl
  have hbody := Literal.stringBody?_escape u r
  unfold stringAt?
  simp only [hletters, List.map_nil, List.length_nil, List.drop_zero, not_triple hr]
  simp [hbody, stringLetters]
  omega

lemma isMark_wordKind (x : Text) : (wordKind x).isMark = false := by
  unfold wordKind
  split <;> rfl

namespace Inner

variable {d line : Nat} {b t : Text} {sp : List Spot}

lemma word {x r : Text} (hx : IsWord x) (hr : EndsWord r) (h : Inner d line b r sp) :
    Inner d line b (x ++ r) ((wordKind x, line) :: sp) := by
  intro bs hbs
  obtain ⟨c, cs, rfl⟩ := List.exists_cons_of_ne_nil hx.ne_nil
  exact .token rfl (isMark_wordKind _) (look_word hr hx) (h bs hbs)

lemma identifier {x r : Text} (hx : Text.isIdentifier x = true) (hfree : x ∉ keywords)
    (hr : EndsWord r) (h : Inner d line b r sp) :
    Inner d line b (x ++ r) ((.name (meantName x), line) :: sp) := by
  intro bs hbs
  cases x with
  | nil => cases hx
  | cons c cs => exact .token rfl rfl (look_identifier hr hx hfree) (h bs hbs)

lemma opening (hroom : b.length < bracketLimit) (h : Inner d line ('(' :: b) t sp) :
    Inner d line b ('(' :: t) ((.op ['('], line) :: sp) := by
  intro bs hbs
  have hlook : look { line, indents := margins d, brackets := bs, lineStart := false } '(' t =
      .token (.op ['(']) 1
        { line, indents := margins d, brackets := ('(', line) :: bs, lineStart := false } := by
    have hlen : ¬ bracketLimit ≤ bs.length := by
      rw [← hbs, List.length_map] at hroom
      omega
    show lookSymbol _ '(' t = _
    unfold lookSymbol
    simp only [true_or, if_true, hlen, if_false]
  exact .token (u := []) rfl rfl hlook (h _ (by rw [List.map_cons, hbs]))

lemma closing (h : Inner d line b t sp) :
    Inner d line ('(' :: b) (')' :: t) ((.op [')'], line) :: sp) := by
  intro bs hbs
  obtain ⟨p, bs, rfl⟩ := List.exists_cons_of_ne_nil
    (show bs ≠ [] by rintro rfl; cases hbs)
  obtain ⟨hp, hrest⟩ := List.cons.inj hbs
  obtain ⟨q, l⟩ := p
  cases hp
  exact .token (u := []) rfl rfl rfl (h bs hrest)

lemma colon (h : Inner d line b ('\n' :: t) sp) :
    Inner d line b (':' :: '\n' :: t) ((.op [':'], line) :: sp) := by
  intro bs hbs
  exact .token (u := []) rfl rfl rfl (h bs hbs)

lemma literal {u r : Text} (hr : r.head? ≠ some '"') (h : Inner d line b r sp) :
    Inner d line b ('"' :: (Literal.escape u ++ '"' :: r))
      ((.string false false (Literal.escape u), line) :: sp) := by
  intro bs hbs
  let s : LexState := { line, indents := margins d, brackets := bs, lineStart := false }
  have hcut : Literal.escape u ++ '"' :: r = (Literal.escape u ++ ['"']) ++ r := by simp
  -- a literal may span lines, but the line feeds of this one are written as escapes
  have hfeeds : Text.lineFeeds (('"' :: (Literal.escape u ++ '"' :: r)).take
      ((Literal.escape u).length + 2)) = 0 := by
    have htake : ('"' :: (Literal.escape u ++ '"' :: r)).take ((Literal.escape u).length + 2) =
        '"' :: (Literal.escape u ++ ['"']) := by
      rw [hcut, List.take_succ_cons, List.take_left' (by simp)]
    rw [htake]
    refine List.count_eq_zero.2 ?_
    simp [Literal.not_mem_escape (d := '\n') (.inl rfl) u]
  have hlook : look s '"' (Literal.escape u ++ '"' :: r) =
      .token (.string false false (Literal.escape u)) ((Literal.escape u ++ ['"']).length + 1) s := by
    rw [List.length_append, List.length_singleton]
    unfold look
    simp only [stringAt?_literal hr]
    show lookCut s _ _ _ = _
    rw [lookCut, hfeeds]
    rfl
  rw [hcut] at hlook ⊢
  exact .token rfl rfl hlook (h bs hbs)

end Inner

/-! ## Lines -/

namespace LexesAt

variable {d k n : Nat} {c : Char} {cs : Text} {sp : List Spot}

lemma map_spot_push (ts : List Token) (rest : Tokens) :
    (rest.push ts).list.map Token.spot = ts.map Token.spot ++ rest.list.map Token.spot :=
  List.map_append

/-- **A line at an open indentation closes the blocks that lie deeper.** -/
theorem line (hc : isNameLike c = true) (h : Inner d n [] (c :: cs) sp) :
    LexesAt (d + k) n (List.replicate (4 * d) ' ' ++ c :: cs)
      (List.replicate k (.dedent, 0) ++ sp) := by
  have hstart : lineStart { line := n, indents := margins (d + k) }
      (List.replicate (4 * d) ' ' ++ c :: cs) = .code k false ⟨4 * d, 4 * d⟩ 0 :=
    lineStart_word hc (indentChange_margins d k) (by simp)
  have hrest := (h.blanks (4 * d)) [] rfl
  -- the front is looked at with the first character in hand, which may be a blank
  obtain ⟨e, es, hes⟩ := List.exists_cons_of_ne_nil
    (show List.replicate (4 * d) ' ' ++ c :: cs ≠ [] by simp)
  rw [hes] at hstart hrest
  unfold LexesAt
  rw [hes]
  unfold Lexes at hrest ⊢
  rw [lexFrom_front rfl hstart, map_spot_push]
  simp only [drop_margins, Bool.false_eq_true, if_false, List.nil_append, List.append_nil,
    List.map_replicate]
  exact ⟨congrArg (List.replicate k (TokenKind.dedent, 0) ++ ·) hrest.1, hrest.2⟩

/-- **A line that lies deeper opens a block.** -/
theorem deeper (hc : isNameLike c = true) (h : Inner (d + 1) n [] (c :: cs) sp)
    (hd : d < indentLimit) :
    LexesAt d n (List.replicate (4 * (d + 1)) ' ' ++ c :: cs) ((.indent, 0) :: sp) := by
  have hstart : lineStart { line := n, indents := margins d }
      (List.replicate (4 * (d + 1)) ' ' ++ c :: cs) =
        .code 0 true ⟨4 * (d + 1), 4 * (d + 1)⟩ 0 :=
    lineStart_word hc (indentChange_deeper d) (by simpa using hd)
  have hrest := (h.blanks (4 * (d + 1))) [] rfl
  obtain ⟨e, es, hes⟩ := List.exists_cons_of_ne_nil
    (show List.replicate (4 * (d + 1)) ' ' ++ c :: cs ≠ [] by simp)
  rw [hes] at hstart hrest
  unfold LexesAt
  rw [hes]
  unfold Lexes at hrest ⊢
  rw [lexFrom_front rfl hstart, map_spot_push]
  simp only [if_true, List.drop_zero, List.replicate_zero, List.nil_append]
  exact ⟨congrArg ((TokenKind.indent, 0) :: ·) hrest.1, hrest.2⟩

end LexesAt

end ViewEngine.Script

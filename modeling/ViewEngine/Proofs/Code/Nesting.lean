/-
# Brackets that are open in front of a line

A line of code is scanned with the brackets that earlier lines have left open.  They do not change how
the line is read: which characters are string literals, brackets or a comment is settled by the line
alone, and what the line does to open brackets is the same on any stack of them.  It takes some off the
top, as many as are there, and puts others on.

* `LiteralAt`, `Lexed`: how a line is read, character by character;
* `mark?_literal`, `mark?_lone`, `mark?_unclosed`: the scan stops at what the reading finds;
* `Unmatched`: the brackets that have no partner on the line;
* `Unmatched.foldl_step`: what brackets do to the open ones;
* `scan_behind_brackets`: what the scan of a line gives behind any open brackets.
-/
import Mathlib.Tactic.Common
import Mathlib.Tactic.Lemma
import ViewEngine.Proofs.Code.OpenBrackets

namespace ViewEngine.Brackets

/-! ## How a line is read -/

/-- Is the character a quote? -/
def IsQuote (c : Char) : Prop := c = '\'' ∨ c = '"'

/-- What stands between two quotes `q`: a backslash takes the next character with it, and no other
character is the quote. -/
inductive Body (q : Char) : Text → Prop where
  | nil : Body q []
  | escaped {t : Text} (c : Char) (h : Body q t) : Body q ('\\' :: c :: t)
  | plain {c : Char} {t : Text} (hslash : c ≠ '\\') (hquote : c ≠ q) (h : Body q t) : Body q (c :: t)

/-- What stands between three quotes `q` and the next three: single quotes may be among it. -/
inductive TripleBody (q : Char) : Text → Prop where
  | nil : TripleBody q []
  | escaped {t : Text} (c : Char) (h : TripleBody q t) : TripleBody q ('\\' :: c :: t)
  | plain {c : Char} {t : Text} (hslash : c ≠ '\\')
      (hquotes : ¬ [q, q, q] <+: c :: (t ++ [q, q, q])) (h : TripleBody q t) : TripleBody q (c :: t)

/-- The text is a string literal, when the second text follows it.  Two quotes with a third behind them
are no empty string but the beginning of a longer one. -/
inductive LiteralAt : Text → Text → Prop where
  | single {q : Char} {b t : Text} (hq : IsQuote q) (h : Body q b)
      (hempty : b = [] → t.head? ≠ some q) : LiteralAt (q :: (b ++ [q])) t
  | triple {q : Char} {b t : Text} (hq : IsQuote q) (h : TripleBody q b) :
      LiteralAt (q :: q :: q :: (b ++ [q, q, q])) t

/-- No string literal begins at the front of the text. -/
def NoLiteral (t : Text) : Prop := ∀ w v, LiteralAt w v → w ++ v ≠ t

/-- A part of a line. -/
inductive Item where
  /-- A character that means nothing to the scan. -/
  | plain (c : Char)
  /-- A bracket outside of string literals and comments. -/
  | bracket (c : Char)
  /-- A string literal. -/
  | literal (w : Text)
  /-- A triple quote that has no partner, with the rest of the line. -/
  | unclosed (w : Text)
  /-- A comment. -/
  | comment (w : Text)
deriving DecidableEq, Repr

namespace Item

/-- The characters of a part. -/
def text : Item → Text
  | plain c => [c]
  | bracket c => [c]
  | literal w => w
  | unclosed w => w
  | comment w => w

/-- The characters of a part that is no comment. -/
def code : Item → Text
  | comment _ => []
  | i => i.text

/-- The bracket that a part is. -/
def bracket? : Item → Option Char
  | bracket c => some c
  | _ => none

end Item

/-- How a line is read from left to right. -/
inductive Lexed : Text → List Item → Prop where
  | nil : Lexed [] []
  | plain {c : Char} {t : Text} {is : List Item} (hmark : c ≠ '#') (hquote : ¬ IsQuote c)
      (hopening : isOpening c = false) (hclosing : isClosing c = false) (h : Lexed t is) :
      Lexed (c :: t) (.plain c :: is)
  | bracket {c : Char} {t : Text} {is : List Item} (hc : isOpening c = true ∨ isClosing c = true)
      (h : Lexed t is) : Lexed (c :: t) (.bracket c :: is)
  | literal {w t : Text} {is : List Item} (hw : LiteralAt w t) (h : Lexed t is) :
      Lexed (w ++ t) (.literal w :: is)
  /-- A quote without a partner. -/
  | lone {q : Char} {t : Text} {is : List Item} (hq : IsQuote q) (hnone : NoLiteral (q :: t))
      (htriple : ¬ [q, q, q] <+: q :: t) (h : Lexed t is) : Lexed (q :: t) (.plain q :: is)
  | unclosed {q : Char} {t : Text} (hq : IsQuote q) (hnone : NoLiteral (q :: t))
      (htriple : [q, q, q] <+: q :: t) : Lexed (q :: t) [.unclosed (q :: t)]
  | comment (t : Text) : Lexed ('#' :: t) [.comment ('#' :: t)]

variable {q c : Char} {b t u v w x line : Text} {is : List Item}

lemma LiteralAt.ne_nil (h : LiteralAt w v) : w ≠ [] := by
  cases h <;> exact List.cons_ne_nil _ _

/-- Every line can be read. -/
theorem exists_lexed (line : Text) : ∃ is, Lexed line is := by
  -- a literal takes many characters at once, so the induction is on the length
  induction hn : line.length using Nat.strongRecOn generalizing line with
  | _ n ih =>
    cases line with
    | nil => exact ⟨[], .nil⟩
    | cons c t =>
      obtain ⟨is, his⟩ := ih t.length (by simp at hn; omega) t rfl
      by_cases hmark : c = '#'
      · subst hmark
        exact ⟨_, .comment t⟩
      by_cases hquote : IsQuote c
      · by_cases hnone : NoLiteral (c :: t)
        · by_cases htriple : [c, c, c] <+: c :: t
          · exact ⟨_, .unclosed hquote hnone htriple⟩
          · exact ⟨_, .lone hquote hnone htriple his⟩
        · simp only [NoLiteral, not_forall, not_not] at hnone
          obtain ⟨w, v, hw, hsplit⟩ := hnone
          have hlength : 0 < w.length := List.length_pos_iff.2 hw.ne_nil
          rw [← hsplit, List.length_append] at hn
          obtain ⟨is, his⟩ := ih v.length (by omega) v rfl
          rw [← hsplit]
          exact ⟨_, .literal hw his⟩
      · by_cases hopening : isOpening c = true
        · exact ⟨_, .bracket (.inl hopening) his⟩
        by_cases hclosing : isClosing c = true
        · exact ⟨_, .bracket (.inr hclosing) his⟩
        rw [Bool.not_eq_true] at hopening hclosing
        exact ⟨_, .plain hmark hquote hopening hclosing his⟩

/-- The parts of a line put together are the line. -/
lemma Lexed.text (h : Lexed line is) : is.flatMap Item.text = line := by
  induction h with
  | nil => rfl
  | plain _ _ _ _ _ ih => rw [List.flatMap_cons, ih]; rfl
  | bracket _ _ ih => rw [List.flatMap_cons, ih]; rfl
  | literal _ _ ih => rw [List.flatMap_cons, ih]; rfl
  | lone _ _ _ _ ih => rw [List.flatMap_cons, ih]; rfl
  | unclosed => exact List.append_nil _
  | comment => exact List.append_nil _

/-- A comment is the last part of a line, and begins with its sign. -/
lemma Lexed.code_cases (h : Lexed line is) :
    is.flatMap Item.code = line ∨
      ∃ front t, is = front ++ [.comment ('#' :: t)] ∧
        is.flatMap Item.code = front.flatMap Item.text ∧
        line = front.flatMap Item.text ++ '#' :: t := by
  -- a part in front of the others that is no comment
  have hfront : ∀ (i : Item) {line : Text} {is : List Item}, i.code = i.text →
      (is.flatMap Item.code = line ∨ ∃ front t, is = front ++ [.comment ('#' :: t)] ∧
        is.flatMap Item.code = front.flatMap Item.text ∧
        line = front.flatMap Item.text ++ '#' :: t) →
      ((i :: is).flatMap Item.code = i.text ++ line ∨
        ∃ front t, i :: is = front ++ [.comment ('#' :: t)] ∧
          (i :: is).flatMap Item.code = front.flatMap Item.text ∧
          i.text ++ line = front.flatMap Item.text ++ '#' :: t) := by
    rintro i line is hi (hcode | ⟨front, t, rfl, hcode, rfl⟩)
    · exact .inl (by rw [List.flatMap_cons, hi, hcode])
    · refine .inr ⟨i :: front, t, rfl, ?_, ?_⟩
      · rw [List.flatMap_cons, hi, hcode, List.flatMap_cons]
      · rw [List.flatMap_cons, List.append_assoc]
  induction h with
  | nil => exact .inl rfl
  | @plain c _ _ _ _ _ _ _ ih => exact hfront (.plain c) rfl ih
  | @bracket c _ _ _ _ ih => exact hfront (.bracket c) rfl ih
  | @literal w _ _ _ _ ih => exact hfront (.literal w) rfl ih
  | @lone q _ _ _ _ _ _ ih => exact hfront (.plain q) rfl ih
  | unclosed => exact .inl (List.append_nil _)
  | comment t => exact .inr ⟨[], t, rfl, rfl, rfl⟩

/-! ## What the scan stops at -/

lemma IsQuote.ne (hq : IsQuote q) : q ≠ '\\' ∧ q ≠ '\n' ∧ q ≠ '\r' := by
  rcases hq with rfl | rfl <;> decide

lemma mark?_quote (hq : IsQuote q) (t : Text) : mark? (q :: t) = stringAt? q t := by
  rcases hq with rfl | rfl <;> rfl

/-- The text lies on one line. -/
def OneLine (t : Text) : Prop := '\n' ∉ t ∧ '\r' ∉ t

lemma OneLine.tail (h : OneLine (c :: t)) : OneLine t :=
  ⟨fun hmem => h.1 (List.mem_cons_of_mem c hmem), fun hmem => h.2 (List.mem_cons_of_mem c hmem)⟩

lemma OneLine.right (h : OneLine (u ++ v)) : OneLine v :=
  ⟨fun hmem => h.1 (List.mem_append_right u hmem), fun hmem => h.2 (List.mem_append_right u hmem)⟩

lemma OneLine.head_ne (h : OneLine (c :: t)) : c ≠ '\n' ∧ c ≠ '\r' :=
  ⟨fun heq => h.1 (heq ▸ List.mem_cons_self), fun heq => h.2 (heq ▸ List.mem_cons_self)⟩

/-- A string ends at the first quote that no backslash takes. -/
lemma stringBody?_body (hq : IsQuote q) (h : Body q b) (hline : OneLine (b ++ q :: t)) :
    stringBody? q (b ++ q :: t) = some (.string, b.length + 1) := by
  induction h with
  | nil =>
    cases t with
    | nil => simp [stringBody?]
    | cons c t => simp [stringBody?, hq.ne.1]
  | @escaped b c _ ih =>
    have hc := hline.tail.head_ne
    rw [List.cons_append, List.cons_append, stringBody?, if_pos rfl, ih hline.tail.tail]
    simp [hc.1, hc.2]
  | @plain c b hslash hquote _ ih =>
    obtain ⟨d, x, hx⟩ := List.exists_cons_of_ne_nil (show b ++ q :: t ≠ [] by simp)
    have hbehind := ih hline.tail
    rw [hx] at hbehind
    rw [List.cons_append, hx, stringBody?, if_neg hslash, if_neg hquote,
      if_neg hline.head_ne.1, hbehind]
    rfl

/-- Where the scan finds the end of a string, there is one. -/
lemma exists_body {m : Mark} {n : Nat} (hline : OneLine x) (h : stringBody? q x = some (m, n)) :
    ∃ b t, x = b ++ q :: t ∧ Body q b := by
  fun_induction stringBody? q x generalizing m n with
  | case1 => cases h
  | case2 => exact ⟨[], [], rfl, .nil⟩
  | case3 => cases h
  | case4 d cs hbreak =>
    have hd := hline.tail.head_ne
    rcases hbreak with hfeed | ⟨hreturn, -⟩
    · exact absurd hfeed hd.1
    · exact absurd hreturn hd.2
  | case5 d cs _ ih =>
    obtain ⟨⟨m', n'⟩, hrest, -⟩ := Option.map_eq_some_iff.1 h
    obtain ⟨b, t, rfl, hb⟩ := ih hline.tail.tail hrest
    exact ⟨'\\' :: d :: b, t, rfl, .escaped d hb⟩
  | case6 d cs => exact ⟨[], d :: cs, rfl, .nil⟩
  | case7 => cases h
  | case8 c d cs hslash hquote _ ih =>
    obtain ⟨⟨m', n'⟩, hrest, -⟩ := Option.map_eq_some_iff.1 h
    obtain ⟨b, t, hsplit, hb⟩ := ih hline.tail hrest
    exact ⟨c :: b, t, by rw [hsplit]; rfl, .plain hslash hquote hb⟩

/-- Three quotes at the front of a text do not depend on what stands behind three others. -/
lemma prefix_quotes_iff (c : Char) (b t : Text) :
    [q, q, q] <+: c :: (b ++ q :: q :: q :: t) ↔ [q, q, q] <+: c :: (b ++ [q, q, q]) := by
  rcases b with _ | ⟨d, _ | ⟨e, b⟩⟩ <;> simp [List.cons_prefix_cons]

/-- A string between triple quotes ends at the first three quotes that no backslash takes. -/
lemma tripleLength?_body (hq : IsQuote q) (h : TripleBody q b)
    (hline : OneLine (b ++ q :: q :: q :: t)) :
    tripleLength? q (b ++ q :: q :: q :: t) = some (b.length + 3) := by
  induction h with
  | nil => simp [tripleLength?, hq.ne.1]
  | @escaped b c _ ih =>
    obtain ⟨d, x, hx⟩ := List.exists_cons_of_ne_nil (show b ++ q :: q :: q :: t ≠ [] by simp)
    have hbehind := ih hline.tail.tail
    rw [hx] at hbehind
    rw [List.cons_append, List.cons_append, hx, tripleLength?, if_pos rfl,
      if_neg hline.tail.head_ne.1, hbehind]
    rfl
  | @plain c b hslash hquotes _ ih =>
    obtain ⟨d, e, x, hx⟩ : ∃ d e x, b ++ q :: q :: q :: t = d :: e :: x := by
      rcases b with _ | ⟨d, _ | ⟨e, b⟩⟩ <;> exact ⟨_, _, _, rfl⟩
    have hbehind := ih hline.tail
    have hnot : ¬ (c = q ∧ d = q ∧ e = q) := by
      rintro ⟨rfl, rfl, rfl⟩
      rw [← prefix_quotes_iff (t := t), hx] at hquotes
      exact hquotes ⟨x, rfl⟩
    rw [hx] at hbehind
    rw [List.cons_append, hx, tripleLength?, if_neg hslash, if_neg hnot, if_neg hline.head_ne.1,
      hbehind]
    rfl

/-- Where the scan finds the end of a string between triple quotes, there is one. -/
lemma exists_tripleBody {n : Nat} (hline : OneLine x) (h : tripleLength? q x = some n) :
    ∃ b t, x = b ++ q :: q :: q :: t ∧ TripleBody q b := by
  fun_induction tripleLength? q x generalizing n with
  | case1 => cases h
  | case2 d e cs _ ih =>
    obtain ⟨n', hrest, -⟩ := Option.map_eq_some_iff.1 h
    obtain ⟨b, t, hsplit, hb⟩ := ih hline.tail.tail hrest
    exact ⟨'\\' :: d :: b, t, by rw [hsplit]; rfl, .escaped d hb⟩
  | case3 c d e cs _ hquotes =>
    obtain ⟨rfl, rfl, rfl⟩ := hquotes
    exact ⟨[], cs, rfl, .nil⟩
  | case4 => cases h
  | case5 c d e cs hslash hquotes _ ih =>
    obtain ⟨n', hrest, -⟩ := Option.map_eq_some_iff.1 h
    obtain ⟨b, t, hsplit, hb⟩ := ih hline.tail hrest
    refine ⟨c :: b, t, by rw [hsplit]; rfl, .plain hslash ?_ hb⟩
    rw [← prefix_quotes_iff (t := t), ← hsplit]
    rintro ⟨r, hr⟩
    cases hr
    exact hquotes ⟨rfl, rfl, rfl⟩
  | case6 => cases h

lemma after?_quotes_iff : Text.after? [q, q] t = none ↔ ¬ [q, q, q] <+: q :: t := by
  rw [List.cons_prefix_cons, Option.eq_none_iff_forall_ne_some]
  constructor
  · rintro h ⟨-, r, rfl⟩
    exact h r (Text.after?_eq_some_iff.2 rfl)
  · rintro h r hr
    exact h ⟨rfl, r, (Text.after?_eq_some_iff.1 hr).symm⟩

/-- The scan stops at a string literal, and behind it. -/
lemma mark?_literal (h : LiteralAt w t) (hline : OneLine (w ++ t)) :
    mark? (w ++ t) = some (.string, w.length) := by
  cases h with
  | @single q b _ hq hb hempty =>
    have hafter : Text.after? [q, q] (b ++ q :: t) = none := by
      rw [after?_quotes_iff]
      rintro ⟨r, hr⟩
      obtain ⟨-, hr⟩ := List.cons.inj hr
      cases hb with
      | nil =>
        obtain ⟨-, hr⟩ := List.cons.inj hr
        exact hempty rfl (by rw [← hr]; rfl)
      | escaped => exact hq.ne.1 (List.cons.inj hr).1
      | plain _ hquote => exact hquote (List.cons.inj hr).1.symm
    rw [List.cons_append, List.append_assoc, List.singleton_append] at hline ⊢
    rw [mark?_quote hq, stringAt?, hafter]
    dsimp only
    rw [stringBody?_body hq hb hline.tail]
    simp
  | @triple q b _ hq hb =>
    have hsplit : q :: q :: q :: (b ++ [q, q, q]) ++ t =
        q :: ([q, q] ++ (b ++ q :: q :: q :: t)) := by simp
    rw [hsplit] at hline ⊢
    rw [mark?_quote hq, stringAt?, Text.after?_eq_some_iff.2 rfl]
    dsimp only
    rw [tripleLength?_body hq hb hline.tail.right]
    simp

/-- The scan passes over a quote without a partner. -/
lemma mark?_lone (hq : IsQuote q) (hnone : NoLiteral (q :: t)) (htriple : ¬ [q, q, q] <+: q :: t)
    (hline : OneLine (q :: t)) : mark? (q :: t) = none := by
  rw [mark?_quote hq, stringAt?, after?_quotes_iff.2 htriple]
  rcases hbody : stringBody? q t with _ | ⟨m, n⟩
  · rfl
  · obtain ⟨b, v, rfl, hb⟩ := exists_body hline.tail hbody
    refine absurd (by simp) (hnone _ v (.single hq hb ?_))
    rintro rfl hhead
    obtain ⟨r, rfl⟩ := List.head?_eq_some_iff.1 hhead
    exact htriple ⟨r, rfl⟩

/-- The scan stops for good at a triple quote without a partner. -/
lemma mark?_unclosed (hq : IsQuote q) (hnone : NoLiteral (q :: t)) (htriple : [q, q, q] <+: q :: t)
    (hline : OneLine (q :: t)) : mark? (q :: t) = some (.rest, (q :: t).length) := by
  obtain ⟨r, hr⟩ := htriple
  obtain rfl : [q, q] ++ r = t := (List.cons.inj hr).2
  rw [mark?_quote hq, stringAt?, Text.after?_eq_some_iff.2 rfl]
  dsimp only
  rcases hbody : tripleLength? q r with _ | n
  · rfl
  · obtain ⟨b, v, rfl, hb⟩ := exists_tripleBody hline.tail.right hbody
    exact absurd (by simp) (hnone _ v (.triple hq hb))

/-! ## What the scan finds -/

/-- What a bracket is to the scan. -/
def markOf (c : Char) : Mark := if isOpening c then .opening c else .closing

lemma mark?_bracket (hc : isOpening c = true ∨ isClosing c = true) (t : Text) :
    mark? (c :: t) = some (markOf c, 1) := by
  simp only [isOpening, isClosing, Bool.or_eq_true, decide_eq_true_eq, or_assoc] at hc
  rcases hc with rfl | rfl | rfl | rfl | rfl | rfl <;> rfl

lemma not_mem_markChars (hmark : c ≠ '#') (hquote : ¬ IsQuote c) (hopening : isOpening c = false)
    (hclosing : isClosing c = false) (hfeed : c ≠ '\n') : c ∉ markChars := by
  simp only [IsQuote, isOpening, isClosing, Bool.or_eq_false_iff, decide_eq_false_iff_not,
    not_or] at hquote hopening hclosing
  simp [markChars, hmark, hquote, hopening, hclosing, hfeed]

/-- What the open brackets become on account of the marks, and the code in front of the comment. -/
lemma Lexed.pieces (h : Lexed line is) (hline : OneLine line) :
    (∀ pending, (Text.findAll mark? line).foldl step pending =
      ((is.filterMap Item.bracket?).map markOf).foldl step pending) ∧
    ∀ seen, (beforeComment? seen (Text.pieces mark? line)).getD (seen ++ line) =
      seen ++ is.flatMap Item.code := by
  -- a character at which no mark begins
  have hpass : ∀ {c : Char} {t : Text} {is : List Item}, mark? (c :: t) = none →
      ((∀ pending, (Text.findAll mark? t).foldl step pending =
        ((is.filterMap Item.bracket?).map markOf).foldl step pending) ∧
      ∀ seen, (beforeComment? seen (Text.pieces mark? t)).getD (seen ++ t) =
        seen ++ is.flatMap Item.code) →
      (∀ pending, (Text.findAll mark? (c :: t)).foldl step pending =
        (((Item.plain c :: is).filterMap Item.bracket?).map markOf).foldl step pending) ∧
      ∀ seen, (beforeComment? seen (Text.pieces mark? (c :: t))).getD (seen ++ c :: t) =
        seen ++ (Item.plain c :: is).flatMap Item.code := by
    intro c t is hnone ih
    refine ⟨fun pending => by rw [Text.findAll_cons hnone]; exact ih.1 pending, fun seen => ?_⟩
    have hrest := ih.2 (seen ++ [c])
    rw [Text.pieces_cons hnone, beforeComment?_cons]
    simpa [Item.code, Item.text] using hrest
  -- a mark that is no comment
  have hstop : ∀ {m : Mark} {w t : Text}, w ≠ [] → m ≠ .comment →
      mark? (w ++ t) = some (m, w.length) → ∀ {code : Text},
      (∀ seen, (beforeComment? seen (Text.pieces mark? t)).getD (seen ++ t) = seen ++ code) →
      ∀ seen, (beforeComment? seen (Text.pieces mark? (w ++ t))).getD (seen ++ (w ++ t)) =
        seen ++ (w ++ code) := by
    intro m w t hw hm hfound code ih seen
    have hrest := ih (seen ++ w)
    rw [Text.pieces_found hw hfound, beforeComment?_found hm]
    simpa using hrest
  induction h with
  | nil => exact ⟨fun _ => rfl, fun seen => rfl⟩
  | @plain c t is hmark hquote hopening hclosing _ ih =>
    have hc := not_mem_markChars hmark hquote hopening hclosing hline.head_ne.1
    exact hpass (mark?_eq_none t hc) (ih hline.tail)
  | @lone q t is hq hnone htriple _ ih =>
    exact hpass (mark?_lone hq hnone htriple hline) (ih hline.tail)
  | @bracket c t is hc _ ih =>
    have hfound : mark? ([c] ++ t) = some (markOf c, [c].length) := mark?_bracket hc t
    have hm : markOf c ≠ .comment := by
      unfold markOf
      split <;> nofun
    obtain ⟨hmarks, hcode⟩ := ih hline.tail
    refine ⟨fun pending => ?_, hstop (List.cons_ne_nil c []) hm hfound hcode⟩
    have hfind := Text.findAll_found (List.cons_ne_nil c []) hfound
    rw [List.singleton_append] at hfind
    rw [hfind]
    exact hmarks (step pending (markOf c))
  | @literal w t is hw _ ih =>
    have hfound := mark?_literal hw hline
    obtain ⟨hmarks, hcode⟩ := ih hline.right
    refine ⟨fun pending => ?_, hstop hw.ne_nil (by decide) hfound hcode⟩
    rw [Text.findAll_found hw.ne_nil hfound]
    exact hmarks pending
  | @unclosed q t hq hnone htriple =>
    have hfound : mark? (q :: t ++ []) = some (.rest, (q :: t).length) := by
      rw [List.append_nil]
      exact mark?_unclosed hq hnone htriple hline
    have hcode := hstop (List.cons_ne_nil q t) (by decide) hfound fun seen => rfl
    rw [List.append_nil] at hcode
    refine ⟨fun pending => ?_, by simpa [Item.code, Item.text] using hcode⟩
    have hfind := Text.findAll_found (List.cons_ne_nil q t) hfound
    rw [List.append_nil] at hfind
    rw [hfind]
    rfl
  | comment t =>
    rw [Text.findAll_eq_filterMap, pieces_comment hline.tail.1 hline.tail.2]
    exact ⟨fun _ => rfl, fun seen => by simp [beforeComment?, Item.code]⟩

/-- A character that means nothing to the scan in front of a line. -/
lemma Lexed.of_cons (h : Lexed (c :: t) is) (hmark : c ≠ '#') (hquote : ¬ IsQuote c)
    (hopening : isOpening c = false) (hclosing : isClosing c = false) :
    ∃ is', is = .plain c :: is' ∧ Lexed t is' := by
  generalize hline : c :: t = line at h
  cases h with
  | nil => cases hline
  | plain _ _ _ _ h =>
    cases hline
    exact ⟨_, rfl, h⟩
  | bracket hc _ =>
    cases hline
    simp [hopening, hclosing] at hc
  | literal hw _ =>
    cases hw with
    | single hq => exact absurd ((List.cons.inj hline).1 ▸ hq) hquote
    | triple hq => exact absurd ((List.cons.inj hline).1 ▸ hq) hquote
  | lone hq =>
    cases hline
    exact absurd hq hquote
  | unclosed hq =>
    cases hline
    exact absurd hq hquote
  | comment =>
    cases hline
    exact absurd rfl hmark

/-- The sign of a comment in front of a line. -/
lemma Lexed.of_comment (h : Lexed ('#' :: t) is) : is = [.comment ('#' :: t)] := by
  have hquote : ¬ IsQuote '#' := by simp [IsQuote]
  generalize hline : '#' :: t = line at h
  cases h with
  | nil => cases hline
  | plain hmark =>
    cases hline
    exact absurd rfl hmark
  | bracket hc _ =>
    cases hline
    exact absurd hc (by decide)
  | literal hw _ =>
    cases hw with
    | single hq => exact absurd ((List.cons.inj hline).1 ▸ hq) hquote
    | triple hq => exact absurd ((List.cons.inj hline).1 ▸ hq) hquote
  | lone hq =>
    cases hline
    exact absurd hq hquote
  | unclosed hq =>
    cases hline
    exact absurd hq hquote
  | comment => rfl

/-- A line that is a comment behind blanks. -/
lemma Lexed.of_remark (h : Lexed line is)
    (hfirst : (line.drop (indentation line).length).head? = some '#') :
    is.filterMap Item.bracket? = [] ∧ is.flatMap Item.code = indentation line := by
  induction line generalizing is with
  | nil => cases hfirst
  | cons c t ih =>
    by_cases hc : (c = ' ' || c = '\t' || c = '\x0c') = true
    · have hblanks : indentation (c :: t) = c :: indentation t := by
        rw [indentation, List.takeWhile_cons, if_pos hc]
        rfl
      obtain ⟨hmark, hquote, hopening, hclosing⟩ :
          c ≠ '#' ∧ ¬ IsQuote c ∧ isOpening c = false ∧ isClosing c = false := by
        simp only [Bool.or_eq_true, decide_eq_true_eq] at hc
        rcases hc with (rfl | rfl) | rfl <;> exact ⟨by decide, by simp [IsQuote], rfl, rfl⟩
      obtain ⟨is, rfl, hrest⟩ := h.of_cons hmark hquote hopening hclosing
      rw [hblanks] at hfirst ⊢
      obtain ⟨hbrackets, hcode⟩ := ih hrest hfirst
      exact ⟨hbrackets, by rw [List.flatMap_cons, hcode]; rfl⟩
    · have hblanks : indentation (c :: t) = [] := by
        rw [indentation, List.takeWhile_cons, if_neg hc]
      rw [hblanks] at hfirst ⊢
      obtain rfl : c = '#' := Option.some.inj hfirst
      obtain rfl := h.of_comment
      exact ⟨rfl, rfl⟩

/-- What the scan makes of a line, by how it is read. -/
lemma scan_of_lexed (h : Lexed line is) (hline : OneLine line) (pending : List Char) :
    scan line pending =
      ⟨is.flatMap Item.code, ((is.filterMap Item.bracket?).map markOf).foldl step pending⟩ := by
  obtain ⟨hmarks, hcode⟩ := h.pieces hline
  have hcode := hcode []
  rw [List.nil_append, List.nil_append] at hcode
  refine scan_of_pieces hline.2 hmarks hcode (fun hfirst => ?_) pending
  obtain ⟨hbrackets, hblanks⟩ := h.of_remark hfirst
  rw [hbrackets]
  exact ⟨rfl, hblanks⟩

/-! ## Brackets without a partner -/

/-- Brackets that all have a partner, of whatever kind: a closing bracket is the partner of the nearest
one before it that is open. -/
inductive Balanced : List Char → Prop where
  | nil : Balanced []
  | pair {o c : Char} {bs cs : List Char} (ho : isOpening o = true) (hc : isClosing c = true)
      (hin : Balanced bs) (hout : Balanced cs) : Balanced (o :: (bs ++ c :: cs))

/-- How many of the brackets close none of the others, and which of them the others do not close. -/
inductive Unmatched : List Char → Nat → List Char → Prop where
  | none {bs : List Char} (hb : Balanced bs) : Unmatched bs 0 []
  | opening {bs cs p : List Char} {o : Char} (hb : Balanced bs) (ho : isOpening o = true)
      (h : Unmatched cs 0 p) : Unmatched (bs ++ o :: cs) 0 (o :: p)
  | closing {bs cs p : List Char} {c : Char} {k : Nat} (hb : Balanced bs) (hc : isClosing c = true)
      (h : Unmatched cs k p) : Unmatched (bs ++ c :: cs) (k + 1) p

variable {bs cs p : List Char} {k : Nat}

lemma Balanced.append (hb : Balanced bs) (hc : Balanced cs) : Balanced (bs ++ cs) := by
  induction hb with
  | nil => exact hc
  | pair ho hclosing hin _ _ ih =>
    rw [List.cons_append, List.append_assoc, List.cons_append]
    exact .pair ho hclosing hin ih

lemma Unmatched.append_left (hb : Balanced bs) (h : Unmatched cs k p) : Unmatched (bs ++ cs) k p := by
  cases h with
  | none hcs => exact .none (hb.append hcs)
  | opening hcs ho h =>
    rw [← List.append_assoc]
    exact .opening (hb.append hcs) ho h
  | closing hcs hc h =>
    rw [← List.append_assoc]
    exact .closing (hb.append hcs) hc h

/-- Each bracket has a partner or has none. -/
theorem exists_unmatched (hbs : ∀ c ∈ bs, isOpening c = true ∨ isClosing c = true) :
    ∃ k p, Unmatched bs k p := by
  induction bs with
  | nil => exact ⟨0, [], .none .nil⟩
  | cons c bs ih =>
    obtain ⟨hc, hbs⟩ := List.forall_mem_cons.1 hbs
    obtain ⟨k, p, h⟩ := ih hbs
    rcases hc with hopening | hclosing
    · cases h with
      | none hb => exact ⟨0, [c], .opening .nil hopening (.none hb)⟩
      | opening hb ho h => exact ⟨0, _, .opening .nil hopening (.opening hb ho h)⟩
      -- the first bracket that closes none of those behind `c` closes `c`
      | @closing bs cs _ d k hb hd h =>
        have hpair : Balanced (c :: (bs ++ [d])) := .pair hopening hd hb .nil
        exact ⟨k, p, by simpa using h.append_left hpair⟩
    · exact ⟨k + 1, p, .closing .nil hclosing h⟩

lemma Lexed.brackets (h : Lexed line is) :
    ∀ c ∈ is.filterMap Item.bracket?, isOpening c = true ∨ isClosing c = true := by
  induction h with
  | nil => exact fun c hc => absurd hc List.not_mem_nil
  | plain _ _ _ _ _ ih => exact ih
  | bracket hc _ ih => exact List.forall_mem_cons.2 ⟨hc, ih⟩
  | literal _ _ ih => exact ih
  | lone _ _ _ _ ih => exact ih
  | unclosed => exact fun c hc => absurd hc List.not_mem_nil
  | comment => exact fun c hc => absurd hc List.not_mem_nil

/-! ## The open brackets -/

lemma step_opening (hc : isOpening c = true) (pending : List Char) :
    step pending (markOf c) = pending ++ [c] := by
  rw [markOf, if_pos hc]
  rfl

lemma step_closing (hc : isClosing c = true) (pending : List Char) :
    step pending (markOf c) = pending.dropLast := by
  have hopening : isOpening c = false := by
    simp only [isClosing, Bool.or_eq_true, decide_eq_true_eq] at hc
    rcases hc with (rfl | rfl) | rfl <;> rfl
  rw [markOf, hopening]
  rfl

/-- Brackets that all have a partner leave the open ones alone. -/
lemma Balanced.foldl_step (h : Balanced bs) (pending : List Char) :
    (bs.map markOf).foldl step pending = pending := by
  induction h generalizing pending with
  | nil => rfl
  | @pair o c bs cs ho hc _ _ ihin ihout =>
    rw [List.map_cons, List.foldl_cons, step_opening ho, List.map_append, List.foldl_append, ihin,
      List.map_cons, List.foldl_cons, step_closing hc, List.dropLast_concat, ihout]

/-- Brackets take as many open ones away as close none of them, if there are as many, and leave those
that they do not close. -/
theorem Unmatched.foldl_step (h : Unmatched bs k p) (pending : List Char) :
    (bs.map markOf).foldl step pending = pending.take (pending.length - k) ++ p := by
  induction h generalizing pending with
  | none hb =>
    rw [hb.foldl_step, Nat.sub_zero, List.take_length, List.append_nil]
  | opening hb ho _ ih =>
    rw [List.map_append, List.foldl_append, hb.foldl_step, List.map_cons, List.foldl_cons,
      step_opening ho, ih, Nat.sub_zero, List.take_length, Nat.sub_zero, List.take_length,
      List.append_assoc, List.singleton_append]
  | @closing bs cs p c k hb hc _ ih =>
    have hfewer : min (pending.length - 1 - k) (pending.length - 1) = pending.length - (k + 1) := by
      omega
    rw [List.map_append, List.foldl_append, hb.foldl_step, List.map_cons, List.foldl_cons,
      step_closing hc, ih, List.length_dropLast, List.dropLast_eq_take, List.take_take, hfewer]

/-- **A line is scanned in the same way behind any open brackets**, whether they are handed to the scan
or written in front of the line and passed over.  Its code is the line or the line in front of a
comment, which is no part of a string literal.  It takes as many open brackets away as there are closing
brackets on it that have no partner there, or all of them if they are fewer, and puts on them its own
opening brackets that have no partner. -/
theorem scan_behind_brackets (line : Text) (hfeed : '\n' ∉ line) (hreturn : '\r' ∉ line) :
    (∀ pending, (∀ c ∈ pending, isOpening c = true) → replay line pending = scan line pending) ∧
    (∃ is k p, Lexed line is ∧ Unmatched (is.filterMap Item.bracket?) k p) ∧
    ∀ is k p, Lexed line is → Unmatched (is.filterMap Item.bracket?) k p →
      is.flatMap Item.code <+: line ∧
      (is.flatMap Item.code = line ∨
        ∃ front t, is = front ++ [.comment ('#' :: t)] ∧ line = is.flatMap Item.code ++ '#' :: t) ∧
      ∀ pending, scan line pending =
        ⟨is.flatMap Item.code, pending.take (pending.length - k) ++ p⟩ := by
  refine ⟨fun pending hpending => replay_eq_scan hpending line, ?_, ?_⟩
  · obtain ⟨is, his⟩ := exists_lexed line
    obtain ⟨k, p, hp⟩ := exists_unmatched his.brackets
    exact ⟨is, k, p, his, hp⟩
  · intro is k p his hp
    have hcode := his.code_cases
    refine ⟨?_, ?_, fun pending => ?_⟩
    · rcases hcode with hcode | ⟨front, t, -, hcode, hline⟩
      · exact ⟨[], by rw [List.append_nil, hcode]⟩
      · exact ⟨'#' :: t, by rw [hcode, ← hline]⟩
    · refine hcode.imp id ?_
      rintro ⟨front, t, hsplit, hcode, hline⟩
      exact ⟨front, t, hsplit, by rw [hcode, ← hline]⟩
    · rw [scan_of_lexed his ⟨hfeed, hreturn⟩, hp.foldl_step]

/-- A closing bracket, a string literal, an opening bracket and a comment: one open bracket is taken
away, where there is one, and another is put in its place. -/
theorem scan_behind_brackets_comment :
    let line := ")'#('[#(".toList
    ('\n' ∉ line ∧ '\r' ∉ line) ∧
      (∀ pending, scan line pending =
        ⟨")'#('[".toList, pending.take (pending.length - 1) ++ ['[']⟩) ∧
      replay line ['(', '{'] = ⟨")'#('[".toList, ['(', '[']⟩ := by
  intro line
  have hfeed : '\n' ∉ line := by decide
  have hreturn : '\r' ∉ line := by decide
  have hliteral : LiteralAt "'#('".toList "[#(".toList :=
    .single (.inl rfl) (.plain (by decide) (by decide) (.plain (by decide) (by decide) .nil)) nofun
  have hlexed : Lexed line
      [.bracket ')', .literal "'#('".toList, .bracket '[', .comment "#(".toList] :=
    .bracket (.inr rfl) (.literal hliteral (.bracket (.inl rfl) (.comment ['('])))
  have hunmatched : Unmatched [')', '['] 1 ['['] := .closing .nil rfl (.opening .nil rfl (.none .nil))
  obtain ⟨hreplay, -, hall⟩ := scan_behind_brackets line hfeed hreturn
  obtain ⟨-, -, hscan⟩ := hall _ 1 ['['] hlexed hunmatched
  have hopening : ∀ c ∈ ['(', '{'], isOpening c = true := by simp [isOpening]
  exact ⟨⟨hfeed, hreturn⟩, hscan, (hreplay _ hopening).trans (hscan _)⟩

end ViewEngine.Brackets

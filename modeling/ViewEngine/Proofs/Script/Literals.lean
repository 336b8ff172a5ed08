/-
# Literals

String literals and numbers are read twice: by whatever cuts a script into tokens, and by the scan of
a line of code.  A string literal on one line is the same for both.  A number has no character at
which the scan would stop, and its token is no bracket.

* `TokenKind.weight`: which tokens are brackets;
* `isMarked_literal`: a string literal on one line;
* `counted_numberAt`: the characters of a number.
-/
import Mathlib
import ViewEngine.Proofs.Code.Reading
import ViewEngine.Proofs.Script.Lexing

namespace ViewEngine.Script

open Brackets (IsMarked mark?)

/-! ## Brackets among tokens -/

namespace TokenKind

/-- By how many the brackets that are open grow with a token. -/
def weight : TokenKind → Int
  | .op ['('] | .op ['['] | .op ['{'] => 1
  | .op [')'] | .op [']'] | .op ['}'] => -1
  | _ => 0

/-- A token that is neither a bracket nor the end of the script. -/
structure Ordinary (k : TokenKind) : Prop where
  not_finish : k ≠ .finish
  weight_eq : k.weight = 0

/-- Is the token a number? -/
def isNumber : TokenKind → Bool
  | int .. | float .. => true
  | _ => false

lemma ordinary_of_isNumber {k : TokenKind} (h : k.isNumber = true) : k.Ordinary := by
  cases k with
  | int | float => exact ⟨by simp, rfl⟩
  | _ => cases h

lemma isMark_of_isNumber {k : TokenKind} (h : k.isNumber = true) : k.isMark = false := by
  cases k with
  | int | float => rfl
  | _ => cases h

end TokenKind

/-! ## String literals -/

section

variable {q : Char} {t body : Text} {n : Nat}

lemma ne_backslash_of_quote (hq : q = '\'' ∨ q = '"') : q ≠ '\\' ∧ q ≠ '\n' := by
  rcases hq with rfl | rfl <;> decide

lemma closed_of_quote (hq : q = '\'' ∨ q = '"') : Text.isBlank q = false ∧ q ≠ ':' := by
  rcases hq with rfl | rfl <;> decide

lemma ne_nil_of_quote (body v : Text) : body ++ q :: v ≠ [] := by simp

/-- **Both readers find the end of a literal in single quotes** at the same place. -/
lemma stringBody?_eq_some (hq : q = '\'' ∨ q = '"') (h : stringBody? q false t = some (body, n))
    (hfeed : '\n' ∉ body) (hreturn : '\r' ∉ t) :
    n = body.length + 1 ∧ (∃ v, t = body ++ q :: v) ∧
      ∀ v, Brackets.stringBody? q (body ++ q :: v) = some (.string, body.length + 1) := by
  have hslash := (ne_backslash_of_quote hq).1
  have hend : ∀ v, Brackets.stringBody? q (q :: v) = some (.string, 1) := by
    intro v
    cases v with
    | nil => simp [Brackets.stringBody?]
    | cons c v => simp [Brackets.stringBody?, hslash]
  fun_induction stringBody? q false t generalizing body n with
  | case1 => cases h
  | case2 c hc =>
    cases h
    obtain rfl : c = q := by simpa using hc
    exact ⟨rfl, ⟨[], rfl⟩, hend⟩
  | case3 => cases h
  -- a backslash and the character that it takes with it
  | case4 d rest ih =>
    obtain ⟨⟨body, n⟩, hrest, heq⟩ := Option.map_eq_some_iff.1 h
    cases heq
    simp only [List.mem_cons, not_or] at hfeed hreturn
    obtain ⟨rfl, ⟨v, rfl⟩, htaken⟩ := ih hrest hfeed.2.2 hreturn.2.2
    refine ⟨rfl, ⟨v, rfl⟩, fun v => ?_⟩
    rw [List.cons_append, List.cons_append, Brackets.stringBody?, if_pos rfl, htaken]
    simp [Ne.symm hfeed.2.1, Ne.symm hreturn.2.1]
  | case5 _ _ _ _ htriple => cases htriple
  | case6 _ _ _ _ htriple => cases htriple
  | case7 =>
    cases h
    exact ⟨rfl, ⟨_, rfl⟩, hend⟩
  | case8 => cases h
  | case9 c d rest hc _ hcq hcn ih =>
    obtain ⟨⟨body, n⟩, hrest, heq⟩ := Option.map_eq_some_iff.1 h
    cases heq
    simp only [List.mem_cons, not_or] at hfeed hreturn
    have hreturn' : '\r' ∉ d :: rest := by simpa only [List.mem_cons, not_or] using hreturn.2
    obtain ⟨rfl, ⟨v, hv⟩, htaken⟩ := ih hrest hfeed.2 hreturn'
    refine ⟨rfl, ⟨v, by rw [hv]; rfl⟩, fun v => ?_⟩
    have hbehind := htaken v
    obtain ⟨e, x, hx⟩ := List.exists_cons_of_ne_nil (ne_nil_of_quote (q := q) body v)
    rw [List.cons_append, hx, Brackets.stringBody?, if_neg hc, if_neg hcq, if_neg hcn, ← hx, htaken]
    rfl

/-- **Both readers find the end of a literal in triple quotes** at the same place. -/
lemma tripleBody?_eq_some (hq : q = '\'' ∨ q = '"') (h : stringBody? q true t = some (body, n))
    (hfeed : '\n' ∉ body) :
    n = body.length + 3 ∧ (∃ v, t = body ++ q :: q :: q :: v) ∧
      ∀ v, Brackets.tripleLength? q (body ++ q :: q :: q :: v) = some (body.length + 3) := by
  have hslash := (ne_backslash_of_quote hq).1
  have hend : ∀ v, Brackets.tripleLength? q (q :: q :: q :: v) = some 3 := by
    intro v
    simp [Brackets.tripleLength?, hslash]
  fun_induction stringBody? q true t generalizing body n with
  | case1 => cases h
  | case2 c hc => simp at hc
  | case3 => cases h
  | case4 d rest ih =>
    obtain ⟨⟨body, n⟩, hrest, heq⟩ := Option.map_eq_some_iff.1 h
    cases heq
    simp only [List.mem_cons, not_or] at hfeed
    obtain ⟨rfl, ⟨v, rfl⟩, htaken⟩ := ih hrest hfeed.2.2
    refine ⟨rfl, ⟨v, rfl⟩, fun v => ?_⟩
    have hbehind := htaken v
    obtain ⟨e, x, hx⟩ := List.exists_cons_of_ne_nil (ne_nil_of_quote (q := q) body (q :: q :: v))
    rw [List.cons_append, List.cons_append, hx, Brackets.tripleLength?, if_pos rfl,
      if_neg (Ne.symm hfeed.2.1), ← hx, htaken]
    rfl
  | case5 c d rest hc _ hquotes =>
    cases h
    obtain ⟨rfl, rfl, hhead⟩ := hquotes
    obtain ⟨v, rfl⟩ := List.head?_eq_some_iff.1 hhead
    exact ⟨rfl, ⟨v, rfl⟩, hend⟩
  | case6 c d rest hc _ hquotes ih =>
    obtain ⟨⟨body, n⟩, hrest, heq⟩ := Option.map_eq_some_iff.1 h
    cases heq
    simp only [List.mem_cons, not_or] at hfeed
    obtain ⟨rfl, ⟨v, hv⟩, htaken⟩ := ih hrest hfeed.2
    refine ⟨rfl, ⟨v, by rw [hv]; rfl⟩, fun v' => ?_⟩
    -- the next two characters do not depend on what stands behind the literal
    obtain ⟨e, x, hx, he⟩ : ∃ e x, body ++ q :: q :: q :: v' = d :: e :: x ∧ rest.head? = some e := by
      rcases body with _ | ⟨a, _ | ⟨b, body⟩⟩ <;> cases hv <;> exact ⟨_, _, rfl, rfl⟩
    have hbehind := htaken v'
    have hcn : c ≠ '\n' := Ne.symm hfeed.1
    rw [hx] at hbehind
    rw [List.cons_append, hx, Brackets.tripleLength?, if_neg hc, if_neg ?_, if_neg hcn, hbehind]
    · rfl
    · rintro ⟨rfl, rfl, rfl⟩
      exact hquotes ⟨rfl, rfl, he⟩
  | case7 _ _ htriple => exact absurd rfl htriple
  | case8 _ _ htriple => exact absurd rfl htriple
  | case9 _ _ _ _ htriple => exact absurd rfl htriple

/-- A string literal that lies on one line is a mark for the scan, in front of whatever may follow
it. -/
lemma isMarked_literal {rest : Text} (hq : q = '\'' ∨ q = '"')
    (h : stringBody? q (Text.startsWith [q, q] rest)
      (rest.drop ((if Text.startsWith [q, q] rest then 3 else 1) - 1)) = some (body, n))
    (hfeed : '\n' ∉ body) (hreturn : '\r' ∉ rest) :
    ∃ w v, q :: rest = w ++ v ∧
      w.length = (if Text.startsWith [q, q] rest then 3 else 1) + n ∧ IsMarked w .string v.head? := by
  have hclosed := closed_of_quote hq
  have hline := (ne_backslash_of_quote hq).2
  have hquote : ∀ x : Text, mark? (q :: x) = Brackets.stringAt? q x := by
    intro x
    rcases hq with rfl | rfl <;> rfl
  rcases htriple : Text.startsWith [q, q] rest with _ | _
  · rw [htriple] at h
    obtain ⟨rfl, ⟨v, hv⟩, htaken⟩ := stringBody?_eq_some hq h hfeed hreturn
    obtain rfl : rest = body ++ q :: v := hv
    refine ⟨q :: (body ++ [q]), v, by simp, by simp; omega, ⟨q :: body, q, rfl, hclosed⟩,
      by simp [Ne.symm hline, hfeed], by decide, ?_⟩
    intro v' hv'
    -- whether it is a triple quote is seen at two characters, of which the second may lie behind it
    have hafter : Text.after? [q, q] (body ++ q :: v') = none := by
      have hnone : Text.after? [q, q] (body ++ q :: v) = none := by
        simpa [Text.startsWith] using htriple
      rcases body with _ | ⟨a, _ | ⟨b, body⟩⟩
      · rcases v' with _ | ⟨c, v'⟩
        · simp [Text.after?]
        · obtain ⟨x, rfl⟩ := List.head?_eq_some_iff.1 (hv'.resolve_left (by simp)).symm
          simpa [Text.after?] using hnone
      · simpa [Text.after?] using hnone
      · simpa [Text.after?] using hnone
    rw [List.cons_append, List.append_assoc, List.singleton_append, hquote, Brackets.stringAt?,
      hafter]
    dsimp only
    rw [htaken]
    simp
  · obtain ⟨r, hr⟩ := Option.isSome_iff_exists.1 htriple
    obtain rfl : rest = [q, q] ++ r := Text.after?_eq_some_iff.1 hr
    rw [htriple] at h
    obtain ⟨rfl, ⟨v, hv⟩, htaken⟩ := tripleBody?_eq_some hq h hfeed
    obtain rfl : r = body ++ q :: q :: q :: v := hv
    refine ⟨q :: q :: q :: (body ++ [q, q, q]), v, by simp, by simp; omega,
      ⟨q :: q :: q :: (body ++ [q, q]), q, by simp, hclosed⟩,
      by simp [Ne.symm hline, hfeed], by decide, ?_⟩
    intro v' _
    have hafter : Text.after? [q, q] (q :: q :: (body ++ [q, q, q] ++ v')) =
        some (body ++ q :: q :: q :: v') := Text.after?_eq_some_iff.2 (by simp)
    rw [List.cons_append, List.cons_append, List.cons_append, hquote, Brackets.stringAt?, hafter]
    dsimp only
    rw [htaken]
    simp

end

/-! ## Numbers -/

/-- May the character stand in a number? -/
def isNumberChar (c : Char) : Bool := c.isAlphanum || c = '_' || c = '.' || c = '+' || c = '-'

/-- The second text is what follows characters of a number at the front of the first. -/
def Counted (t r : Text) : Prop := ∃ w, t = w ++ r ∧ ∀ c ∈ w, isNumberChar c = true

namespace Counted

variable {t u r : Text}

lemma refl (t : Text) : Counted t t := ⟨[], rfl, fun _ hc => absurd hc List.not_mem_nil⟩

lemma cons {c : Char} (hc : isNumberChar c = true) (h : Counted t r) : Counted (c :: t) r := by
  obtain ⟨w, rfl, hw⟩ := h
  exact ⟨c :: w, rfl, List.forall_mem_cons.2 ⟨hc, hw⟩⟩

lemma trans (h : Counted t u) (h' : Counted u r) : Counted t r := by
  obtain ⟨w, rfl, hw⟩ := h
  obtain ⟨w', rfl, hw'⟩ := h'
  refine ⟨w ++ w', by rw [List.append_assoc], fun c hc => ?_⟩
  exact (List.mem_append.1 hc).elim (hw c) (hw' c)

end Counted

lemma isNumberChar_of_isDigit {c : Char} (h : c.isDigit = true) : isNumberChar c = true := by
  simp [isNumberChar, Char.isAlphanum, h]

lemma isNumberChar_of_isDigitIn {base : Nat} {c : Char} (h : isDigitIn base c = true) :
    isNumberChar c = true := by
  unfold isDigitIn at h
  split at h
  · rcases Bool.or_eq_true _ _ ▸ h with h | h
    · exact isNumberChar_of_isDigit h
    · by_cases hupper : c.isUpper = true
      · simp [isNumberChar, Char.isAlphanum, Char.isAlpha, hupper]
      -- a small letter up to `f`
      · have hsame : c.toLower = c := by
          rw [Char.isUpper, decide_eq_true_eq] at hupper
          rw [Char.toLower, dif_neg hupper]
        rw [hsame, Bool.and_eq_true, decide_eq_true_eq, decide_eq_true_eq] at h
        have hlower : c.isLower = true := by
          rw [Char.isLower, Bool.and_eq_true, decide_eq_true_eq, decide_eq_true_eq]
          exact ⟨h.1, Char.le_trans h.2 (by decide)⟩
        simp [isNumberChar, Char.isAlphanum, Char.isAlpha, hlower]
  · exact isNumberChar_of_isDigit (Bool.and_eq_true _ _ ▸ h).1

lemma counted_digitsFrom {isDigit : Char → Bool} {base value count : Nat} {t : Text}
    {p : Nat × Nat × Text} (hdigit : ∀ c, isDigit c = true → isNumberChar c = true)
    (h : digitsFrom isDigit base value count t = some p) : Counted t p.2.2 := by
  fun_induction digitsFrom isDigit base value count t with
  | case1 =>
    cases h
    exact .refl []
  | case2 _ _ c cs hc ih => exact .cons (hdigit c hc) (ih h)
  | case3 _ _ d ds _ hd ih => exact .cons rfl (.cons (hdigit _ ‹_›) (ih h))
  | case4 => cases h
  | case5 => cases h
  | case6 =>
    cases h
    exact .refl _

lemma counted_basedNumber {base : Nat} {t : Text} {p : TokenKind × Text}
    (h : basedNumber base t = some p) : Counted t p.2 ∧ p.1.isNumber = true := by
  unfold basedNumber at h
  dsimp only at h
  have hfront : Counted t (if t.head? = some '_' then t.tail else t) := by
    split
    · next hhead =>
      obtain ⟨cs, rfl⟩ := List.head?_eq_some_iff.1 hhead
      exact .cons rfl (.refl cs)
    · exact .refl t
  generalize (if t.head? = some '_' then t.tail else t) = digits at h hfront
  split at h
  · split at h
    · split at h
      · next hdigits =>
        split at h
        · cases h
        · cases h
          have hback := counted_digitsFrom (fun c => isNumberChar_of_isDigitIn) hdigits
          exact ⟨hfront.trans hback, rfl⟩
      · cases h
    · cases h
  · cases h

/-- What the digits of an exponent are, if there are any. -/
lemma counted_exponentDigits {negative signed : Bool} {ds r : Text} {e : Int}
    (h : (if ds.head?.any Char.isDigit then
        match digitsFrom Char.isDigit 10 0 0 ds with
        | some (v, _, r) => some (some (if negative then -(v : Int) else v, r))
        | none => none
      else if signed then none
      else some none) = some (some (e, r))) : Counted ds r := by
  split at h
  · split at h
    · next hdigits =>
      cases h
      exact counted_digitsFrom (fun c => isNumberChar_of_isDigit) hdigits
    · cases h
  · split at h <;> cases h

lemma counted_exponentAt {t r : Text} {e : Int} (h : exponentAt t = some (some (e, r))) :
    Counted t r := by
  unfold exponentAt at h
  split at h
  · next c rest =>
    split at h
    · next hc =>
      have hletter : isNumberChar c = true := by rcases hc with rfl | rfl <;> rfl
      refine .cons hletter ?_
      dsimp only at h
      split at h
      · exact .cons rfl (counted_exponentDigits h)
      · exact .cons rfl (counted_exponentDigits h)
      · exact counted_exponentDigits h
    · cases h
  · cases h

lemma counted_decimalRest {whole count : Nat} {zeros : Bool} {t : Text} {p : TokenKind × Text}
    (h : decimalRest whole count zeros t = some p) : Counted t p.2 ∧ p.1.isNumber = true := by
  unfold decimalRest at h
  extract_lets rest at h
  -- behind the digits
  have hrest : ∀ x, rest x = some p → Counted x.2.2.2 p.2 ∧ p.1.isNumber = true := by
    have hkind : ∀ (digits scale : Nat) (exponent : Int) (isFloat : Bool) (v : Text),
        (if !endsNumber v then none
          else if isFloat then some (.float digits (exponent - scale), v)
          else if zeros && digits ≠ 0 then none
          else some (.int digits (if zeros then 0 else count), v)) = some p →
        p.2 = v ∧ p.1.isNumber = true := by
      intro digits scale exponent isFloat v h
      split at h
      · cases h
      split at h
      · cases h
        exact ⟨rfl, rfl⟩
      split at h
      · cases h
      · cases h
        exact ⟨rfl, rfl⟩
    rintro ⟨digits, scale, isFloat, u⟩ h
    obtain ⟨o, ho, h⟩ := Option.bind_eq_some_iff.1 h
    rcases o with _ | ⟨e, r⟩
    · obtain ⟨hv, hp⟩ := hkind _ _ _ _ _ h
      exact ⟨hv ▸ .refl u, hp⟩
    · obtain ⟨hv, hp⟩ := hkind _ _ _ _ _ h
      exact ⟨hv ▸ counted_exponentAt ho, hp⟩
  clear_value rest
  split at h
  · next ds =>
    split at h
    · split at h
      · next hread =>
        obtain ⟨hcounted, hp⟩ := hrest _ h
        refine ⟨.cons rfl (.trans ?_ hcounted), hp⟩
        exact counted_digitsFrom (fun c => isNumberChar_of_isDigit) hread
      · cases h
    · obtain ⟨hcounted, hp⟩ := hrest _ h
      exact ⟨.cons rfl hcounted, hp⟩
  · exact hrest _ h

lemma counted_numberAt {t : Text} {p : TokenKind × Text} (h : numberAt t = some p) :
    Counted t p.2 ∧ p.1.isNumber = true := by
  have hdigits : ∀ {v n : Nat} {r : Text} {t : Text} {zeros : Bool},
      digitsFrom Char.isDigit 10 0 0 t = some (v, n, r) → decimalRest v n zeros r = some p →
        Counted t p.2 ∧ p.1.isNumber = true := by
    intro v n r t zeros hdigits h
    obtain ⟨hcounted, hp⟩ := counted_decimalRest h
    exact ⟨(counted_digitsFrom (fun c => isNumberChar_of_isDigit) hdigits).trans hcounted, hp⟩
  have hbased : ∀ {base : Nat} {c : Char} {rest : Text}, isNumberChar c = true →
      basedNumber base rest = some p → Counted ('0' :: c :: rest) p.2 ∧ p.1.isNumber = true := by
    intro base c rest hc h
    obtain ⟨hcounted, hp⟩ := counted_basedNumber h
    exact ⟨.cons rfl (.cons hc hcounted), hp⟩
  unfold numberAt at h
  split at h
  · next c rest =>
    split at h
    · next hc => exact hbased (by rcases hc with rfl | rfl <;> rfl) h
    split at h
    · next hc => exact hbased (by rcases hc with rfl | rfl <;> rfl) h
    split at h
    · next hc => exact hbased (by rcases hc with rfl | rfl <;> rfl) h
    split at h
    · next hread => exact hdigits hread h
    · cases h
  · exact counted_decimalRest h
  · split at h
    · next hread => exact hdigits hread h
    · cases h

end ViewEngine.Script

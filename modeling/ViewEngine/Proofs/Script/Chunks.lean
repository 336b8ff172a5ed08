/-
# What one look takes

A script is cut into tokens by looking at the front of what is left of it, again and again.  Here it
is said for each look what characters it takes, and how the scan of a line of code reads the same
characters: blanks, a comment, the end of a line, characters that hold no mark, a string literal, or
a bracket.

* `Bite`, `fits_look`: what a look takes;
* `Cuts.induction`: the induction along the looks at a script;
* `Bite.weight`, `Cuts.line_le`: the brackets among the tokens.
-/
import Mathlib.Tactic.Common
import Mathlib.Tactic.Lemma
import ViewEngine.Proofs.Script.Literals

namespace ViewEngine.Script

open Brackets (IsMarked mark?)

/-! ## What one look takes -/

/-- Characters of a token that hold no mark, and at the end of which a block is opened only if they
are a colon. -/
structure IsPlain (w : Text) (k : TokenKind) : Prop where
  ne_nil : w ≠ []
  plain : ∀ c ∈ w, c ∉ markChars
  ends : ∀ front, opensBlock (front ++ w) = true → k = .op [':']

/-- The brackets and the line are the same, and whether a logical line begins. -/
structure LexState.Same (s next : LexState) : Prop where
  brackets : next.brackets = s.brackets
  lineStart : next.lineStart = s.lineStart
  line : next.line = s.line

/-- What a look at a text takes from it: the token that it makes, if it makes one, the state that it
leads to, and what it leaves. -/
inductive Bite (s : LexState) : Text → Option TokenKind → LexState → Text → Prop where
  /-- A blank. -/
  | gap {c : Char} {v : Text} (hc : isGap c = true) : Bite s (c :: v) none s v
  /-- A comment, up to the end of the line. -/
  | comment {w v : Text} (hw : '\n' ∉ w) (hv : v.head? = none ∨ v.head? = some '\n') :
      Bite s ('#' :: (w ++ v)) none s v
  /-- A backslash that joins the line to the next. -/
  | join {v : Text} {next : LexState} (hnext : next.brackets = s.brackets)
      (hstart : next.lineStart = s.lineStart) (hline : next.line = s.line + 1) :
      Bite s ('\\' :: '\n' :: v) none next v
  /-- The end of a logical line. -/
  | feed {v : Text} {next : LexState} (hs : s.brackets = []) (hnext : next.brackets = [])
      (hstart : next.lineStart = true) (hline : next.line = s.line + 1) :
      Bite s ('\n' :: v) (some .newline) next v
  /-- The end of a line inside brackets. -/
  | feedInside {v : Text} {next : LexState} (hs : s.brackets ≠ [])
      (hnext : next.brackets = s.brackets) (hstart : next.lineStart = false)
      (hline : next.line = s.line + 1) : Bite s ('\n' :: v) none next v
  /-- A name, a number, an operator or a character that means nothing. -/
  | plain {w v : Text} {k : TokenKind} {next : LexState} (hw : IsPlain w k) (hk : k.Ordinary)
      (hnext : s.Same next) : Bite s (w ++ v) (some k) next v
  /-- A string literal, with letters in front of it. -/
  | literal {c : Char} {u v body : Text} {raw formatted : Bool} {next : LexState}
      (hmarked : '\n' ∉ body → '\r' ∉ c :: (u ++ v) → ∃ letters w, c :: u = letters ++ w ∧
        (∀ d ∈ letters, d ∉ markChars) ∧ IsMarked w .string v.head?)
      (hnext : next.brackets = s.brackets) (hstart : next.lineStart = s.lineStart)
      (hline : next.line = s.line + Text.lineFeeds (c :: u)) :
      Bite s (c :: (u ++ v)) (some (.string raw formatted body)) next v
  /-- An opening bracket. -/
  | opening {c : Char} {v : Text} {next : LexState} (hc : c = '(' ∨ c = '[' ∨ c = '{')
      (hnext : next.brackets.map Prod.fst = c :: s.brackets.map Prod.fst)
      (hstart : next.lineStart = s.lineStart) (hline : next.line = s.line) :
      Bite s (c :: v) (some (.op [c])) next v
  /-- A closing bracket. -/
  | closing {c b : Char} {v : Text} {next : LexState} (hc : c = ')' ∨ c = ']' ∨ c = '}')
      (hnext : s.brackets.map Prod.fst = b :: next.brackets.map Prod.fst)
      (hstart : next.lineStart = s.lineStart) (hline : next.line = s.line) :
      Bite s (c :: v) (some (.op [c])) next v

/-- The look fits what it looks at. -/
def Look.Fits (s : LexState) (c : Char) (cs : Text) : Look → Prop
  | .skip n next => Bite s (c :: cs) none next (cs.drop (n - 1))
  | .token k n next => Bite s (c :: cs) (some k) next (cs.drop (n - 1))
  | .stop e => e ≠ .complete

section

variable {s next : LexState} {c : Char} {cs u v w : Text} {k : TokenKind}

lemma drop_of_append (h : c :: cs = u ++ v) (hu : u ≠ []) : cs.drop (u.length - 1) = v := by
  obtain ⟨d, u, rfl⟩ := List.exists_cons_of_ne_nil hu
  rw [(List.cons.inj h).2]
  exact List.drop_left

/-- A token of characters without marks. -/
lemma fits_plain (h : c :: cs = w ++ v) (hw : IsPlain w k) (hk : k.Ordinary) (hnext : s.Same next) :
    (Look.token k w.length next).Fits s c cs := by
  rw [Look.Fits, drop_of_append h hw.ne_nil, h]
  exact .plain hw hk hnext

lemma fits_fault (n : Nat) : (Look.stop (.fault n)).Fits s c cs := by
  rintro ⟨⟩

lemma fits_stuck (n : Nat) (bracket : Option Nat) : (Look.stop (.stuck n bracket)).Fits s c cs := by
  rintro ⟨⟩

/-- Code that ends in something other than a colon opens no block. -/
lemma not_opensBlock (hw : ∃ d ∈ w, Text.isBlank d = false) (hcolon : ':' ∉ w) (front : Text) :
    opensBlock (front ++ w) = false := by
  have hne : Text.stripRight w ≠ [] := by
    intro hnil
    obtain ⟨d, hd, hblank⟩ := hw
    have hall := List.all_eq_true.1 (Text.stripRight_eq_nil_iff.1 hnil) d hd
    rw [hblank] at hall
    cases hall
  have happend : Text.stripRight (front ++ w) = front ++ Text.stripRight w := by
    induction front with
    | nil => rfl
    | cons c front ih =>
      rw [List.cons_append, Text.stripRight, ih]
      cases hcut : front ++ Text.stripRight w with
      | nil => exact absurd (List.append_eq_nil_iff.1 hcut).2 hne
      | cons d ds => rw [List.cons_append, hcut]
  rw [opensBlock, happend, List.getLast?_append]
  rcases hlast : (Text.stripRight w).getLast? with _ | d
  · exact absurd (List.getLast?_eq_none_iff.1 hlast) hne
  · obtain ⟨v, hv, -⟩ := Text.exists_append_stripRight w
    have hmem : d ∈ w := by
      rw [hv]
      exact List.mem_append_left v (List.mem_of_getLast? hlast)
    simp only [Option.some_or, decide_eq_false_iff_not, Option.some.injEq]
    rintro rfl
    exact hcolon hmem

/-! ### Names -/

lemma isBlank_of_ascii {d : Char} (hd : isNameLike d = true) (hlow : d.toNat < 128) :
    Text.isBlank d = false := by
  refine isBlank_of_isCodeChar ?_ (ne_of_isNameLike hd rfl)
  simp only [isNameLike, Bool.or_eq_true, decide_eq_true_eq] at hd
  simp only [isCodeChar, Bool.or_eq_true, decide_eq_true_eq]
  rcases hd with (hd | hd) | hd
  · exact .inl (.inl (.inl hd))
  · exact .inl (.inl (.inr hd))
  · omega

/-- A table that has no blanks in it. -/
lemma isBlank_of_has {rs : Text.Ranges} {d : Char} (hd : rs.has d = true) (hlow : ¬ d.toNat < 128)
    (hapart : ∀ r ∈ rs, ∀ b ∈ Text.wideBlankRanges, r.2 < b.1 ∨ b.2 < r.1) :
    Text.isBlank d = false := by
  rw [Text.Ranges.has_iff] at hd
  obtain ⟨r, hr, hfrom, hto⟩ := hd
  have hwide : Text.wideBlankRanges.has d = false := by
    by_contra hblank
    obtain ⟨b, hb, hbfrom, hbto⟩ := Text.Ranges.has_iff.1 (Bool.not_eq_false _ ▸ hblank)
    rcases hapart r hr b hb with h | h <;> omega
  have hspace : d ≠ ' ' := by
    rintro rfl
    exact hlow (by decide)
  simp only [Text.isBlank, hwide, hspace, decide_false, Bool.or_false, Bool.false_or,
    Bool.and_eq_false_iff, decide_eq_false_iff_not]
  omega

/-- No identifier begins with a blank. -/
lemma isBlank_of_isNameStart {d : Char} (hd : Text.isNameStart d = true) :
    Text.isBlank d = false := by
  by_cases hlow : d.toNat < 128
  · refine isBlank_of_ascii ?_ hlow
    rw [Text.isNameStart, if_pos hlow] at hd
    rcases Bool.or_eq_true _ _ ▸ hd with hd | hd
    · simp [isNameLike, Char.isAlphanum, hd]
    · simp [isNameLike, hd]
  · rw [Text.isNameStart, if_neg hlow] at hd
    exact isBlank_of_has hd hlow (by decide +kernel)

/-- No blank stands in an identifier. -/
lemma isBlank_of_isNameRest {d : Char} (hd : Text.isNameRest d = true) : Text.isBlank d = false := by
  by_cases hlow : d.toNat < 128
  · refine isBlank_of_ascii ?_ hlow
    rw [Text.isNameRest, if_pos hlow] at hd
    rcases Bool.or_eq_true _ _ ▸ hd with hd | hd
    · simp [isNameLike, hd]
    · simp [isNameLike, hd]
  · rw [Text.isNameRest, if_neg hlow] at hd
    exact isBlank_of_has hd hlow (by decide +kernel)

lemma not_mem_markChars_of_isNameLike {d : Char} (hd : isNameLike d = true) : d ∉ markChars := by
  intro hmem
  simp only [markChars, List.mem_cons, List.not_mem_nil, or_false] at hmem
  rcases hmem with rfl | rfl | rfl | rfl | rfl | rfl | rfl | rfl | rfl | rfl <;> cases hd

lemma isPlain_name (hc : isNameLike c = true) (hblank : Text.isBlank c = false) :
    IsPlain ((c :: cs).takeWhile isNameLike) k := by
  have hall : ∀ d ∈ (c :: cs).takeWhile isNameLike, isNameLike d = true :=
    fun d hd => List.all_eq_true.1 List.all_takeWhile d hd
  have hfirst : c ∈ (c :: cs).takeWhile isNameLike := by
    rw [List.takeWhile_cons, if_pos hc]
    exact List.mem_cons_self
  refine ⟨List.ne_nil_of_mem hfirst, fun d hd => not_mem_markChars_of_isNameLike (hall d hd), ?_⟩
  intro front hopens
  have hcolon : ':' ∉ (c :: cs).takeWhile isNameLike := fun hmem => by cases hall _ hmem
  rw [not_opensBlock ⟨c, hfirst, hblank⟩ hcolon] at hopens
  cases hopens

lemma fits_lookName (hc : isNameLike c = true) : (lookName s (c :: cs)).Fits s c cs := by
  have hsplit : c :: cs = (c :: cs).takeWhile isNameLike ++ (c :: cs).dropWhile isNameLike :=
    List.takeWhile_append_dropWhile.symm
  have hfirst : ∃ w, (c :: cs).takeWhile isNameLike = c :: w := ⟨_, List.takeWhile_cons_of_pos hc⟩
  have hfits : Text.isBlank c = false → ∀ k : TokenKind, k.Ordinary →
      (Look.token k ((c :: cs).takeWhile isNameLike).length s).Fits s c cs :=
    fun hblank k hk => fits_plain hsplit (isPlain_name hc hblank) hk ⟨rfl, rfl, rfl⟩
  obtain ⟨w, hw⟩ := hfirst
  unfold lookName
  dsimp only
  split
  · next hword =>
    refine hfits ?_ _ ⟨by simp, rfl⟩
    have hletters : (keywords.all fun w => w.head?.all fun d => !Text.isBlank d) = true := by decide
    have hletter := List.all_eq_true.1 hletters _ (List.contains_iff_mem.1 hword)
    rw [hw] at hletter
    simpa using hletter
  split
  · next hascii =>
    refine hfits (isBlank_of_ascii hc ?_) _ ⟨by simp, rfl⟩
    rw [hw, List.all_cons, Bool.and_eq_true] at hascii
    simpa using hascii.1
  split
  · next hidentifier =>
    refine hfits (isBlank_of_isNameStart ?_) _ ⟨by simp, rfl⟩
    rw [hw, Text.isIdentifier, Bool.and_eq_true] at hidentifier
    exact hidentifier.1
  · exact fits_fault _

/-! ### Symbols -/

lemma isBlank_of_isPrintable (hgap : isGap c = false) (hname : isNameLike c = false)
    (hprintable : Text.isPrintable c = true) : Text.isBlank c = false := by
  have hlow : c.toNat < 128 := by
    by_contra hhigh
    have hlike : isNameLike c = true := by
      simp only [isNameLike, Bool.or_eq_true, decide_eq_true_eq]
      omega
    rw [hname] at hlike
    cases hlike
  have hspace : c ≠ ' ' := by
    rintro rfl
    cases hgap
  rw [Text.isPrintable, if_pos hlow, Bool.and_eq_true, decide_eq_true_eq, decide_eq_true_eq]
    at hprintable
  have hwide : Text.wideBlankRanges.has c = false := by
    simp only [Text.Ranges.has, Text.wideBlankRanges, List.any_cons, List.any_nil, Bool.or_false,
      Bool.or_eq_false_iff, Bool.and_eq_false_iff, decide_eq_false_iff_not]
    omega
  simp only [Text.isBlank, hwide, hspace, decide_false, Bool.or_false, Bool.false_or,
    Bool.and_eq_false_iff, decide_eq_false_iff_not]
  omega

lemma fits_lookSymbol (hc : c ≠ '#' ∧ c ≠ '\n' ∧ c ≠ '\'' ∧ c ≠ '"') (hgap : isGap c = false)
    (hname : isNameLike c = false) : (lookSymbol s c cs).Fits s c cs := by
  unfold lookSymbol
  split
  · next hopening =>
    split
    · exact fits_fault _
    · exact .opening hopening rfl rfl rfl
  next hopening =>
  split
  · next hclosing =>
    split
    · next b line rest hbrackets =>
      split
      · exact .closing hclosing (by rw [hbrackets]; rfl) rfl rfl
      · exact fits_fault _
    · exact fits_fault _
  next hclosing =>
  split
  · next o ho =>
    have hmem := List.mem_of_find?_eq_some ho
    have hstarts : Text.startsWith o (c :: cs) = true := by simpa using List.find?_some ho
    obtain ⟨v, hv⟩ := Option.isSome_iff_exists.1 hstarts
    have hall : (longOperators.all fun o => (TokenKind.op o).weight == 0 &&
        o.all (fun d => !markChars.contains d) &&
        o.getLast?.any fun d => !Text.isBlank d && d != ':') = true := by decide
    have ho := List.all_eq_true.1 hall o hmem
    rw [Bool.and_eq_true, Bool.and_eq_true, beq_iff_eq] at ho
    refine fits_plain (Text.after?_eq_some_iff.1 hv) ?_ ⟨by simp, ho.1.1⟩ ⟨rfl, rfl, rfl⟩
    obtain ⟨d, hlast, hd⟩ := (Option.any_eq_true _ _).1 ho.2
    obtain ⟨u, rfl⟩ := List.getLast?_eq_some_iff.1 hlast
    rw [Bool.and_eq_true, Bool.not_eq_true', bne_iff_ne] at hd
    have hplain : ∀ e ∈ u ++ [d], e ∉ markChars :=
      fun e he => by simpa using List.all_eq_true.1 ho.1.2 e he
    refine ⟨by simp, hplain, fun front hopens => ?_⟩
    rw [← List.append_assoc, opensBlock_concat hd.1] at hopens
    exact absurd (of_decide_eq_true hopens) hd.2
  next hlong =>
  have hsingle : c :: cs = [c] ++ cs := rfl
  have hplain : ∀ d ∈ [c], d ∉ markChars := by
    simp only [not_or] at hopening hclosing
    simp [markChars, hc, hopening, hclosing]
  split
  · next hshort =>
    have hweight : (shortOperators.all fun d => (TokenKind.op [d]).weight == 0) = true := by decide
    have hk := List.all_eq_true.1 hweight c (List.contains_iff_mem.1 hshort)
    rw [beq_iff_eq] at hk
    refine fits_plain hsingle ⟨by simp, hplain, fun front hopens => ?_⟩ ⟨by simp, hk⟩ ⟨rfl, rfl, rfl⟩
    have hall : (shortOperators.all fun d => !Text.isBlank d) = true := by decide
    have hblank := List.all_eq_true.1 hall c (List.contains_iff_mem.1 hshort)
    rw [Bool.not_eq_true'] at hblank
    rw [opensBlock_concat hblank] at hopens
    rw [of_decide_eq_true hopens]
  next hshort =>
  split
  · next hprintable =>
    refine fits_plain hsingle ⟨by simp, hplain, fun front hopens => ?_⟩ ⟨by simp, rfl⟩ ⟨rfl, rfl, rfl⟩
    rw [opensBlock_concat (isBlank_of_isPrintable hgap hname hprintable)] at hopens
    obtain rfl := of_decide_eq_true hopens
    exact absurd rfl hshort
  · exact fits_fault _

/-! ### Strings and numbers -/

lemma not_mem_markChars_of_isAlpha {d : Char} (hd : d.isAlpha = true) : d ∉ markChars :=
  not_mem_markChars_of_isNameLike (by simp [isNameLike, Char.isAlphanum, hd])

/-- Without a string literal at the front, no quote stands there. -/
lemma ne_quote_of_stringAt? (h : stringAt? (c :: cs) = none) : c ≠ '\'' ∧ c ≠ '"' := by
  constructor
  · rintro rfl
    simp [stringAt?, stringLetters] at h
  · rintro rfl
    simp [stringAt?, stringLetters] at h

lemma fits_string {count : Nat} (h : stringAt? (c :: cs) = some (some (k, count))) :
    (lookCut s (c :: cs) k count).Fits s c cs := by
  have hsplit : c :: cs = (c :: cs).takeWhile Char.isAlpha ++
      (c :: cs).drop ((c :: cs).takeWhile Char.isAlpha).length := by
    have hcut := List.takeWhile_append_dropWhile (p := Char.isAlpha) (l := c :: cs)
    have hdrop := @List.drop_left _ ((c :: cs).takeWhile Char.isAlpha)
      ((c :: cs).dropWhile Char.isAlpha)
    rw [hcut] at hdrop
    rw [hdrop, hcut]
  have hletters : ∀ d ∈ (c :: cs).takeWhile Char.isAlpha, d ∉ markChars :=
    fun d hd => not_mem_markChars_of_isAlpha (List.all_eq_true.1 List.all_takeWhile d hd)
  unfold stringAt? at h
  dsimp only at h
  generalize (c :: cs).takeWhile Char.isAlpha = letters at h hsplit hletters
  split at h
  · split at h
    · next q rest hdrop =>
      split at h
      · next hq =>
        obtain ⟨⟨body, n⟩, hbody, hp⟩ := Option.map_eq_some_iff.1 (Option.some.inj h)
        cases hp
        rw [hdrop] at hsplit
        have htake := (List.take_append_drop
          (letters.length + (if Text.startsWith [q, q] rest = true then 3 else 1) + n - 1) cs).symm
        rw [lookCut, Look.Fits]
        have hcount :
            0 < letters.length + (if Text.startsWith [q, q] rest = true then 3 else 1) + n := by
          split <;> omega
        generalize hv : cs.drop (letters.length +
          (if Text.startsWith [q, q] rest = true then 3 else 1) + n - 1) = v at htake ⊢
        rw [htake]
        refine .literal (fun hfeed hreturn => ?_) rfl rfl ?_
        · rw [← htake, hsplit] at hreturn
          simp only [List.mem_append, List.mem_cons, not_or] at hreturn
          obtain ⟨w, v', hw, hlength, hmarked⟩ := isMarked_literal hq hbody hfeed hreturn.2.2
          have hall : c :: cs = (letters ++ w) ++ v' := by rw [hsplit, hw, List.append_assoc]
          have hrest := drop_of_append hall (by simp [hmarked.ne_nil])
          rw [List.length_append, hlength, ← Nat.add_assoc, hv] at hrest
          subst hrest
          rw [htake, ← List.cons_append] at hall
          exact ⟨letters, w, List.append_cancel_right hall, hletters, hmarked⟩
        · dsimp only
          rw [← htake, List.take_cons hcount]
      · cases h
    · cases h
  · cases h

lemma isBlank_of_isNumberChar {d : Char} (hd : isNumberChar d = true) : Text.isBlank d = false := by
  simp only [isNumberChar, Bool.or_eq_true, decide_eq_true_eq] at hd
  rcases hd with (((hd | rfl) | rfl) | rfl) | rfl
  · refine isBlank_of_isCodeChar (by simp [isCodeChar, hd]) ?_
    rintro rfl
    cases hd
  all_goals rfl

lemma isPlain_number (hne : w ≠ []) (hw : ∀ d ∈ w, isNumberChar d = true) : IsPlain w k := by
  have hplain : ∀ d, isNumberChar d = true → d ∉ markChars := by
    intro d hd hmem
    simp only [markChars, List.mem_cons, List.not_mem_nil, or_false] at hmem
    rcases hmem with rfl | rfl | rfl | rfl | rfl | rfl | rfl | rfl | rfl | rfl <;> cases hd
  refine ⟨hne, fun d hd => hplain d (hw d hd), fun front hopens => ?_⟩
  obtain ⟨d, w', rfl⟩ := List.exists_cons_of_ne_nil hne
  have hcolon : ':' ∉ d :: w' := fun hmem => by cases hw _ hmem
  have hblank := isBlank_of_isNumberChar (hw d List.mem_cons_self)
  rw [not_opensBlock ⟨d, List.mem_cons_self, hblank⟩ hcolon] at hopens
  cases hopens

lemma fits_number (hc : isNumberChar c = true) {rest : Text}
    (h : numberAt (c :: cs) = some (k, rest)) :
    (lookCut s (c :: cs) k (cs.length + 1 - rest.length)).Fits s c cs := by
  obtain ⟨⟨w, hsplit, hw⟩, hnumber⟩ := counted_numberAt h
  have hk := TokenKind.ordinary_of_isNumber hnumber
  have hlength := congrArg List.length hsplit
  simp only [List.length_cons, List.length_append] at hlength
  rcases w with _ | ⟨d, w⟩
  -- the character itself is passed over in any case
  · have hzero : cs.length + 1 - rest.length = 0 := by
      simp only [List.length_nil] at hlength
      omega
    rw [hzero]
    exact .plain (w := [c]) (isPlain_number (by simp) (by simpa using hc)) hk ⟨rfl, rfl, rfl⟩
  · have hcount : cs.length + 1 - rest.length = (d :: w).length := by omega
    rw [hcount]
    refine fits_plain hsplit (isPlain_number (by simp) hw) hk ⟨rfl, rfl, ?_⟩
    have hfeeds : Text.lineFeeds (d :: w) = 0 := List.count_eq_zero.2 fun hmem => by cases hw _ hmem
    rw [hsplit, List.take_left, hfeeds, Nat.add_zero]

lemma fits_remark (cs : Text) :
    (Look.skip (cs.takeWhile (· ≠ '\n')).length.succ s).Fits s '#' cs := by
  have hsplit := List.takeWhile_append_dropWhile (p := (· ≠ '\n')) (l := cs)
  have hhead := List.head?_dropWhile_not (· ≠ '\n') cs
  have hdrop := @List.drop_left _ (cs.takeWhile (· ≠ '\n')) (cs.dropWhile (· ≠ '\n'))
  rw [hsplit] at hdrop
  rw [Look.Fits, Nat.succ_sub_one, hdrop]
  generalize cs.dropWhile (· ≠ '\n') = v at hsplit hhead
  rw [← hsplit]
  refine .comment (fun hmem => ?_) ?_
  · simpa using List.all_eq_true.1 List.all_takeWhile _ hmem
  · cases v with
    | nil => exact .inl rfl
    | cons d v => exact .inr (by simpa using hhead)

/-- **What one look takes.** -/
theorem fits_look (s : LexState) (c : Char) (cs : Text) : (look s c cs).Fits s c cs := by
  unfold look
  split
  · next hgap => exact .gap hgap
  next hgap =>
  split
  · next hremark =>
    subst hremark
    exact fits_remark cs
  next hremark =>
  split
  · next hfeed =>
    subst hfeed
    dsimp only
    split
    · next hnone =>
      rw [List.isEmpty_iff] at hnone
      exact .feed hnone hnone (by simp [hnone]) rfl
    · next hsome =>
      rw [List.isEmpty_iff] at hsome
      exact .feedInside hsome rfl (by simp [hsome]) rfl
  next hfeed =>
  split
  · next hslash =>
    subst hslash
    split
    · split
      · exact fits_stuck _ _
      · exact .join rfl rfl rfl
    · exact fits_stuck _ _
  next hslash =>
  split
  · next hdigit =>
    split
    · next k rest hnumber =>
      refine fits_number ?_ hnumber
      rcases Bool.or_eq_true _ _ ▸ hdigit with h | h
      · exact isNumberChar_of_isDigit h
      · rw [Bool.and_eq_true, decide_eq_true_eq] at h
        rw [h.1]
        rfl
    · exact fits_fault _
  next hdigit =>
  split
  · next hstring => exact fits_string hstring
  · exact fits_fault _
  · next hstring =>
    obtain ⟨hsingle, hdouble⟩ := ne_quote_of_stringAt? hstring
    split
    · next hname => exact fits_lookName hname
    · next hname =>
      exact fits_lookSymbol ⟨hremark, hfeed, hsingle, hdouble⟩ (by simpa using hgap)
        (by simpa using hname)

end

/-! ## The tokens, look by look -/

/-- From a state on, a text has these tokens, and nothing is wrong. -/
def Cuts (s : LexState) (t : Text) (ts : List Token) : Prop := lexFrom 0 s t = ⟨ts, .complete⟩

/-- A text begins with so many lines that hold no token, each but the last joined to the next; the
second text is what follows them. -/
inductive Hollow : Nat → Text → Text → Prop where
  /-- A blank. -/
  | gap {n : Nat} {c : Char} {t v : Text} (hc : isGap c = true) (h : Hollow n t v) :
      Hollow n (c :: t) v
  /-- A backslash that joins the line to the next. -/
  | join {n : Nat} {t v : Text} (h : Hollow n t v) : Hollow (n + 1) ('\\' :: '\n' :: t) v
  /-- The end of the line. -/
  | feed {v : Text} : Hollow 1 ('\n' :: v) v
  /-- A comment and the end of the line. -/
  | remark {w v : Text} (hw : '\n' ∉ w) : Hollow 1 ('#' :: (w ++ '\n' :: v)) v
  /-- A comment at the end of the text. -/
  | ending {w : Text} (hw : '\n' ∉ w) : Hollow 1 ('#' :: w) []

/-- The tokens that a look makes, if it makes one. -/
def made (k : Option TokenKind) (s next : LexState) : List Token :=
  k.toList.map fun k => ⟨k, s.line, next.brackets.length⟩

/-- The tokens of a script behind its last line: one for each block, and the one that ends the
script. -/
def lastTokens (s : LexState) : List Token :=
  s.indents.map (fun _ => ⟨.dedent, s.line - 1, 0⟩) ++ [⟨.finish, s.line - 1, 0⟩]

/-- The tokens in front of a line, for blocks that end and perhaps for one that begins. -/
def blockTokens (closed : Nat) (opens : Bool) (line : Nat) : List Token :=
  List.replicate closed ⟨.dedent, line, 0⟩ ++ if opens then [⟨.indent, line, 0⟩] else []

section

variable {s : LexState} {c : Char} {cs t : Text} {ts : List Token}

lemma lexFrom_drop (n : Nat) (s : LexState) (t : Text) : lexFrom n s t = lexFrom 0 s (t.drop n) := by
  induction n generalizing t with
  | zero => rfl
  | succ n ih =>
    cases t with
    | nil => rfl
    | cons c t => exact ih t

/-- The end of a script. -/
lemma cuts_nil (h : Cuts s [] ts) : s.brackets = [] ∧ ts = lastTokens s := by
  rw [Cuts, lexFrom] at h
  split at h
  · next hnone =>
    cases h
    exact ⟨List.isEmpty_iff.1 hnone, rfl⟩
  · cases h

/-- **A look inside a logical line.** -/
theorem cuts_cons (hs : s.lineStart = false) (h : Cuts s (c :: cs) ts) :
    ∃ k next v ts', Bite s (c :: cs) k next v ∧ ts = made k s next ++ ts' ∧ Cuts next v ts' := by
  have hfits := fits_look s c cs
  rw [Cuts, lexFrom_inside hs] at h
  cases hlook : look s c cs with
  | skip n next =>
    rw [hlook] at h hfits
    dsimp only at h
    rw [lexFrom_drop] at h
    exact ⟨none, next, _, ts, hfits, rfl, h⟩
  | token k n next =>
    rw [hlook] at h hfits
    dsimp only at h
    rw [lexFrom_drop] at h
    refine ⟨some k, next, _, _, hfits, (congrArg Tokens.list h).symm, ?_⟩
    exact congrArg (Tokens.mk _) (congrArg Tokens.ending h)
  | stop e =>
    rw [hlook] at h hfits
    exact absurd (congrArg Tokens.ending h) hfits

/-- What the front of a line takes holds no token. -/
lemma measure_hollow (f : Front) (t : Text) (h : (Front.measure f t).stuck = false) :
    ∃ u v joins, t = u ++ v ∧ (Front.measure f t).count = f.count + u.length ∧
      (Front.measure f t).breaks = f.breaks + joins ∧
      ∀ n x, Hollow n v x → Hollow (n + joins) t x := by
  have hgap : ∀ {c : Char} {cs : Text} {n m b b' : Nat}, isGap c = true →
      (∃ u v joins, cs = u ++ v ∧ n = m + 1 + u.length ∧ b = b' + joins ∧
        ∀ n x, Hollow n v x → Hollow (n + joins) cs x) →
      ∃ u v joins, c :: cs = u ++ v ∧ n = m + u.length ∧ b = b' + joins ∧
        ∀ n x, Hollow n v x → Hollow (n + joins) (c :: cs) x := by
    rintro c cs n m b b' hc ⟨u, v, joins, rfl, hn, hb, hhollow⟩
    refine ⟨c :: u, v, joins, rfl, ?_, hb, fun n x hx => .gap hc (hhollow n x hx)⟩
    rw [hn, List.length_cons]
    omega
  fun_induction Front.measure f t with
  | case1 f => exact ⟨[], [], 0, rfl, rfl, rfl, fun n x hx => hx⟩
  | case2 f cs next ih => exact hgap rfl (ih h)
  | case3 f cs next _ ih => exact hgap rfl (ih h)
  | case4 f cs next _ _ ih => exact hgap rfl (ih h)
  | case5 => cases h
  | case6 f next rest _ _ _ _ ih =>
    obtain ⟨u, v, joins, rfl, hcount, hbreaks, hhollow⟩ := ih h
    refine ⟨'\\' :: '\n' :: u, v, joins + 1, rfl, ?_, ?_, fun n x hx => .join (hhollow n x hx)⟩
    · rw [hcount, List.length_cons, List.length_cons, Nat.add_assoc, Nat.add_assoc,
        Nat.add_comm 2 u.length]
    · rw [hbreaks, Nat.add_assoc, Nat.add_comm 1 joins]
  | case7 => cases h
  | case8 f c cs => exact ⟨[], c :: cs, 0, rfl, rfl, rfl, fun n x hx => hx⟩

/-- A line that is passed over as a whole. -/
lemma hollow_of_blank {n breaks : Nat} (h : lineStart s (c :: cs) = .blank n breaks) :
    Hollow (breaks + 1) (c :: cs) (cs.drop (n - 1)) := by
  unfold lineStart at h
  dsimp only at h
  split at h
  · cases h
  next hstuck =>
  obtain ⟨u, v, joins, hsplit, hcount, hbreaks, hhollow⟩ :=
    measure_hollow {} (c :: cs) (by simpa using hstuck)
  have hcount : (Front.measure {} (c :: cs)).count = u.length := hcount.trans (Nat.zero_add _)
  have hbreaks : (Front.measure {} (c :: cs)).breaks = joins := hbreaks.trans (Nat.zero_add _)
  have hdrop : (c :: cs).drop u.length = v := by rw [hsplit, List.drop_left]
  rw [hcount, hdrop, hbreaks] at h
  have hrest : ∀ m, cs.drop (u.length + m) = v.drop (m + 1) := by
    intro m
    rw [← List.drop_succ_cons (a := c), Nat.add_assoc, ← List.drop_drop, hdrop]
  split at h
  · next v =>
    cases h
    rw [Nat.add_sub_cancel]
    have hbehind := hrest 0
    rw [Nat.add_zero] at hbehind
    rw [hbehind, Nat.add_comm]
    exact hhollow 1 _ .feed
  · next w =>
    cases h
    have hbehind := hrest (w.takeWhile (· ≠ '\n')).length.succ
    have hsize : u.length + 2 + (w.takeWhile (· ≠ '\n')).length - 1 =
        u.length + (w.takeWhile (· ≠ '\n')).length.succ := by omega
    rw [hsize, hbehind, List.drop_succ_cons, Nat.add_comm]
    refine hhollow 1 _ ?_
    have hword : '\n' ∉ w.takeWhile (· ≠ '\n') := by
      intro hmem
      simpa using List.all_eq_true.1 List.all_takeWhile _ hmem
    have hcut := List.takeWhile_append_dropWhile (p := (· ≠ '\n')) (l := w)
    have hhead := List.head?_dropWhile_not (· ≠ '\n') w
    generalize w.takeWhile (· ≠ '\n') = x at hword hcut ⊢
    generalize w.dropWhile (· ≠ '\n') = y at hcut hhead
    subst hcut
    cases y with
    | nil =>
      rw [List.append_nil, List.drop_eq_nil_of_le (Nat.le_succ _)]
      exact .ending hword
    | cons d y =>
      obtain rfl : d = '\n' := by simpa using hhead
      have hbehind : (x ++ '\n' :: y).drop (x.length + 1) = y := by
        rw [← List.drop_drop, List.drop_left]
        rfl
      rw [hbehind]
      exact .remark hword
  · split at h
    · cases h
    · split at h <;> cases h

/-- **A look where a logical line begins**: lines without tokens are passed over, and before the first
token of a line come those for the blocks that end in front of it, and perhaps one for a block that
begins. -/
theorem cuts_start (hs : s.lineStart = true) (h : Cuts s (c :: cs) ts) :
    (∃ n v next, Hollow n (c :: cs) v ∧ next.brackets = s.brackets ∧ next.lineStart = true ∧
      next.line = s.line + n ∧ Cuts next v ts) ∨
    ∃ closed opens line next ts', ts = blockTokens closed opens line ++ ts' ∧
      next.brackets = s.brackets ∧ next.lineStart = false ∧ next.line = s.line ∧
      Cuts next (c :: cs) ts' := by
  rw [Cuts, lexFrom] at h
  simp only [hs, if_true] at h
  cases hstart : lineStart s (c :: cs) with
  | blank n breaks =>
    rw [hstart] at h
    dsimp only at h
    rw [lexFrom_drop] at h
    exact .inl ⟨breaks + 1, _, ⟨s.line + breaks + 1, s.indents, s.brackets, true⟩,
      hollow_of_blank hstart, rfl, rfl, rfl, h⟩
  | misfit breaks =>
    rw [hstart] at h
    cases h
  | code closed opens margin breaks =>
    rw [hstart] at h
    dsimp only at h
    let next : LexState := ⟨s.line, (if opens then [margin] else []) ++ s.indents.drop closed,
      s.brackets, false⟩
    have hinside := lexFrom_inside (s := next) rfl c cs
    have hpush : (lexFrom 0 next (c :: cs)).push (blockTokens closed opens (s.line + breaks)) =
        ⟨ts, .complete⟩ := by
      have hline : next.line = s.line := rfl
      rw [hinside, ← h]
      cases look next c cs <;> simp [Tokens.push, blockTokens, hline]
    refine .inr ⟨closed, opens, s.line + breaks, next, (lexFrom 0 next (c :: cs)).list,
      (congrArg Tokens.list hpush).symm, rfl, rfl, rfl, ?_⟩
    exact congrArg (Tokens.mk _) (congrArg Tokens.ending hpush)

end

/-- Every look takes some characters. -/
lemma Bite.split {s next : LexState} {t v : Text} {k : Option TokenKind} (h : Bite s t k next v) :
    ∃ u, t = u ++ v ∧ u ≠ [] := by
  cases h with
  | gap | feed | feedInside | opening | closing => exact ⟨[_], rfl, by simp⟩
  | @comment w => exact ⟨'#' :: w, rfl, by simp⟩
  | join => exact ⟨['\\', '\n'], rfl, by simp⟩
  | @plain w _ _ _ hw => exact ⟨w, rfl, hw.ne_nil⟩
  | @literal c u => exact ⟨c :: u, rfl, by simp⟩

/-- Every look leads to the same line or to a later one. -/
lemma Bite.line_le {s next : LexState} {t v : Text} {k : Option TokenKind} (h : Bite s t k next v) :
    s.line ≤ next.line := by
  cases h with
  | gap | comment => exact Nat.le_refl _
  | join _ _ hline | feed _ _ _ hline | feedInside _ _ _ hline =>
    rw [hline]
    exact Nat.le_succ _
  | plain _ _ hnext => exact Nat.le_of_eq hnext.line.symm
  | literal _ _ _ hline =>
    rw [hline]
    exact Nat.le_add_right _ _
  | opening _ _ _ hline | closing _ _ _ hline => exact Nat.le_of_eq hline.symm

/-- The tokens that a look makes tell how many more brackets are open behind it. -/
lemma Bite.weight {s next : LexState} {t v : Text} {k : Option TokenKind} (h : Bite s t k next v) :
    ((made k s next).map (·.kind.weight)).sum + s.brackets.length = next.brackets.length := by
  cases h with
  | gap | comment => exact Int.zero_add _
  | join hnext | feedInside _ hnext =>
    rw [hnext]
    exact Int.zero_add _
  | feed hs hnext =>
    rw [hs, hnext]
    rfl
  | plain _ hk hnext =>
    rw [hnext.brackets, made, Option.toList, List.map_singleton, List.map_singleton,
      List.sum_singleton, hk.weight_eq, Int.zero_add]
  | literal _ hnext =>
    rw [hnext]
    exact Int.zero_add _
  | opening hc hnext =>
    have hlength := congrArg List.length hnext
    simp only [List.length_cons, List.length_map] at hlength
    rcases hc with rfl | rfl | rfl <;> simp [made, TokenKind.weight] <;> omega
  | closing hc hnext =>
    have hlength := congrArg List.length hnext
    simp only [List.length_cons, List.length_map] at hlength
    rcases hc with rfl | rfl | rfl <;> simp [made, TokenKind.weight] <;> omega

lemma Hollow.split {n : Nat} {t v : Text} (h : Hollow n t v) : ∃ u, t = u ++ v ∧ u ≠ [] := by
  induction h with
  | @gap _ c _ _ _ _ ih =>
    obtain ⟨u, rfl, -⟩ := ih
    exact ⟨c :: u, rfl, by simp⟩
  | join _ ih =>
    obtain ⟨u, rfl, -⟩ := ih
    exact ⟨'\\' :: '\n' :: u, rfl, by simp⟩
  | feed => exact ⟨['\n'], rfl, by simp⟩
  | @remark w => exact ⟨'#' :: (w ++ ['\n']), by simp, by simp⟩
  | @ending w => exact ⟨'#' :: w, by simp, by simp⟩

/-- **The induction along the looks** at a script in which nothing is wrong. -/
theorem Cuts.induction {P : LexState → Text → List Token → Prop}
    (finish : ∀ s : LexState, s.brackets = [] → P s [] (lastTokens s))
    (bite : ∀ s t k next v ts, s.lineStart = false → Bite s t k next v → Cuts next v ts →
      P next v ts → P s t (made k s next ++ ts))
    (hollow : ∀ s t n v next ts, s.lineStart = true → Hollow n t v →
      next.brackets = s.brackets → next.lineStart = true → next.line = s.line + n →
      Cuts next v ts → P next v ts → P s t ts)
    (start : ∀ s t closed opens line next ts, s.lineStart = true → next.brackets = s.brackets →
      next.lineStart = false → next.line = s.line → P next t ts →
      P s t (blockTokens closed opens line ++ ts))
    {s : LexState} {t : Text} {ts : List Token} (h : Cuts s t ts) : P s t ts := by
  have hweight : ∀ s : LexState, (if s.lineStart then 1 else 0) ≤ 1 := by
    intro s
    split <;> omega
  have hshorter : ∀ {t v : Text}, (∃ u, t = u ++ v ∧ u ≠ []) → v.length < t.length := by
    rintro _ v ⟨u, rfl, hu⟩
    rw [List.length_append]
    exact Nat.lt_add_of_pos_left (List.length_pos_iff.2 hu)
  -- where a line begins, the text is looked at twice
  induction hn : 2 * t.length + (if s.lineStart then 1 else 0) using Nat.strongRecOn
    generalizing s t ts with
  | _ n ih =>
    subst hn
    cases t with
    | nil =>
      obtain ⟨hs, rfl⟩ := cuts_nil h
      exact finish s hs
    | cons c cs =>
      cases hs : s.lineStart with
      | false =>
        obtain ⟨k, next, v, ts, hbite, rfl, hcuts⟩ := cuts_cons hs h
        have hlt := hshorter hbite.split
        have hnext := hweight next
        refine bite _ _ _ next v ts hs hbite hcuts (ih _ ?_ hcuts rfl)
        omega
      | true =>
        rcases cuts_start hs h with ⟨m, v, next, hline, hb, hnext, hm, hcuts⟩ |
          ⟨closed, opens, line, next, ts, rfl, hb, hnext, hsame, hcuts⟩
        · have hlt := hshorter hline.split
          have hweight := hweight next
          refine hollow _ _ m v next ts hs hline hb hnext hm hcuts (ih _ ?_ hcuts rfl)
          omega
        · refine start _ _ closed opens line next ts hs hb hnext hsame (ih _ ?_ hcuts rfl)
          rw [hs, hnext]
          simp

lemma mem_made {k : Option TokenKind} {s next : LexState} {x : Token} (hx : x ∈ made k s next) :
    k = some x.kind ∧ x.line = s.line := by
  cases k with
  | none => cases hx
  | some k =>
    obtain rfl := List.mem_singleton.1 hx
    exact ⟨rfl, rfl⟩

lemma mem_lastTokens {s : LexState} {x : Token} (hx : x ∈ lastTokens s) : x.kind.weight = 0 := by
  rw [lastTokens, List.mem_append, List.mem_map, List.mem_singleton] at hx
  rcases hx with ⟨_, -, rfl⟩ | rfl <;> rfl

lemma mem_blockTokens {closed : Nat} {opens : Bool} {line : Nat} {x : Token}
    (hx : x ∈ blockTokens closed opens line) : x.kind.Ordinary := by
  rw [blockTokens, List.mem_append] at hx
  rcases hx with hx | hx
  · rw [List.eq_of_mem_replicate hx]
    exact ⟨by simp, rfl⟩
  · cases opens with
    | false => cases hx
    | true =>
      rw [List.mem_singleton.1 hx]
      exact ⟨by simp, rfl⟩

lemma weight_blockTokens (closed : Nat) (opens : Bool) (line : Nat) :
    ((blockTokens closed opens line).map (·.kind.weight)).sum = 0 := by
  induction closed with
  | zero => cases opens <;> rfl
  | succ closed ih =>
    rw [blockTokens, List.replicate_succ, List.cons_append, List.map_cons, List.sum_cons]
    exact (Int.zero_add _).trans ih

/-- The brackets among the tokens lie on this line or on later ones. -/
lemma Cuts.line_le {s : LexState} {t : Text} {ts : List Token} (h : Cuts s t ts) :
    ∀ x ∈ ts, x.kind.weight ≠ 0 → s.line ≤ x.line := by
  refine Cuts.induction (P := fun s _ ts => ∀ x ∈ ts, x.kind.weight ≠ 0 → s.line ≤ x.line)
    ?_ ?_ ?_ ?_ h
  · exact fun s _ x hx hweight => absurd (mem_lastTokens hx) hweight
  · intro s t k next v ts _ hbite _ ih x hx hweight
    rcases List.mem_append.1 hx with hx | hx
    · exact Nat.le_of_eq (mem_made hx).2.symm
    · exact Nat.le_trans hbite.line_le (ih x hx hweight)
  · intro s t n v next ts _ _ _ _ hline _ ih x hx hweight
    have hle := ih x hx hweight
    omega
  · intro s t closed opens line next ts _ _ _ hline ih x hx hweight
    rcases List.mem_append.1 hx with hx | hx
    · exact absurd (mem_blockTokens hx).weight_eq hweight
    · exact hline ▸ ih x hx hweight

/-- **The last token is the one that ends the script**, and no other is like it. -/
theorem Cuts.finish_last {s : LexState} {t : Text} {ts : List Token} (h : Cuts s t ts) :
    ∃ front last, ts = front ++ [last] ∧ last.kind = .finish ∧ ∀ x ∈ front, x.kind ≠ .finish := by
  refine Cuts.induction (P := fun _ _ ts => ∃ front last, ts = front ++ [last] ∧
    last.kind = .finish ∧ ∀ x ∈ front, x.kind ≠ .finish) ?_ ?_ ?_ ?_ h
  · refine fun s _ => ⟨_, _, rfl, rfl, fun x hx => ?_⟩
    obtain ⟨_, -, rfl⟩ := List.mem_map.1 hx
    simp
  · rintro s t k next v ts _ hbite - ⟨front, last, rfl, hlast, hfront⟩
    refine ⟨made k s next ++ front, last, by rw [List.append_assoc], hlast, fun x hx hfinish => ?_⟩
    rcases List.mem_append.1 hx with hx | hx
    · obtain ⟨rfl, -⟩ := mem_made hx
      rw [hfinish] at hbite
      cases hbite with
      | plain _ hk _ => exact hk.not_finish rfl
    · exact hfront x hx hfinish
  · exact fun _ _ _ _ _ _ _ _ _ _ _ _ hfront => hfront
  · rintro s t closed opens line next ts _ _ _ _ ⟨front, last, rfl, hlast, hfront⟩
    refine ⟨blockTokens closed opens line ++ front, last, by rw [List.append_assoc], hlast,
      fun x hx => ?_⟩
    rcases List.mem_append.1 hx with hx | hx
    · exact (mem_blockTokens hx).not_finish
    · exact hfront x hx

end ViewEngine.Script

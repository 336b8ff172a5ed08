/-
# Tokens in front of an edge

Code that is put into other code is cut into the same tokens there if no token reaches beyond its end.
Behind an expression stands a blank, the beginning of a comment, a semicolon or a closing parenthesis,
and none of these characters belongs to the token in front of it: what a look finds is found in front
of any of them.  A string literal is an exception, since every character may stand in it, but it ends
at its closing quotes, and only these matter.

* `Edge`: a text that begins with such a character;
* `numberAt_edge`, `stringAt?_edge`: numbers and string literals;
* `look_edge`: one look.
-/
import Mathlib.Tactic.Common
import Mathlib.Tactic.Lemma
import ViewEngine.Proofs.Script.Chunks

namespace ViewEngine.Script

/-! ## Edges -/

/-- The characters that may stand behind an expression. -/
def edgeChars : Text := [' ', '\t', '\x0c', '\n', '#', '\\', ')', ';']

/-- The text begins with one of them. -/
def Edge (r : Text) : Prop := ∃ d v, r = d :: v ∧ d ∈ edgeChars

section

variable {r : Text} {p : Char → Bool} {d : Char}

lemma edge_cons (hd : d ∈ edgeChars) (v : Text) : Edge (d :: v) := ⟨d, v, rfl, hd⟩

/-- None of the characters passes a test that each of them fails. -/
lemma Edge.head?_any (hr : Edge r) (hp : ∀ d ∈ edgeChars, p d = false) : r.head?.any p = false := by
  obtain ⟨d, v, rfl, hd⟩ := hr
  exact hp d hd

lemma Edge.takeWhile (hr : Edge r) (hp : ∀ d ∈ edgeChars, p d = false) (x : Text) :
    (x ++ r).takeWhile p = x.takeWhile p := by
  obtain ⟨d, v, rfl, hd⟩ := hr
  induction x with
  | nil => simp [hp d hd]
  | cons c x ih => simp [List.takeWhile_cons, ih]

lemma Edge.head?_any_append (hr : Edge r) (hp : ∀ d ∈ edgeChars, p d = false) (x : Text) :
    (x ++ r).head?.any p = x.head?.any p := by
  cases x with
  | nil => exact hr.head?_any hp
  | cons c x => rfl

/-- A word without such a character stands at the front, or it does not, whatever the edge is. -/
lemma Edge.startsWith (hr : Edge r) {w : Text} (hw : ∀ c ∈ w, c ∉ edgeChars) (x : Text) :
    Text.startsWith w (x ++ r) = Text.startsWith w x := by
  induction w generalizing x with
  | nil => rfl
  | cons c w ih =>
    rw [List.forall_mem_cons] at hw
    cases x with
    | nil =>
      obtain ⟨d, v, rfl, hd⟩ := hr
      have hne : c ≠ d := fun heq => hw.1 (heq ▸ hd)
      simp [Text.startsWith, Text.after?, hne]
    | cons e x =>
      have hrest := ih hw.2 x
      simp only [Text.startsWith, List.cons_append, Text.after?] at hrest ⊢
      split
      · exact hrest
      · rfl

end

/-! ## Numbers -/

section

variable {r : Text}

lemma edge_false {p : Char → Bool} (h : (edgeChars.all fun d => !p d) = true) :
    ∀ d ∈ edgeChars, p d = false := fun d hd => by simpa using List.all_eq_true.1 h d hd

lemma isDigit_edge : ∀ d ∈ edgeChars, d.isDigit = false := edge_false (by decide)

lemma isNameLike_edge : ∀ d ∈ edgeChars, isNameLike d = false := edge_false (by decide)

lemma isAlpha_edge : ∀ d ∈ edgeChars, d.isAlpha = false := edge_false (by decide)

lemma isDigitIn_edge (base : Nat) : ∀ d ∈ edgeChars, isDigitIn base d = false := by
  have hletter : ∀ d ∈ edgeChars, (d.isDigit || ('a' ≤ d.toLower && d.toLower ≤ 'f')) = false :=
    edge_false (by decide)
  intro d hd
  unfold isDigitIn
  split
  · exact hletter d hd
  · rw [isDigit_edge d hd, Bool.false_and]

/-- Words without such characters. -/
lemma not_edge {ws : List Text} (h : (ws.all fun w => w.all fun c => !edgeChars.contains c) = true) :
    ∀ w ∈ ws, ∀ c ∈ w, c ∉ edgeChars := fun w hw c hc => by
  simpa using List.all_eq_true.1 (List.all_eq_true.1 h w hw) c hc

/-- Digits end at an edge. -/
lemma digitsFrom_edge {isDigit : Char → Bool} (hdigit : ∀ d ∈ edgeChars, isDigit d = false)
    (hr : Edge r) (base value count : Nat) (x : Text) :
    digitsFrom isDigit base value count (x ++ r) =
      (digitsFrom isDigit base value count x).map fun p => (p.1, p.2.1, p.2.2 ++ r) := by
  obtain ⟨e, v, rfl, he⟩ := hr
  have hscore : e ≠ '_' := by
    rintro rfl
    revert he
    decide
  fun_induction digitsFrom isDigit base value count x with
  | case1 value count =>
    rw [List.nil_append, digitsFrom.eq_def]
    simp [hdigit e he, hscore]
  | case2 value count c cs hc ih =>
    rw [List.cons_append, digitsFrom.eq_def]
    dsimp only
    rw [if_pos hc]
    exact ih
  | case3 value count d ds hd hc ih =>
    rw [List.cons_append, List.cons_append, digitsFrom.eq_def]
    dsimp only
    rw [if_neg hc, if_pos rfl, if_pos hd]
    exact ih
  | case4 value count d ds hd hc =>
    rw [List.cons_append, List.cons_append, digitsFrom.eq_def]
    dsimp only
    rw [if_neg hc, if_pos rfl, if_neg hd]
    rfl
  | case5 value count hc =>
    rw [List.cons_append, List.nil_append, digitsFrom.eq_def]
    simp [hc, hdigit e he]
  | case6 value count c cs hc hscore =>
    rw [List.cons_append, digitsFrom.eq_def]
    dsimp only
    rw [if_neg hc, if_neg hscore]
    rfl

lemma endsNumber_edge (hr : Edge r) (x : Text) : endsNumber (x ++ r) = endsNumber x := by
  have hwords : ∀ w ∈ afterNumberWords, ∀ c ∈ w, c ∉ edgeChars := not_edge (by decide)
  cases x with
  | nil =>
    obtain ⟨d, v, rfl, hd⟩ := hr
    simp [endsNumber, isNameLike_edge d hd]
  | cons c x =>
    have hany : (afterNumberWords.any fun w => Text.startsWith w (c :: x ++ r)) =
        afterNumberWords.any fun w => Text.startsWith w (c :: x) := by
      rw [Bool.eq_iff_iff, List.any_eq_true, List.any_eq_true]
      refine exists_congr fun w => and_congr_right fun hw => ?_
      rw [hr.startsWith (hwords w hw)]
    rw [List.cons_append] at hany ⊢
    rw [endsNumber, endsNumber, hany]

/-- What is read of a number and what follows it, in front of an edge. -/
def behind {α : Type} (r : Text) (p : α × Text) : α × Text := (p.1, p.2 ++ r)

lemma basedNumber_edge (hr : Edge r) (base : Nat) (x : Text) :
    basedNumber base (x ++ r) = (basedNumber base x).map (behind r) := by
  have hscore : (x ++ r).head? = some '_' ↔ x.head? = some '_' := by
    cases x with
    | nil =>
      obtain ⟨d, v, rfl, hd⟩ := hr
      have hne : d ≠ '_' := by
        rintro rfl
        revert hd
        decide
      simp [hne]
    | cons c x => rfl
  have hdigits : (if (x ++ r).head? = some '_' then (x ++ r).tail else x ++ r) =
      (if x.head? = some '_' then x.tail else x) ++ r := by
    by_cases hx : x.head? = some '_'
    · rw [if_pos (hscore.2 hx), if_pos hx]
      obtain ⟨x, rfl⟩ := List.head?_eq_some_iff.1 hx
      rfl
    · rw [if_neg fun h => hx (hscore.1 h), if_neg hx]
  unfold basedNumber
  dsimp only
  rw [hdigits]
  generalize (if x.head? = some '_' then x.tail else x) = y
  cases y with
  | nil =>
    obtain ⟨d, v, rfl, hd⟩ := hr
    simp [isDigitIn_edge base d hd]
  | cons c y =>
    have hread := digitsFrom_edge (isDigitIn_edge base) hr base 0 0 (c :: y)
    rw [List.cons_append] at hread ⊢
    dsimp only
    rw [hread]
    by_cases hc : isDigitIn base c = true
    · rw [if_pos hc, if_pos hc]
      cases digitsFrom (isDigitIn base) base 0 0 (c :: y) with
      | none => rfl
      | some p =>
        obtain ⟨v, n, u⟩ := p
        dsimp only [Option.map_some]
        rw [hr.head?_any_append isDigit_edge, endsNumber_edge hr]
        split <;> rfl
    · rw [if_neg hc, if_neg hc]
      rfl

/-- The digits of an exponent, if there are any. -/
lemma exponentDigits_edge (hr : Edge r) (negative signed : Bool) (ds : Text) :
    (if (ds ++ r).head?.any Char.isDigit then
        match digitsFrom Char.isDigit 10 0 0 (ds ++ r) with
        | some (v, _, r) => some (some (if negative then -(v : Int) else v, r))
        | none => none
      else if signed then none
      else some none) =
    (if ds.head?.any Char.isDigit then
        match digitsFrom Char.isDigit 10 0 0 ds with
        | some (v, _, r) => some (some (if negative then -(v : Int) else v, r))
        | none => none
      else if signed then none
      else some none).map (Option.map (behind r)) := by
  rw [hr.head?_any_append isDigit_edge, digitsFrom_edge isDigit_edge hr]
  split
  · cases digitsFrom Char.isDigit 10 0 0 ds <;> rfl
  · split <;> rfl

lemma exponentAt_edge (hr : Edge r) (x : Text) :
    exponentAt (x ++ r) = (exponentAt x).map (Option.map (behind r)) := by
  have hletter : ∀ d ∈ edgeChars, (decide (d = 'e' ∨ d = 'E')) = false := edge_false (by decide)
  cases x with
  | nil =>
    obtain ⟨d, v, rfl, hd⟩ := hr
    rw [List.nil_append, exponentAt.eq_def]
    dsimp only
    rw [if_neg (of_decide_eq_false (hletter d hd))]
    rfl
  | cons e rest =>
    by_cases hplus : ∃ ds, rest = '+' :: ds
    · obtain ⟨ds, rfl⟩ := hplus
      rw [List.cons_append, List.cons_append, exponentAt, exponentAt]
      split
      · exact exponentDigits_edge hr false true ds
      · rfl
    by_cases hminus : ∃ ds, rest = '-' :: ds
    · obtain ⟨ds, rfl⟩ := hminus
      rw [List.cons_append, List.cons_append, exponentAt, exponentAt]
      split
      · exact exponentDigits_edge hr true true ds
      · rfl
    -- no sign stands there, and the edge is none
    have hsigns : ∀ c ds, rest ++ r = c :: ds → c = '+' ∨ c = '-' → False := by
      intro c ds heq hc
      cases rest with
      | nil =>
        have hsign : ∀ d ∈ edgeChars, (decide (d = '+' ∨ d = '-')) = false := edge_false (by decide)
        obtain ⟨d, v, rfl, hd⟩ := hr
        cases heq
        exact of_decide_eq_false (hsign _ hd) hc
      | cons d rest =>
        cases heq
        rcases hc with rfl | rfl
        · exact hplus ⟨_, rfl⟩
        · exact hminus ⟨_, rfl⟩
    rw [List.cons_append, exponentAt, exponentAt]
    · split
      · exact exponentDigits_edge hr false false rest
      · rfl
    · exact fun ds heq => hplus ⟨ds, heq⟩
    · exact fun ds heq => hminus ⟨ds, heq⟩
    · exact fun ds heq => hsigns _ ds heq (.inl rfl)
    · exact fun ds heq => hsigns _ ds heq (.inr rfl)

lemma decimalRest_edge (hr : Edge r) (whole count : Nat) (zeros : Bool) (x : Text) :
    decimalRest whole count zeros (x ++ r) = (decimalRest whole count zeros x).map (behind r) := by
  have hkind : ∀ (digits scale : Nat) (exponent : Int) (isFloat : Bool) (v : Text),
      (if !endsNumber (v ++ r) then none
        else if isFloat then some (TokenKind.float digits (exponent - scale), v ++ r)
        else if zeros && digits ≠ 0 then none
        else some (.int digits (if zeros then 0 else count), v ++ r)) =
      (if !endsNumber v then none
        else if isFloat then some (TokenKind.float digits (exponent - scale), v)
        else if zeros && digits ≠ 0 then none
        else some (.int digits (if zeros then 0 else count), v)).map (behind r) := by
    intro digits scale exponent isFloat v
    rw [endsNumber_edge hr]
    split
    · rfl
    split
    · rfl
    split <;> rfl
  unfold decimalRest
  extract_lets rest
  -- behind the digits
  have hrest : ∀ (digits scale : Nat) (isFloat : Bool) (u : Text),
      rest (digits, scale, isFloat, u ++ r) = (rest (digits, scale, isFloat, u)).map (behind r) := by
    intro digits scale isFloat u
    simp only [rest, exponentAt_edge hr]
    rcases exponentAt u with _ | _ | ⟨e, v⟩
    · rfl
    · exact hkind digits scale 0 isFloat u
    · exact hkind digits scale e true v
  clear_value rest
  by_cases hpoint : ∃ ds, x = '.' :: ds
  · obtain ⟨ds, rfl⟩ := hpoint
    simp only [List.cons_append]
    rw [hr.head?_any_append isDigit_edge, digitsFrom_edge isDigit_edge hr]
    split
    · rcases digitsFrom Char.isDigit 10 whole 0 ds with _ | ⟨v, n, u⟩
      · rfl
      · exact hrest v n true u
    · exact hrest whole 0 true ds
  · have hedge : ∀ ds, x ++ r ≠ '.' :: ds := by
      intro ds heq
      cases x with
      | nil =>
        obtain ⟨d, v, rfl, hd⟩ := hr
        cases heq
        revert hd
        decide
      | cons c x =>
        cases heq
        exact hpoint ⟨x, rfl⟩
    split
    · next ds heq => exact absurd heq (hedge ds)
    split
    · next ds _ => exact absurd ⟨ds, rfl⟩ hpoint
    · exact hrest whole 0 false x

/-- A number does not depend on the edge behind it. -/
lemma numberAt_edge (x : Text) : ∃ o : Option (TokenKind × Text), ∀ r, Edge r →
    numberAt (x ++ r) = o.map (behind r) := by
  have hdigits : ∀ (zeros : Bool) (y : Text) (r : Text), Edge r →
      (match digitsFrom Char.isDigit 10 0 0 (y ++ r) with
        | some (v, n, r) => decimalRest v n zeros r
        | none => none) =
      (match digitsFrom Char.isDigit 10 0 0 y with
        | some (v, n, r) => decimalRest v n zeros r
        | none => none).map (behind r) := by
    intro zeros y r hr
    rw [digitsFrom_edge isDigit_edge hr]
    rcases digitsFrom Char.isDigit 10 0 0 y with _ | ⟨v, n, u⟩
    · rfl
    · exact decimalRest_edge hr v n zeros u
  by_cases hzero : ∃ c rest, x = '0' :: c :: rest
  · obtain ⟨c, rest, rfl⟩ := hzero
    refine ⟨numberAt ('0' :: c :: rest), fun r hr => ?_⟩
    rw [List.cons_append, List.cons_append, numberAt, numberAt]
    split
    · exact basedNumber_edge hr 16 rest
    split
    · exact basedNumber_edge hr 8 rest
    split
    · exact basedNumber_edge hr 2 rest
    · exact hdigits true ('0' :: c :: rest) r hr
  by_cases hpoint : ∃ rest, x = '.' :: rest
  · obtain ⟨rest, rfl⟩ := hpoint
    exact ⟨numberAt ('.' :: rest), fun r hr => decimalRest_edge hr 0 0 false ('.' :: rest)⟩
  by_cases hsingle : x = ['0']
  -- whether the zero stands alone is seen at the edge
  · subst hsingle
    refine ⟨decimalRest 0 1 true [], fun r hr => ?_⟩
    have hread := hdigits true ['0'] r hr
    obtain ⟨d, v, rfl, hd⟩ := hr
    have hnone : ∀ c c' : Char, (edgeChars.all fun d => !decide (d = c ∨ d = c')) = true →
        ¬ (d = c ∨ d = c') := fun c c' h => of_decide_eq_false (edge_false h d hd)
    rw [List.cons_append, List.nil_append, numberAt, if_neg (hnone 'x' 'X' (by decide)),
      if_neg (hnone 'o' 'O' (by decide)), if_neg (hnone 'b' 'B' (by decide))]
    exact hread
  · refine ⟨numberAt x, fun r hr => ?_⟩
    have hzero' : ∀ c rest, x ++ r ≠ '0' :: c :: rest := by
      intro c rest heq
      rcases x with _ | ⟨e, _ | ⟨e', x⟩⟩
      · have hfirst := hr.head?_any isDigit_edge
        rw [show r = '0' :: c :: rest from heq] at hfirst
        cases hfirst
      · cases heq
        exact hsingle rfl
      · cases heq
        exact hzero ⟨_, _, rfl⟩
    have hpoint' : ∀ rest, x ++ r ≠ '.' :: rest := by
      intro rest heq
      cases x with
      | nil =>
        have hfirst := hr.head?_any (p := (· == '.')) (edge_false (by decide))
        rw [show r = '.' :: rest from heq] at hfirst
        cases hfirst
      | cons e x =>
        cases heq
        exact hpoint ⟨_, rfl⟩
    rw [numberAt, numberAt]
    · exact hdigits false x r hr
    · exact fun c rest heq => hzero ⟨c, rest, heq⟩
    · exact fun rest heq => hpoint ⟨rest, heq⟩
    · exact fun c rest heq => hzero' c rest heq
    · exact fun rest heq => hpoint' rest heq

end

/-! ## String literals -/

/-- A string literal ends at its closing quotes, whatever stands behind these. -/
lemma stringBody?_local {q : Char} {triple : Bool} {t body : Text} {n : Nat} (hq : q = '\'' ∨ q = '"')
    (h : stringBody? q triple t = some (body, n)) :
    ∃ y z, t = y ++ z ∧ y.length = n ∧ y.getLast? = some q ∧ (triple = true → 3 ≤ n) ∧
      ∀ z', stringBody? q triple (y ++ z') = some (body, n) := by
  have hslash := (ne_backslash_of_quote hq).1
  have hend : ∀ z', stringBody? q false (q :: z') = some ([], 1) := by
    intro z'
    cases z' with
    | nil => simp [stringBody?]
    | cons d z' => simp [stringBody?, hslash]
  fun_induction stringBody? q triple t generalizing body n with
  | case1 => cases h
  | case2 c hc =>
    cases h
    obtain ⟨rfl, htriple⟩ : c = q ∧ triple = false := by simpa using hc
    subst htriple
    exact ⟨[c], [], rfl, rfl, rfl, by simp, hend⟩
  | case3 => cases h
  -- a backslash and the character that it takes with it
  | case4 d rest ih =>
    obtain ⟨⟨body, n⟩, hrest, heq⟩ := Option.map_eq_some_iff.1 h
    cases heq
    obtain ⟨y, z, rfl, rfl, hlast, hthree, hagain⟩ := ih hrest
    refine ⟨'\\' :: d :: y, z, rfl, rfl, ?_, fun ht => Nat.le_add_right_of_le (hthree ht), fun z' => ?_⟩
    · rw [List.getLast?_cons_cons, List.getLast?_cons, hlast]
      rfl
    · rw [List.cons_append, List.cons_append, stringBody?, if_pos rfl, hagain]
      rfl
  | case5 c d rest hc htriple hquotes =>
    cases h
    obtain ⟨rfl, rfl, hhead⟩ := hquotes
    obtain ⟨z, rfl⟩ := List.head?_eq_some_iff.1 hhead
    refine ⟨[d, d, d], z, rfl, rfl, rfl, fun _ => Nat.le_refl 3, fun z' => ?_⟩
    subst htriple
    simp [stringBody?, hslash]
  | case6 c d rest hc htriple hquotes ih =>
    obtain ⟨⟨body, n⟩, hrest, heq⟩ := Option.map_eq_some_iff.1 h
    cases heq
    obtain ⟨y, z, hy, rfl, hlast, hthree, hagain⟩ := ih hrest
    -- the next two characters belong to the literal
    obtain ⟨e, y, rfl, he⟩ : ∃ e y', y = d :: e :: y' ∧ rest.head? = some e := by
      have hlong := hthree htriple
      rcases y with _ | ⟨a, _ | ⟨b, y⟩⟩
      · simp at hlong
      · simp at hlong
      · cases hy
        exact ⟨b, y, rfl, rfl⟩
    cases hy
    refine ⟨c :: d :: e :: y, z, rfl, rfl, by rw [List.getLast?_cons_cons, hlast],
      fun _ => Nat.le_add_left 3 _, fun z' => ?_⟩
    have hread := hagain z'
    have hopen : ¬ (c = q ∧ d = q ∧ (e :: y ++ z').head? = some q) := hquotes
    rw [List.cons_append] at hread
    rw [List.cons_append, List.cons_append, stringBody?, if_neg hc, if_pos htriple,
      if_neg hopen, hread]
    rfl
  | case7 d rest htriple hc =>
    cases h
    have hfalse : triple = false := by simpa using htriple
    subst hfalse
    exact ⟨[q], d :: rest, rfl, rfl, rfl, by simp, hend⟩
  | case8 => cases h
  | case9 c d rest hc htriple hcq hfeed ih =>
    obtain ⟨⟨body, n⟩, hrest, heq⟩ := Option.map_eq_some_iff.1 h
    cases heq
    obtain ⟨y, z, hy, rfl, hlast, hthree, hagain⟩ := ih hrest
    obtain ⟨e, y, rfl⟩ := List.exists_cons_of_ne_nil (show y ≠ [] by rintro rfl; cases hlast)
    cases hy
    refine ⟨c :: d :: y, z, rfl, rfl, by rw [List.getLast?_cons_cons, hlast],
      fun ht => absurd ht htriple, fun z' => ?_⟩
    have hread := hagain z'
    rw [List.cons_append] at hread
    rw [List.cons_append, List.cons_append, stringBody?, if_neg hc, if_neg htriple, if_neg hcq,
      if_neg hfeed, hread]
    rfl

lemma two_le_length {q : Char} {y : Text} (h : Text.startsWith [q, q] y = true) : 2 ≤ y.length := by
  obtain ⟨v, hv⟩ := Option.isSome_iff_exists.1 h
  rw [Text.after?_eq_some_iff.1 hv]
  simp

/-- The letters and the quotes in front of a string literal do not depend on the edge. -/
lemma stringAt?_append {r : Text} (hr : Edge r) (x : Text) :
    stringAt? (x ++ r) =
      if stringLetters.contains ((x.takeWhile Char.isAlpha).map Char.toLower) then
        match x.drop (x.takeWhile Char.isAlpha).length with
        | q :: y =>
          if q = '\'' ∨ q = '"' then
            some ((stringBody? q (Text.startsWith [q, q] y)
              (y.drop ((if Text.startsWith [q, q] y then 3 else 1) - 1) ++ r)).map fun p =>
                (.string (((x.takeWhile Char.isAlpha).map Char.toLower).contains 'r')
                  (((x.takeWhile Char.isAlpha).map Char.toLower).contains 'f') p.1,
                (x.takeWhile Char.isAlpha).length +
                  (if Text.startsWith [q, q] y then 3 else 1) + p.2))
          else none
        | [] => none
      else none := by
  have hquote : ∀ d ∈ edgeChars, decide (d = '\'' ∨ d = '"') = false := edge_false (by decide)
  unfold stringAt?
  dsimp only
  rw [hr.takeWhile isAlpha_edge]
  have hlength : (x.takeWhile Char.isAlpha).length ≤ x.length :=
    (List.takeWhile_prefix _).length_le
  rw [List.drop_append_of_le_length hlength]
  split
  · cases x.drop (x.takeWhile Char.isAlpha).length with
    | nil =>
      obtain ⟨d, v, rfl, hd⟩ := hr
      rw [List.nil_append]
      dsimp only
      rw [if_neg (of_decide_eq_false (hquote d hd))]
    | cons q y =>
      rw [List.cons_append]
      dsimp only
      split
      · next hq =>
        have hedge : ∀ c ∈ [q, q], c ∉ edgeChars := by
          intro c hc
          obtain rfl : c = q := by simpa using hc
          exact fun hmem => of_decide_eq_false (hquote c hmem) hq
        rw [hr.startsWith hedge]
        have hroom : (if Text.startsWith [q, q] y = true then 3 else 1) - 1 ≤ y.length := by
          split
          · next htriple => exact two_le_length htriple
          · exact Nat.zero_le _
        rw [List.drop_append_of_le_length hroom]
      · rfl
  · rfl

/-- What is not longer than a text, or ends in a character that does not occur behind it, lies in the
text. -/
lemma append_within {a r w z : Text} {q : Char} (h : a ++ r = w ++ z) (hlast : w.getLast? = some q)
    (hq : w.length ≤ a.length ∨ q ∉ r) : ∃ z', a = w ++ z' := by
  rcases List.append_eq_append_iff.1 h with ⟨w', rfl, hr⟩ | ⟨z', hz, -⟩
  · rcases List.eq_nil_or_concat' w' with rfl | ⟨w', d, rfl⟩
    · exact ⟨[], by simp⟩
    · rw [← List.append_assoc, List.getLast?_concat] at hlast
      cases hlast
      rcases hq with hle | hq
      · simp only [List.length_append, List.length_cons] at hle
        omega
      · rw [hr] at hq
        exact absurd (by simp) hq
  · exact ⟨z', hz⟩

/-- **A string literal lies in front of an edge without quotes**, and if it lies in front of an edge, it
is one in front of any edge. -/
theorem stringAt?_edge {r₀ x : Text} {k : TokenKind} {count : Nat} (hr₀ : Edge r₀)
    (hin : count ≤ x.length ∨ '\'' ∉ r₀ ∧ '"' ∉ r₀)
    (h : stringAt? (x ++ r₀) = some (some (k, count))) :
    k.isMark = false ∧ count ≤ x.length ∧
      (∃ w q, x.take count = w ++ [q] ∧ (q = '\'' ∨ q = '"')) ∧
      ∀ r, Edge r → stringAt? (x ++ r) = some (some (k, count)) := by
  rw [stringAt?_append hr₀] at h
  have hsplit : x = x.takeWhile Char.isAlpha ++ x.drop (x.takeWhile Char.isAlpha).length := by
    have htake := List.prefix_iff_eq_take.1 (List.takeWhile_prefix Char.isAlpha (l := x))
    conv_lhs => rw [← List.take_append_drop (x.takeWhile Char.isAlpha).length x, ← htake]
  split at h
  · next hletters =>
    split at h
    · next q y hdrop =>
      split at h
      · next hq =>
        obtain ⟨⟨body, n⟩, hbody, heq⟩ := Option.map_eq_some_iff.1 (Option.some.inj h)
        cases heq
        obtain ⟨w, z, hw, rfl, hlast, -, hagain⟩ := stringBody?_local hq hbody
        have hshort : w.length ≤ (y.drop ((if Text.startsWith [q, q] y then 3 else 1) - 1)).length ∨
            q ∉ r₀ := by
          rcases hin with hle | hquotes
          · have hlength := congrArg List.length hsplit
            rw [hdrop, List.length_append, List.length_cons] at hlength
            have hone : 1 ≤ if Text.startsWith [q, q] y = true then 3 else 1 := by split <;> omega
            rw [List.length_drop]
            dsimp only at hle
            omega
          · rcases hq with rfl | rfl
            · exact .inr hquotes.1
            · exact .inr hquotes.2
        obtain ⟨z', hz⟩ := append_within hw hlast hshort
        -- letters, the opening quotes, the body with the closing quotes
        obtain ⟨m, hm, hroom⟩ : ∃ m, (if Text.startsWith [q, q] y = true then 3 else 1) = m + 1 ∧
            m ≤ y.length := by
          split
          · next htriple => exact ⟨2, rfl, two_le_length htriple⟩
          · exact ⟨0, rfl, Nat.zero_le _⟩
        rw [hm, Nat.add_sub_cancel] at hz
        obtain ⟨w, rfl⟩ := List.getLast?_eq_some_iff.1 hlast
        obtain ⟨front, hall, hlength⟩ : ∃ front, x = front ++ [q] ++ z' ∧
            (x.takeWhile Char.isAlpha).length + (m + 1) + (w ++ [q]).length =
              (front ++ [q]).length := by
          refine ⟨x.takeWhile Char.isAlpha ++ q :: (y.take m ++ w), ?_, ?_⟩
          · conv_lhs => rw [hsplit, hdrop, ← List.take_append_drop m y, hz]
            simp
          · simp [List.length_take, Nat.min_eq_left hroom]
            omega
        have hcount : (x.takeWhile Char.isAlpha).length +
            (if Text.startsWith [q, q] y = true then 3 else 1) + (w ++ [q]).length =
            (front ++ [q]).length := by rw [hm, hlength]
        dsimp only
        rw [hcount]
        refine ⟨rfl, ?_, ⟨front, q, ?_, hq⟩, fun r hr => ?_⟩
        · have hle := congrArg List.length hall
          simp only [List.length_append] at hle ⊢
          omega
        · rw [hall, List.take_left]
        · rw [stringAt?_append hr, if_pos hletters, hdrop]
          dsimp only
          rw [if_pos hq, hm, Nat.add_sub_cancel, hz, List.append_assoc, hagain, ← hm]
          dsimp only [Option.map_some]
          rw [hcount]
      · cases h
    · cases h
  · cases h

/-- Where no string literal begins, none begins in front of another edge. -/
lemma stringAt?_none_edge {r₀ r x : Text} (hr₀ : Edge r₀) (hr : Edge r)
    (h : stringAt? (x ++ r₀) = none) : stringAt? (x ++ r) = none := by
  rw [stringAt?_append hr₀] at h
  rw [stringAt?_append hr]
  split at h
  · next hletters =>
    rw [if_pos hletters]
    split at h
    · split at h
      · cases h
      · next hq => rw [if_neg hq]
    · rfl
  · next hletters => rw [if_neg hletters]

/-! ## One look -/

/-- The state with more brackets that are open, which were opened in front. -/
def LexState.around (s : LexState) (bs : List (Char × Nat)) : LexState :=
  { s with brackets := s.brackets ++ bs }

/-- A token that lies in a text, whatever the edge behind the text is and whatever brackets were opened
in front; the last of its characters is no blank, and no semicolon, unless that is the token. -/
structure Found (f : LexState → Text → Look) (s : LexState) (c : Char) (x : Text) (k : TokenKind)
    (n : Nat) (next : LexState) : Prop where
  mark : k.isMark = false
  start : next.lineStart = s.lineStart
  indents : next.indents = s.indents
  room : s.brackets.length ≤ bracketLimit → next.brackets.length ≤ bracketLimit
  within : n - 1 ≤ x.length
  last : ∃ w d, c :: x.take (n - 1) = w ++ [d] ∧ Text.isBlank d = false ∧ (d = ';' → k = .op [';'])
  again : ∀ bs r, Edge r → next.brackets.length + bs.length ≤ bracketLimit →
    f (s.around bs) (x ++ r) = .token k n (next.around bs)

section

variable {s next : LexState} {c : Char} {x r₀ : Text} {k : TokenKind} {n : Nat}

lemma cons_take {w v : Text} (h : c :: x = w ++ v) (hw : w ≠ []) : c :: x.take (w.length - 1) = w := by
  obtain ⟨d, w, rfl⟩ := List.exists_cons_of_ne_nil hw
  cases h
  simp

lemma found_number (hr₀ : Edge r₀) (hc : isNumberChar c = true)
    (h : (match numberAt (c :: (x ++ r₀)) with
      | some (k, rest) => lookCut s (c :: (x ++ r₀)) k ((x ++ r₀).length + 1 - rest.length)
      | none => .stop (.fault s.line)) = .token k n next) :
    Found (fun s cs => match numberAt (c :: cs) with
      | some (k, rest) => lookCut s (c :: cs) k (cs.length + 1 - rest.length)
      | none => .stop (.fault s.line)) s c x k n next := by
  obtain ⟨o, ho⟩ := numberAt_edge (c :: x)
  have hread : ∀ r, Edge r → numberAt (c :: (x ++ r)) = o.map (behind r) := ho
  rw [hread r₀ hr₀] at h
  rcases o with _ | ⟨k', v⟩
  · cases h
  have hcount : ∀ r : Text, (x ++ r).length + 1 - (behind r (k', v)).2.length =
      x.length + 1 - v.length := by
    intro r
    simp only [behind, List.length_append]
    omega
  have hle : x.length + 1 - v.length ≤ (c :: x).length := Nat.sub_le _ _
  have htake : ∀ r, (c :: (x ++ r)).take (x.length + 1 - v.length) =
      (c :: x).take (x.length + 1 - v.length) := fun r => List.take_append_of_le_length hle
  dsimp only [Option.map_some] at h
  rw [hcount, lookCut, htake] at h
  cases h
  refine ⟨TokenKind.isMark_of_isNumber (counted_numberAt (hread r₀ hr₀)).2, rfl, rfl, id, by omega, ?_,
    fun bs r hr _ => ?_⟩
  · have hplain : ∀ d, isNumberChar d = true → Text.isBlank d = false ∧ (d = ';' → k' = .op [';']) := by
      refine fun d hd => ⟨isBlank_of_isNumberChar hd, ?_⟩
      rintro rfl
      cases hd
    obtain ⟨⟨w, hw, hall⟩, -⟩ := counted_numberAt (hread r₀ hr₀)
    dsimp only [behind] at hw
    rw [← List.cons_append, ← List.append_assoc] at hw
    have hcut : c :: x = w ++ v := List.append_cancel_right hw
    have hlength := congrArg List.length hcut
    rw [List.length_cons, List.length_append] at hlength
    rcases List.eq_nil_or_concat' w with rfl | ⟨w, d, rfl⟩
    -- the character itself is passed over in any case
    · refine ⟨[], c, ?_, hplain c hc⟩
      rw [show x.length + 1 - v.length - 1 = 0 by rw [List.length_nil] at hlength; omega]
      rfl
    · refine ⟨w, d, ?_, hplain d (hall d (by simp))⟩
      rw [show x.length + 1 - v.length = (w ++ [d]).length by omega]
      exact cons_take hcut (by simp)
  · rw [hread r hr]
    dsimp only [Option.map_some]
    rw [hcount, lookCut, htake]
    rfl

lemma found_string {k' : TokenKind} {count : Nat} (hr₀ : Edge r₀)
    (hin : count ≤ x.length + 1 ∨ '\'' ∉ r₀ ∧ '"' ∉ r₀) (hstring : stringAt? (c :: (x ++ r₀)) = some (some (k', count)))
    (h : lookCut s (c :: (x ++ r₀)) k' count = .token k n next) :
    Found (fun s cs => match stringAt? (c :: cs) with
      | some (some (k, count)) => lookCut s (c :: cs) k count
      | _ => .stop (.fault s.line)) s c x k n next := by
  obtain ⟨hmark, hle, ⟨w, q, hw, hq⟩, hagain⟩ := stringAt?_edge (x := c :: x) hr₀ hin hstring
  rw [lookCut, ← List.cons_append, List.take_append_of_le_length hle] at h
  cases h
  refine ⟨hmark, rfl, rfl, id, Nat.sub_le_of_le_add hle, ⟨w, q, ?_, ?_⟩, fun bs r hr _ => ?_⟩
  · have hcut : c :: x = (w ++ [q]) ++ (c :: x).drop n := by rw [← hw, List.take_append_drop]
    have hlength : n = (w ++ [q]).length := by
      rw [← hw, List.length_take, Nat.min_eq_left hle]
    rw [hlength]
    exact cons_take hcut (by simp)
  · refine ⟨(closed_of_quote hq).1, ?_⟩
    rintro rfl
    exact absurd hq (by decide)
  · rw [show stringAt? (c :: (x ++ r)) = _ from hagain r hr]
    dsimp only
    rw [lookCut, ← List.cons_append, List.take_append_of_le_length hle]
    rfl

lemma found_name (hr₀ : Edge r₀) (hc : isNameLike c = true)
    (h : lookName s (c :: (x ++ r₀)) = .token k n next) :
    Found (fun s cs => lookName s (c :: cs)) s c x k n next := by
  have hword : ∀ r, Edge r → (c :: (x ++ r)).takeWhile isNameLike = (c :: x).takeWhile isNameLike :=
    fun r hr => hr.takeWhile isNameLike_edge (c :: x)
  have hfirst : (c :: x).takeWhile isNameLike ≠ [] := by rw [List.takeWhile_cons, if_pos hc]; simp
  have hlike : ∀ d ∈ (c :: x).takeWhile isNameLike, isNameLike d = true :=
    fun d hd => List.all_eq_true.1 List.all_takeWhile d hd
  have hcut : c :: x = (c :: x).takeWhile isNameLike ++ (c :: x).dropWhile isNameLike :=
    List.takeWhile_append_dropWhile.symm
  have hagain : ∀ s r, Edge r → lookName s (c :: (x ++ r)) =
      if keywords.contains ((c :: x).takeWhile isNameLike) then
        .token (.keyword ((c :: x).takeWhile isNameLike)) ((c :: x).takeWhile isNameLike).length s
      else if ((c :: x).takeWhile isNameLike).all fun c => c.toNat < 128 then
        .token (.name ((c :: x).takeWhile isNameLike)) ((c :: x).takeWhile isNameLike).length s
      else if Text.isIdentifier ((c :: x).takeWhile isNameLike) then
        .token (.name (Text.compatible ((c :: x).takeWhile isNameLike)))
          ((c :: x).takeWhile isNameLike).length s
      else .stop (.fault s.line) := by
    intro s r hr
    unfold lookName
    dsimp only
    rw [hword r hr]
  generalize (c :: x).takeWhile isNameLike = w at hfirst hlike hcut hagain
  have hascii : (∀ d ∈ w, d.toNat < 128) → ∀ d ∈ w, Text.isBlank d = false :=
    fun hlow d hd => isBlank_of_ascii (hlike d hd) (hlow d hd)
  have hkeywords : (keywords.all fun w => w.all fun c => c.toNat < 128) = true := by decide
  obtain ⟨hmark, rfl, rfl, hblank, hread⟩ : k.isMark = false ∧ n = w.length ∧ next = s ∧
      (∀ d ∈ w, Text.isBlank d = false) ∧ ∀ s r, Edge r → lookName s (c :: (x ++ r)) = .token k w.length s := by
    rw [hagain s r₀ hr₀] at h
    split at h
    · next hkeyword =>
      cases h
      refine ⟨rfl, rfl, rfl, hascii fun d hd => ?_, fun s r hr => by rw [hagain s r hr, if_pos hkeyword]⟩
      have hall := List.all_eq_true.1 hkeywords w (List.contains_iff_mem.1 hkeyword)
      simpa using List.all_eq_true.1 hall d hd
    next hkeyword =>
    split at h
    · next hlow =>
      cases h
      refine ⟨rfl, rfl, rfl, hascii fun d hd => ?_, fun s r hr => ?_⟩
      · simpa using List.all_eq_true.1 hlow d hd
      · rw [hagain s r hr, if_neg hkeyword, if_pos hlow]
    next hlow =>
    split at h
    · next hidentifier =>
      cases h
      refine ⟨rfl, rfl, rfl, fun d hd => ?_, fun s r hr => ?_⟩
      · obtain ⟨e, w, rfl⟩ := List.exists_cons_of_ne_nil hfirst
        rw [Text.isIdentifier, Bool.and_eq_true, List.all_eq_true] at hidentifier
        rcases List.mem_cons.1 hd with rfl | hd
        · exact isBlank_of_isNameStart hidentifier.1
        · exact isBlank_of_isNameRest (hidentifier.2 d hd)
      · rw [hagain s r hr, if_neg hkeyword, if_neg hlow, if_pos hidentifier]
    · cases h
  obtain ⟨v, d, rfl⟩ := (List.eq_nil_or_concat' w).resolve_left hfirst
  refine ⟨hmark, rfl, rfl, id, ?_, ⟨v, d, cons_take hcut (by simp), hblank d (by simp), ?_⟩,
    fun bs r hr _ => hread _ r hr⟩
  · have hlength := congrArg List.length hcut
    rw [List.length_cons, List.length_append] at hlength
    omega
  · rintro rfl
    cases hlike ';' (by simp)

/-- A token of one character. -/
lemma found_single {f : LexState → Text → Look} (hmark : k.isMark = false)
    (hstart : next.lineStart = s.lineStart) (hindents : next.indents = s.indents)
    (hroom : s.brackets.length ≤ bracketLimit → next.brackets.length ≤ bracketLimit)
    (hblank : Text.isBlank c = false) (hsemicolon : c = ';' → k = .op [';'])
    (hagain : ∀ bs r, Edge r → next.brackets.length + bs.length ≤ bracketLimit →
      f (s.around bs) (x ++ r) = .token k 1 (next.around bs)) : Found f s c x k 1 next :=
  ⟨hmark, hstart, hindents, hroom, Nat.zero_le _, ⟨[], c, rfl, hblank, hsemicolon⟩, hagain⟩

lemma found_opening (hopening : c = '(' ∨ c = '[' ∨ c = '{')
    (h : lookSymbol s c (x ++ r₀) = .token k n next) :
    Found (fun s cs => lookSymbol s c cs) s c x k n next := by
  rw [lookSymbol, if_pos hopening] at h
  split at h
  · cases h
  next hroom =>
  cases h
  refine found_single rfl rfl rfl (fun _ => Nat.lt_of_not_le hroom) ?_ ?_ fun bs r hr hlength => ?_
  · rcases hopening with rfl | rfl | rfl <;> decide
  · rintro rfl
    exact absurd hopening (by decide)
  · have hstill : ¬ bracketLimit ≤ (s.around bs).brackets.length := by
      simp only [LexState.around, List.length_append, List.length_cons] at hlength ⊢
      omega
    rw [lookSymbol, if_pos hopening, if_neg hstill]
    rfl

lemma found_closing (hopening : ¬ (c = '(' ∨ c = '[' ∨ c = '{')) (hclosing : c = ')' ∨ c = ']' ∨ c = '}')
    (h : lookSymbol s c (x ++ r₀) = .token k n next) :
    Found (fun s cs => lookSymbol s c cs) s c x k n next := by
  rw [lookSymbol, if_neg hopening, if_pos hclosing] at h
  split at h
  · next b line rest hbrackets =>
    split at h
    · next hpartner =>
      cases h
      have hless : s.brackets.length ≤ bracketLimit → rest.length ≤ bracketLimit := by
        rw [hbrackets]
        exact Nat.le_of_succ_le
      refine found_single rfl rfl rfl hless ?_ ?_ fun bs r hr _ => ?_
      · rcases hclosing with rfl | rfl | rfl <;> decide
      · rintro rfl
        exact absurd hclosing (by decide)
      · have hstill : (s.around bs).brackets = (b, line) :: (rest ++ bs) := by
          rw [LexState.around, hbrackets]
          rfl
        rw [lookSymbol, if_neg hopening, if_pos hclosing, hstill]
        dsimp only
        rw [if_pos hpartner]
        rfl
    · cases h
  · cases h

/-- An operator, or a character that means nothing. -/
lemma found_operator (hr₀ : Edge r₀) (hgap : isGap c = false) (hname : isNameLike c = false)
    (hopening : ¬ (c = '(' ∨ c = '[' ∨ c = '{')) (hclosing : ¬ (c = ')' ∨ c = ']' ∨ c = '}'))
    (h : lookSymbol s c (x ++ r₀) = .token k n next) :
    Found (fun s cs => lookSymbol s c cs) s c x k n next := by
  have hlong : ∀ r, Edge r → (longOperators.find? fun o => Text.startsWith o (c :: (x ++ r))) =
      longOperators.find? fun o => Text.startsWith o (c :: x) := by
    have hwords : (longOperators.all fun w => w.all fun c => !edgeChars.contains c) = true := by decide
    intro r hr
    refine List.find?_congr fun o ho => ?_
    exact hr.startsWith (not_edge hwords o ho) (c :: x)
  rw [lookSymbol, if_neg hopening, if_neg hclosing, hlong r₀ hr₀] at h
  cases hfind : longOperators.find? fun o => Text.startsWith o (c :: x) with
  | some o =>
    have hagain : ∀ s r, Edge r → lookSymbol s c (x ++ r) = .token (.op o) o.length s := by
      intro s r hr
      rw [lookSymbol, if_neg hopening, if_neg hclosing, hlong r hr, hfind]
    rw [hfind] at h
    cases h
    have hmem := List.mem_of_find?_eq_some hfind
    have hstarts : Text.startsWith o (c :: x) = true := by simpa using List.find?_some hfind
    obtain ⟨v, hv⟩ := Option.isSome_iff_exists.1 hstarts
    have hcut : c :: x = o ++ v := Text.after?_eq_some_iff.1 hv
    have hall : (longOperators.all fun o =>
        o.getLast?.any fun d => !Text.isBlank d && d != ';') = true := by decide
    obtain ⟨d, hlast, hd⟩ := (Option.any_eq_true _ _).1 (List.all_eq_true.1 hall o hmem)
    obtain ⟨w, rfl⟩ := List.getLast?_eq_some_iff.1 hlast
    rw [Bool.and_eq_true, Bool.not_eq_true', bne_iff_ne] at hd
    refine ⟨rfl, rfl, rfl, id, ?_, ⟨w, d, cons_take hcut (by simp), hd.1, fun heq => absurd heq hd.2⟩,
      fun bs r hr _ => hagain _ r hr⟩
    have hlength := congrArg List.length hcut
    rw [List.length_cons, List.length_append] at hlength
    omega
  | none =>
    have hagain : ∀ s r, Edge r → lookSymbol s c (x ++ r) =
        if shortOperators.contains c then .token (.op [c]) 1 s
        else if Text.isPrintable c then .token (.stray c) 1 s
        else .stop (.fault s.line) := by
      intro s r hr
      rw [lookSymbol, if_neg hopening, if_neg hclosing, hlong r hr, hfind]
    rw [hfind] at h
    dsimp only at h
    split at h
    · next hshort =>
      cases h
      have hall : (shortOperators.all fun d => !Text.isBlank d) = true := by decide
      have hblank := List.all_eq_true.1 hall c (List.contains_iff_mem.1 hshort)
      rw [Bool.not_eq_true'] at hblank
      refine found_single rfl rfl rfl id hblank (by rintro rfl; rfl) fun bs r hr _ => ?_
      rw [hagain _ r hr, if_pos hshort]
    next hshort =>
    split at h
    · next hprintable =>
      cases h
      refine found_single rfl rfl rfl id (isBlank_of_isPrintable hgap hname hprintable) ?_ fun bs r hr _ => ?_
      · rintro rfl
        exact absurd rfl hshort
      · rw [hagain _ r hr, if_neg hshort, if_pos hprintable]
    · cases h

lemma found_symbol (hr₀ : Edge r₀) (hgap : isGap c = false) (hname : isNameLike c = false)
    (h : lookSymbol s c (x ++ r₀) = .token k n next) :
    Found (fun s cs => lookSymbol s c cs) s c x k n next := by
  by_cases hopening : c = '(' ∨ c = '[' ∨ c = '{'
  · exact found_opening hopening h
  by_cases hclosing : c = ')' ∨ c = ']' ∨ c = '}'
  · exact found_closing hopening hclosing h
  · exact found_operator hr₀ hgap hname hopening hclosing h

/-- The character begins neither a blank nor a comment, ends no line and joins none. -/
structure BeginsToken (c : Char) : Prop where
  not_gap : ¬ isGap c = true
  not_remark : c ≠ '#'
  not_feed : c ≠ '\n'
  not_join : c ≠ '\\'

namespace BeginsToken

variable {cs : Text} (hc : BeginsToken c)

include hc

lemma look_number (s : LexState) (hnumber : (c.isDigit || (c = '.' && cs.head?.any Char.isDigit)) = true) :
    look s c cs = match numberAt (c :: cs) with
      | some (k, rest) => lookCut s (c :: cs) k (cs.length + 1 - rest.length)
      | none => .stop (.fault s.line) :=
  (if_neg hc.not_gap).trans ((if_neg hc.not_remark).trans ((if_neg hc.not_feed).trans
    ((if_neg hc.not_join).trans (if_pos hnumber))))

variable (hnumber : ¬ (c.isDigit || (c = '.' && cs.head?.any Char.isDigit)) = true)

include hnumber

lemma look_string (s : LexState) (hstring : stringAt? (c :: cs) = some (some (k, n))) :
    look s c cs = lookCut s (c :: cs) k n := by
  unfold look
  rw [if_neg hc.not_gap, if_neg hc.not_remark, if_neg hc.not_feed, if_neg hc.not_join, if_neg hnumber,
    hstring]

lemma look_nothing (s : LexState) (hstring : stringAt? (c :: cs) = none) :
    look s c cs = if isNameLike c then lookName s (c :: cs) else lookSymbol s c cs := by
  unfold look
  rw [if_neg hc.not_gap, if_neg hc.not_remark, if_neg hc.not_feed, if_neg hc.not_join, if_neg hnumber,
    hstring]

end BeginsToken

/-- **A token in brackets is found in front of any edge**, whatever brackets are opened in front. -/
theorem found_look (hr₀ : Edge r₀) (hin : n ≤ x.length + 1 ∨ '\'' ∉ r₀ ∧ '"' ∉ r₀)
    (hs : s.brackets ≠ []) (h : look s c (x ++ r₀) = .token k n next) :
    Found (fun s cs => look s c cs) s c x k n next := by
  have hbrackets : s.brackets.isEmpty = false := by simpa using hs
  unfold look at h
  split at h
  · cases h
  next hgap =>
  split at h
  · cases h
  next hremark =>
  split at h
  · rw [hbrackets] at h
    cases h
  next hfeed =>
  split at h
  · split at h
    · split at h <;> cases h
    · cases h
  next hslash =>
  have hc : BeginsToken c := ⟨hgap, hremark, hfeed, hslash⟩
  have hpoint : ∀ r, Edge r → (c.isDigit || (c = '.' && (x ++ r).head?.any Char.isDigit)) =
      (c.isDigit || (c = '.' && x.head?.any Char.isDigit)) := fun r hr => by
    rw [hr.head?_any_append isDigit_edge]
  split at h
  · next hnumber =>
    have hchar : isNumberChar c = true := by
      rcases Bool.or_eq_true _ _ ▸ hnumber with hdigit | hpoint
      · exact isNumberChar_of_isDigit hdigit
      · rw [Bool.and_eq_true, decide_eq_true_eq] at hpoint
        rw [hpoint.1]
        rfl
    have hfound := found_number hr₀ hchar h
    refine { hfound with again := fun bs r hr hlength => ?_ }
    rw [hc.look_number _ (by rw [hpoint r hr, ← hpoint r₀ hr₀]; exact hnumber)]
    exact hfound.again bs r hr hlength
  next hnumber =>
  have hnot : ∀ r, Edge r → ¬ (c.isDigit || (c = '.' && (x ++ r).head?.any Char.isDigit)) = true :=
    fun r hr => by
      rw [hpoint r hr, ← hpoint r₀ hr₀]
      exact hnumber
  split at h
  · next hstring =>
    have hcut := h
    rw [lookCut] at hcut
    obtain rfl : _ = n := (Look.token.inj hcut).2.1
    have hfound := found_string hr₀ hin hstring h
    refine { hfound with again := fun bs r hr hlength => ?_ }
    have htoken := hfound.again bs r hr hlength
    obtain ⟨-, -, -, hstill⟩ := stringAt?_edge (x := c :: x) hr₀ hin hstring
    rw [hc.look_string (hnot r hr) _ (hstill r hr)]
    rw [show stringAt? (c :: (x ++ r)) = _ from hstill r hr] at htoken
    exact htoken
  · cases h
  · next hstring =>
    have hnone : ∀ r, Edge r → stringAt? (c :: (x ++ r)) = none :=
      fun r hr => stringAt?_none_edge (x := c :: x) hr₀ hr hstring
    split at h
    · next hname =>
      have hfound := found_name hr₀ hname h
      refine { hfound with again := fun bs r hr hlength => ?_ }
      rw [hc.look_nothing (hnot r hr) _ (hnone r hr), if_pos hname]
      exact hfound.again bs r hr hlength
    · next hname =>
      have hfound :=
        found_symbol hr₀ (Bool.eq_false_iff.2 hgap) (Bool.eq_false_iff.2 hname) h
      refine { hfound with again := fun bs r hr hlength => ?_ }
      rw [hc.look_nothing (hnot r hr) _ (hnone r hr), if_neg hname]
      exact hfound.again bs r hr hlength

end

end ViewEngine.Script

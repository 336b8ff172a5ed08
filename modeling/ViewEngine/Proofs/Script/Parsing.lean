/-
# What parsers read

A parser is described by the tokens that it reads, by those that follow, and by what it gives.  The
combinators come first, then the parts of the grammar that generated code uses: operands that stand
alone, calls with at most one argument, statements on one line, loops and choices.  What is given
remembers lines, so the tokens are described with theirs.

* `Reads.bind`: one parser after another;
* `reads_expression`: an operand behind which no operator stands is an expression;
* `reads_bareCall`, `reads_call`: a name with at most one argument is an operand;
* `reads_expressionLine`, `reads_singleLine`: an expression on a line of its own is a statement, and
  may be all of a script;
* `reads_forEach`, `reads_branch`: a loop and a choice with their blocks.
-/
import Mathlib.Tactic.Common
import Mathlib.Tactic.Lemma
import ViewEngine.Proofs.Code.Literal
import ViewEngine.Proofs.Script.Lexing
import ViewEngine.Script.Parser

namespace ViewEngine.Script.Parser

variable {α β : Type}

/-- The parser reads the tokens `sp` if the tokens `rest` follow them, and gives `a`. -/
def Reads (p : Parser α) (sp rest : List Spot) (a : α) : Prop :=
  ∀ ts, ts.map Token.spot = sp ++ rest → ∃ ts', p ts = some (a, ts') ∧ ts'.map Token.spot = rest

/-- The kind of the token that comes next. -/
def nextKind (sp : List Spot) : Option TokenKind := sp.head?.map (·.1)

lemma bind_apply (p : Parser α) (f : α → Parser β) (ts : List Token) :
    (p >>= f) ts = (p ts).bind fun q => f q.1 q.2 := rfl

lemma atToken_apply (k : TokenKind) (ts : List Token) :
    atToken k ts = some (decide (ts.head?.map (·.kind) = some k), ts) := rfl

lemma head?_kind {ts : List Token} {sp : List Spot} (h : ts.map Token.spot = sp) :
    ts.head?.map (·.kind) = nextKind sp := by
  rw [nextKind, ← h, List.head?_map, Option.map_map]
  rfl

namespace Reads

variable {sp sp' rest : List Spot} {a : α} {b : β} {k : TokenKind} {l : Nat}

lemma pure (a : α) : Reads (pure a) [] rest a := fun ts hts => ⟨ts, rfl, hts⟩

/-- One parser after another. -/
theorem bind {p : Parser α} {f : α → Parser β} (hp : Reads p sp (sp' ++ rest) a)
    (hf : Reads (f a) sp' rest b) : Reads (p >>= f) (sp ++ sp') rest b := by
  intro ts hts
  obtain ⟨ts₁, ha, hts₁⟩ := hp ts (by rw [hts, List.append_assoc])
  obtain ⟨ts₂, hb, hts₂⟩ := hf ts₁ hts₁
  refine ⟨ts₂, ?_, hts₂⟩
  show (p ts).bind (fun q => f q.1 q.2) = _
  rw [ha]
  exact hb

/-- A parser that takes one token, and another behind it. -/
lemma cons_bind {s : Spot} {p : Parser α} {f : α → Parser β} (hp : Reads p [s] (sp' ++ rest) a)
    (hf : Reads (f a) sp' rest b) : Reads (p >>= f) (s :: sp') rest b :=
  hp.bind hf

/-- A parser behind which nothing more is read. -/
lemma last {p : Parser α} {f : α → Parser β} (hp : Reads p sp rest a)
    (hf : Reads (f a) [] rest b) : Reads (p >>= f) sp rest b := by
  rw [← List.append_nil sp]
  exact hp.bind hf

/-! ### Looking at tokens -/

lemma peek_bind {f : Option TokenKind → Parser β}
    (h : Reads (f (nextKind (sp ++ rest))) sp rest b) : Reads (peek >>= f) sp rest b := by
  intro ts hts
  obtain ⟨ts', hb, hts'⟩ := h ts hts
  rw [← head?_kind hts] at hb
  exact ⟨ts', hb, hts'⟩

lemma peekSecond_bind {f : Option TokenKind → Parser β}
    (h : Reads (f (nextKind (sp ++ rest).tail)) sp rest b) :
    Reads (peekSecond >>= f) sp rest b := by
  intro ts hts
  have hsecond : ts[1]?.map (·.kind) = nextKind (sp ++ rest).tail := by
    have htail : ts.tail.map Token.spot = (sp ++ rest).tail := by rw [List.map_tail, hts]
    rw [← head?_kind htail]
    cases ts with
    | nil => rfl
    | cons t ts => cases ts <;> rfl
  obtain ⟨ts', hb, hts'⟩ := h ts hts
  rw [← hsecond] at hb
  exact ⟨ts', hb, hts'⟩

/-- The line of the token that comes next. -/
lemma here_bind {f : Nat → Parser β} (hk : k.isMark = false)
    (h : Reads (f l) ((k, l) :: sp) rest b) : Reads (here >>= f) ((k, l) :: sp) rest b := by
  intro ts hts
  cases ts with
  | nil => cases hts
  | cons t ts =>
    obtain ⟨ht, -⟩ := List.cons.inj hts
    obtain ⟨hkind, hline⟩ := Prod.mk.inj ht
    obtain ⟨ts', hb, hts'⟩ := h (t :: ts) hts
    rw [hkind, hk] at hline
    rw [← hline] at hb
    exact ⟨ts', hb, hts'⟩

/-- The line of the next token, where it does not matter. -/
lemma here_any {f : Nat → Parser β} (h : ∀ line, Reads (f line) sp rest b) :
    Reads (here >>= f) sp rest b :=
  fun ts hts => h _ ts hts

lemma skip_bind {s : Spot} {f : Unit → Parser β} (h : Reads (f ()) sp rest b) :
    Reads (skip >>= f) (s :: sp) rest b := by
  intro ts hts
  cases ts with
  | nil => cases hts
  | cons t ts => exact h ts (List.cons.inj hts).2

lemma atToken_bind {f : Bool → Parser β}
    (h : Reads (f (nextKind (sp ++ rest) = some k)) sp rest b) :
    Reads (atToken k >>= f) sp rest b := by
  intro ts hts
  obtain ⟨ts', hb, hts'⟩ := h ts hts
  rw [← head?_kind hts] at hb
  exact ⟨ts', hb, hts'⟩

lemma accept_yes {f : Bool → Parser β} (h : Reads (f true) sp rest b) :
    Reads (accept k >>= f) ((k, l) :: sp) rest b := by
  intro ts hts
  cases ts with
  | nil => cases hts
  | cons t ts =>
    obtain ⟨ht, hts⟩ := List.cons.inj hts
    have hk : t.kind = k := (Prod.mk.inj ht).1
    obtain ⟨ts', hb, hts'⟩ := h ts hts
    refine ⟨ts', ?_, hts'⟩
    have haccept : accept k (t :: ts) = some (true, ts) := by
      have hat : atToken k (t :: ts) = some (true, t :: ts) := by simpa [atToken_apply] using hk
      show (atToken k >>= _) (t :: ts) = _
      rw [bind_apply, hat]
      rfl
    show (accept k (t :: ts)).bind (fun q => f q.1 q.2) = _
    rw [haccept]
    exact hb

lemma accept_no {f : Bool → Parser β} (hk : nextKind (sp ++ rest) ≠ some k)
    (h : Reads (f false) sp rest b) : Reads (accept k >>= f) sp rest b := by
  intro ts hts
  obtain ⟨ts', hb, hts'⟩ := h ts hts
  refine ⟨ts', ?_, hts'⟩
  rw [← head?_kind hts] at hk
  have haccept : accept k ts = some (false, ts) := by
    have hat : atToken k ts = some (false, ts) := by simp [atToken_apply, hk]
    show (atToken k >>= _) ts = _
    rw [bind_apply, hat]
    rfl
  show (accept k ts).bind (fun q => f q.1 q.2) = _
  rw [haccept]
  exact hb

lemma expect_bind {f : Unit → Parser β} (h : Reads (f ()) sp rest b) :
    Reads (expect k >>= f) ((k, l) :: sp) rest b := by
  intro ts hts
  cases ts with
  | nil => cases hts
  | cons t ts =>
    obtain ⟨ht, hts⟩ := List.cons.inj hts
    have hk : t.kind = k := (Prod.mk.inj ht).1
    obtain ⟨ts', hb, hts'⟩ := h ts hts
    refine ⟨ts', ?_, hts'⟩
    have hexpect : expect k (t :: ts) = some ((), ts) := by
      have hat : atToken k (t :: ts) = some (true, t :: ts) := by simpa [atToken_apply] using hk
      show (atToken k >>= _) (t :: ts) = _
      rw [bind_apply, hat]
      rfl
    show (expect k (t :: ts)).bind (fun q => f q.1 q.2) = _
    rw [hexpect]
    exact hb

lemma accept_then {p q : Parser β} (h : Reads p sp rest b) :
    Reads (accept k >>= fun b => if b = true then p else q) ((k, l) :: sp) rest b :=
  accept_yes h

lemma accept_else {p q : Parser β} (hk : nextKind (sp ++ rest) ≠ some k)
    (h : Reads q sp rest b) :
    Reads (accept k >>= fun b => if b = true then p else q) sp rest b :=
  accept_no hk h

end Reads

lemma head_ne {k k' : TokenKind} (h : k ≠ k') (l : Nat) (sp : List Spot) :
    nextKind ((k, l) :: sp) ≠ some k' :=
  fun heq => h (Option.some.inj heq)

/-! ## Operands -/

/-- Tokens that end an expression follow. -/
def Stops (rest : List Spot) : Prop :=
  ∃ k l sp, rest = (k, l) :: sp ∧ (k = op ":" ∨ k = op ")" ∨ k = .newline)

/-- A token with which an operand can begin. -/
def Leads (k : TokenKind) : Prop :=
  (∃ id, k = .name id) ∨ ∃ raw formatted body, k = .string raw formatted body

lemma Stops.head_ne {rest : List Spot} {k : TokenKind} (h : Stops rest) (hcolon : k ≠ op ":")
    (hclosing : k ≠ op ")") (hnewline : k ≠ .newline) : nextKind ([] ++ rest) ≠ some k := by
  obtain ⟨k', l, sp, rfl, hk'⟩ := h
  intro heq
  cases heq
  rcases hk' with h | h | h
  · exact hcolon h
  · exact hclosing h
  · exact hnewline h

namespace Leads

variable {k : TokenKind}

lemma ne_keyword (h : Leads k) (w : String) (l : Nat) (sp rest : List Spot) :
    nextKind (((k, l) :: sp) ++ rest) ≠ some (word w) := by
  rcases h with ⟨id, rfl⟩ | ⟨raw, formatted, body, rfl⟩
  · intro h
    cases h
  · intro h
    cases h

lemma ne_op (h : Leads k) (o : String) (l : Nat) (sp rest : List Spot) :
    nextKind (((k, l) :: sp) ++ rest) ≠ some (op o) := by
  rcases h with ⟨id, rfl⟩ | ⟨raw, formatted, body, rfl⟩
  · intro h
    cases h
  · intro h
    cases h

end Leads

section

variable {n l : Nat} {k : TokenKind} {sp rest : List Spot} {a : Expr}

/-- Nothing in front of an expression's end is an operator. -/
lemma Stops.no_operator {γ : Type} (h : Stops rest) (f : TokenKind → Option γ)
    (hcolon : f (op ":") = none) (hclosing : f (op ")") = none) (hnewline : f .newline = none) :
    (nextKind ([] ++ rest)).bind f = none := by
  obtain ⟨k, l, sp, rfl, rfl | rfl | rfl⟩ := h
  · exact hcolon
  · exact hclosing
  · exact hnewline

lemma reads_factor (h : Reads (primary n) ((k, l) :: sp) rest a) (hk : Leads k)
    (hr : Stops rest) : Reads (factor (n + 1)) ((k, l) :: sp) rest a := by
  rw [factor]
  -- no sign in front, and no power behind
  refine .here_any fun line => .accept_else (hk.ne_op _ _ _ _) (.accept_else (hk.ne_op _ _ _ _) ?_)
  refine h.last (.accept_else (hr.head_ne ?_ ?_ ?_) (.pure a))
  all_goals decide

lemma reads_product (h : Reads (factor (n + 1)) ((k, l) :: sp) rest a) (hr : Stops rest) :
    Reads (product (n + 2)) ((k, l) :: sp) rest a := by
  rw [product]
  refine .here_any fun line => h.last ?_
  rw [productRest]
  refine .peek_bind ?_
  rw [hr.no_operator productOp? rfl rfl rfl]
  exact .pure a

lemma reads_sum (h : Reads (product (n + 2)) ((k, l) :: sp) rest a) (hr : Stops rest) :
    Reads (sum (n + 3)) ((k, l) :: sp) rest a := by
  rw [sum]
  refine .here_any fun line => h.last ?_
  rw [sumRest]
  refine .peek_bind ?_
  rw [hr.no_operator sumOp? rfl rfl rfl]
  exact .pure a

lemma reads_comparisonLinks (hr : Stops rest) :
    Reads (comparisonLinks (n + 1)) [] rest [] := by
  rw [comparisonLinks]
  -- none of the three tokens that can follow is a comparison
  have hno : Reads comparison? [] rest none := by
    refine .peek_bind ?_
    obtain ⟨k, l, sp, rfl, rfl | rfl | rfl⟩ := hr
    · exact .pure none
    · exact .pure none
    · exact .pure none
  exact hno.last (.pure [])

lemma reads_inversion (h : Reads (sum (n + 3)) ((k, l) :: sp) rest a) (hk : Leads k)
    (hr : Stops rest) : Reads (inversion (n + 4)) ((k, l) :: sp) rest a := by
  rw [inversion]
  refine .accept_else (hk.ne_keyword _ _ _ _) (.here_any fun line => h.last ?_)
  exact (reads_comparisonLinks hr).last (.pure a)

lemma reads_conjunction (h : Reads (inversion (n + 4)) ((k, l) :: sp) rest a) (hr : Stops rest) :
    Reads (conjunction (n + 5)) ((k, l) :: sp) rest a := by
  rw [conjunction]
  refine h.last ?_
  rw [conjunctionRest]
  refine .accept_else (hr.head_ne ?_ ?_ ?_) (.pure a)
  all_goals decide

lemma reads_disjunction (h : Reads (conjunction (n + 5)) ((k, l) :: sp) rest a) (hr : Stops rest) :
    Reads (disjunction (n + 6)) ((k, l) :: sp) rest a := by
  rw [disjunction]
  refine h.last ?_
  rw [disjunctionRest]
  refine .accept_else (hr.head_ne ?_ ?_ ?_) (.pure a)
  all_goals decide

/-- **An operand behind which no operator stands is an expression.** -/
theorem reads_expression (h : Reads (primary n) ((k, l) :: sp) rest a) (hk : Leads k)
    (hr : Stops rest) : Reads (expression (n + 7)) ((k, l) :: sp) rest a := by
  rw [expression]
  have hdisjunction := reads_disjunction (reads_conjunction (reads_inversion (reads_sum
    (reads_product (reads_factor h hk hr) hr) hr) hk hr) hr) hr
  refine hdisjunction.last (.accept_else (hr.head_ne ?_ ?_ ?_) (.pure a))
  all_goals decide

end

/-! ## Names, literals and calls -/

/-- A token follows that is no part of an operand. -/
def Parts (rest : List Spot) : Prop :=
  ∃ k l sp, rest = (k, l) :: sp ∧ k ≠ op "." ∧ k ≠ op "(" ∧ k ≠ op "["

lemma Stops.parts {rest : List Spot} (h : Stops rest) : Parts rest := by
  obtain ⟨k, l, sp, rfl, rfl | rfl | rfl⟩ := h
  all_goals refine ⟨_, l, sp, rfl, ?_, ?_, ?_⟩
  all_goals decide

section

variable {n l : Nat} {sp rest : List Spot} {a : Expr} {id t : Text}

lemma reads_primaryRest_end (hr : Parts rest) {line : Nat} :
    Reads (primaryRest (n + 1) line a) [] rest a := by
  obtain ⟨k, l, sp, rfl, hdot, hround, hsquare⟩ := hr
  rw [primaryRest]
  exact .accept_else (head_ne hdot _ _) (.accept_else (head_ne hround _ _)
    (.accept_else (head_ne hsquare _ _) (.pure a)))

lemma reads_atom_name : Reads (atom (n + 1)) [(.name id, l)] rest (.name l id) := by
  rw [atom]
  exact .here_bind rfl (.peek_bind (.skip_bind (.pure _)))

/-- A name is an operand. -/
lemma reads_name (hr : Parts rest) :
    Reads (primary (n + 2)) [(.name id, l)] rest (.name l id) := by
  rw [primary]
  exact .here_bind rfl (reads_atom_name.last (reads_primaryRest_end hr))

lemma reads_strings (hr : ∀ raw formatted body, nextKind rest ≠ some (.string raw formatted body))
    {line : Nat} : Reads (strings (n + 2) line) [(.string false false (Literal.escape t), l)] rest
      (false, withText t []) := by
  -- literals next to each other are joined, so the parser looks for another one
  have hnone : Reads (strings (n + 1) line) [] rest (false, []) := by
    rw [strings]
    refine .here_any fun _ => .peek_bind ?_
    rw [List.nil_append]
    split
    · rename_i heq
      exact absurd heq (hr _ _ _)
    · exact .pure _
  rw [strings]
  refine .here_any fun _ => .peek_bind (.skip_bind (hnone.last ?_))
  simp only [Bool.false_eq_true, if_false, Literal.unescape?_escape]
  exact .pure _

/-- A literal is an operand. -/
lemma reads_literal (hr : Parts rest)
    (hstring : ∀ raw formatted body, nextKind rest ≠ some (.string raw formatted body)) :
    Reads (primary (n + 4)) [(.string false false (Literal.escape t), l)] rest
      (.constant (.text t)) := by
  have hjoin : joinParts false (withText t []) = .constant (.text t) := by cases t <;> rfl
  have hatom : Reads (atom (n + 3)) [(.string false false (Literal.escape t), l)] rest
      (.constant (.text t)) := by
    rw [atom]
    refine .here_bind rfl (.peek_bind ((reads_strings hstring).last ?_))
    rw [← hjoin]
    exact .pure _
  rw [primary]
  exact .here_bind rfl (hatom.last (reads_primaryRest_end hr))

lemma reads_argument {k : TokenKind} {l' : Nat}
    (h : Reads (primary n) ((k, l) :: sp) ((op ")", l') :: rest) a) (hk : Leads k)
    (hsecond : nextKind (sp ++ (op ")", l') :: rest) ≠ some (op "=")) :
    Reads (argument (n + 8) false) ((k, l) :: sp) ((op ")", l') :: rest) (.plain a) := by
  have hplain : Reads (expression (n + 7) >>= fun e => pure (Item.plain e)) ((k, l) :: sp)
      ((op ")", l') :: rest) (.plain a) :=
    (reads_expression h hk ⟨_, _, rest, rfl, .inr (.inl rfl)⟩).last (.pure _)
  rw [argument]
  refine .accept_else (hk.ne_op _ _ _ _) (.here_any fun line => .peek_bind (.peekSecond_bind ?_))
  -- an equals sign behind the first token would make it the name of the argument
  split
  · rename_i heq
    exact absurd heq hsecond
  · exact hplain

/-- A call of a name is an operand. -/
lemma reads_callWith {f : Text} {l₁ : Nat} {items : List Item}
    (h : Reads (arguments (n + 1) false) sp rest items) (hr : Parts rest) :
    Reads (primary (n + 3)) ((.name f, l) :: (op "(", l₁) :: sp) rest
      (.call l (.name l f) items) := by
  have hcall : Reads (primaryRest (n + 2) l (.name l f)) ((op "(", l₁) :: sp) rest
      (.call l (.name l f) items) := by
    rw [primaryRest]
    refine .accept_else (head_ne (by decide) _ _) (.accept_then (h.last ?_))
    exact reads_primaryRest_end hr
  rw [primary]
  exact .here_bind rfl (reads_atom_name.cons_bind hcall)

/-- A call of a name without arguments is an operand. -/
theorem reads_bareCall {f : Text} {l₁ l₂ : Nat} (hr : Parts rest) :
    Reads (primary (n + 3)) [(.name f, l), (op "(", l₁), (op ")", l₂)] rest
      (.call l (.name l f) []) := by
  have hnone : Reads (arguments (n + 1) false) [(op ")", l₂)] rest [] := by
    rw [arguments]
    exact .accept_then (.pure _)
  exact reads_callWith hnone hr

/-- A call of a name with one argument is an operand. -/
theorem reads_call {f : Text} {k : TokenKind} {l₁ l₂ l₃ : Nat}
    (h : Reads (primary n) ((k, l₂) :: sp) ((op ")", l₃) :: rest) a) (hk : Leads k)
    (hsecond : nextKind (sp ++ (op ")", l₃) :: rest) ≠ some (op "=")) (hr : Parts rest) :
    Reads (primary (n + 11))
      ((.name f, l) :: (op "(", l₁) :: ((k, l₂) :: sp ++ [(op ")", l₃)])) rest
      (.call l (.name l f) [.plain a]) := by
  have harguments : Reads (arguments (n + 9) false) ((k, l₂) :: sp ++ [(op ")", l₃)]) rest
      [.plain a] := by
    rw [arguments]
    refine .accept_else (hk.ne_op _ _ _ _) ((reads_argument h hk hsecond).bind ?_)
    exact .accept_else (head_ne (by decide) _ _) (.expect_bind (.pure _))
  exact reads_callWith harguments hr

end

/-! ## Statements -/

section

variable {n l l' : Nat} {sp rest : List Spot} {a : Expr}

lemma reads_expressions {k : TokenKind} (h : Reads (primary n) ((k, l) :: sp) rest a)
    (hk : Leads k) (hr : Stops rest) : Reads (expressions (n + 8)) ((k, l) :: sp) rest a := by
  have hplain : Reads (item (n + 8)) ((k, l) :: sp) rest (.plain a) := by
    rw [item]
    exact .accept_else (hk.ne_op _ _ _ _) ((reads_expression h hk hr).last (.pure _))
  refine .here_any fun line => hplain.last ?_
  have hcomma : nextKind ([] ++ rest) ≠ some (op ",") := by
    refine hr.head_ne ?_ ?_ ?_
    all_goals decide
  refine .atToken_bind ?_
  rw [decide_eq_false hcomma]
  exact .pure a

/-- An expression on a line of its own is a statement. -/
theorem reads_expressionLine {k : TokenKind}
    (h : Reads (primary n) ((k, l) :: sp) ((.newline, l') :: rest) a) (hk : Leads k) :
    Reads (statement (n + 10)) ((k, l) :: sp ++ [(.newline, l')]) rest [.expression a] := by
  have hr : Stops ((.newline, l') :: rest) := ⟨_, _, rest, rfl, .inr (.inr rfl)⟩
  have hstatement : Reads (expressionStatement (n + 8)) ((k, l) :: sp) ((.newline, l') :: rest)
      (.expression a) := by
    refine .here_any fun line => (reads_expressions h hk hr).last ?_
    exact .accept_else (head_ne (by decide) _ _) (.peek_bind (.pure _))
  -- such a statement begins with none of the words that the grammar asks for first
  have hsimple : Reads (simple (n + 8)) ((k, l) :: sp) ((.newline, l') :: rest)
      (.expression a) := by
    refine .here_any fun line => .accept_else (hk.ne_keyword _ _ _ _) ?_
    refine .accept_else (hk.ne_keyword _ _ _ _) (.accept_else (hk.ne_keyword _ _ _ _) ?_)
    exact .accept_else (hk.ne_keyword _ _ _ _) (.accept_else (hk.ne_keyword _ _ _ _) hstatement)
  have hline : Reads (simpleLine (n + 9)) ((k, l) :: sp ++ [(.newline, l')]) rest
      [.expression a] := by
    rw [simpleLine]
    exact hsimple.bind (.accept_else (head_ne (by decide) _ _) (.expect_bind (.pure _)))
  rw [statement]
  refine .here_any fun line => .accept_else (hk.ne_keyword _ _ _ _) ?_
  refine .accept_else (hk.ne_keyword _ _ _ _) (.accept_else (hk.ne_keyword _ _ _ _) ?_)
  exact .accept_else (hk.ne_keyword _ _ _ _) (.accept_else (hk.ne_keyword _ _ _ _) hline)

/-- The statement that does nothing stands on a line. -/
lemma reads_pass :
    Reads (statement (n + 2)) [(word "pass", l), (.newline, l')] rest [.pass] := by
  have hline : Reads (simpleLine (n + 1)) [(word "pass", l), (.newline, l')] rest [.pass] := by
    rw [simpleLine]
    have hpass : Reads (simple n) [(word "pass", l)] ((.newline, l') :: rest) .pass :=
      .here_any fun line => .accept_then (.pure _)
    exact hpass.cons_bind (.accept_else (head_ne (by decide) _ _) (.expect_bind (.pure _)))
  rw [statement]
  refine .here_any fun line => .accept_else ?_ (.accept_else ?_ (.accept_else ?_
    (.accept_else ?_ (.accept_else ?_ hline))))
  all_goals exact head_ne (by decide) _ _

end

section

variable {n l : Nat} {sp sp' rest : List Spot} {ss ts : List Statement}

/-- Statements that end where the block or the script ends. -/
lemma reads_statements_nil (hr : nextKind rest = some .dedent ∨ nextKind rest = some .finish) :
    Reads (statements (n + 1)) [] rest [] := by
  rw [statements]
  refine .atToken_bind (.atToken_bind ?_)
  have hend : (decide (nextKind ([] ++ rest) = some TokenKind.dedent) ||
      decide (nextKind ([] ++ rest) = some TokenKind.finish)) = true := by
    rcases hr with h | h <;> simp [h]
  rw [hend]
  exact .pure _

/-- A statement in front of others. -/
lemma reads_statements_cons {k : TokenKind}
    (hfirst : Reads (statement n) ((k, l) :: sp) (sp' ++ rest) ss)
    (hothers : Reads (statements n) sp' rest ts) (hk : k.isMark = false) :
    Reads (statements (n + 1)) ((k, l) :: sp ++ sp') rest (ss ++ ts) := by
  rw [statements]
  refine .atToken_bind (.atToken_bind ?_)
  have hgoes : (decide (nextKind (((k, l) :: sp ++ sp') ++ rest) = some TokenKind.dedent) ||
      decide (nextKind (((k, l) :: sp ++ sp') ++ rest) = some TokenKind.finish)) = false := by
    rw [Bool.or_eq_false_iff, decide_eq_false_iff_not, decide_eq_false_iff_not]
    refine ⟨head_ne ?_ _ _, head_ne ?_ _ _⟩
    all_goals
      rintro rfl
      cases hk
  rw [hgoes]
  exact hfirst.bind (hothers.last (.pure _))

/-! ## Blocks -/

/-- The tokens of a block that begins with the statement that does nothing, from the end of its header
on. -/
def blockSpots (l : Nat) (sp : List Spot) : List Spot :=
  (.newline, l) :: (.indent, 0) :: (word "pass", l + 1) :: (.newline, l + 1) :: (sp ++ [(.dedent, 0)])

/-- A block below its header. -/
lemma reads_block (h : Reads (statements (n + 2)) sp ((.dedent, 0) :: rest) ss) :
    Reads (block (n + 3)) (blockSpots l sp) rest (.pass :: ss) := by
  rw [block]
  refine .accept_then (.expect_bind ?_)
  show Reads _ ([(word "pass", l + 1), (.newline, l + 1)] ++ (sp ++ [(.dedent, 0)])) rest _
  exact reads_pass.bind (h.bind (.expect_bind (.pure _)))

/-- No block behind `else`. -/
lemma reads_elseBlock_none (hr : nextKind rest ≠ some (word "else")) :
    Reads (elseBlock (n + 1)) [] rest [] := by
  rw [elseBlock]
  exact .accept_else hr (.pure _)

/-- A block behind `else`. -/
lemma reads_elseBlock (h : Reads (statements (n + 2)) sp ((.dedent, 0) :: rest) ss) :
    Reads (elseBlock (n + 4)) ((word "else", l) :: (op ":", l) :: blockSpots l sp) rest
      (.pass :: ss) := by
  rw [elseBlock]
  exact .accept_then (.expect_bind (reads_block h))

lemma reads_loopTarget {x : Text} {l' : Nat} :
    Reads (loopTarget (n + 3)) [(.name x, l)] ((word "in", l') :: rest) (.name x) := by
  have hparts : Parts ((word "in", l') :: rest) :=
    ⟨_, _, rest, rfl, by decide, by decide, by decide⟩
  rw [loopTarget]
  exact .here_any fun line => (reads_name hparts).last (.atToken_bind (.pure _))

/-- A loop over the elements of a name. -/
theorem reads_forEach {x y : Text} (h : Reads (statements (n + 9)) sp ((.dedent, 0) :: rest) ss)
    (hr : nextKind rest ≠ some (word "else")) :
    Reads (statement (n + 11))
      (onLine l [word "for", .name x, word "in", .name y, op ":"] ++ blockSpots l sp) rest
      [.forEach l (.name x) (.name l y) (.pass :: ss) []] := by
  have hstops : Stops ((op ":", l) :: (blockSpots l sp ++ rest)) := ⟨_, _, _, rfl, .inl rfl⟩
  rw [statement]
  refine .here_bind rfl (.accept_else (head_ne (by decide) _ _) ?_)
  refine .accept_else (head_ne (by decide) _ _) (.accept_then (reads_loopTarget.cons_bind ?_))
  refine .expect_bind (.cons_bind (reads_expressions (reads_name hstops.parts) (.inl ⟨y, rfl⟩) hstops)
    (.expect_bind ((reads_block h).last ((reads_elseBlock_none hr).last (.pure _)))))

/-- A choice by a name. -/
theorem reads_branch {c : Text} (h : Reads (statements (n + 8)) sp ((.dedent, 0) :: (sp' ++ rest)) ss)
    (hno : Reads (elseBlock (n + 9)) sp' rest ts)
    (hr : nextKind (sp' ++ rest) ≠ some (word "elif")) :
    Reads (statement (n + 11))
      (onLine l [word "if", .name c, op ":"] ++ (blockSpots l sp ++ sp')) rest
      [.branch (.name l c) (.pass :: ss) ts] := by
  have hstops : Stops ((op ":", l) :: (blockSpots l sp ++ sp' ++ rest)) := ⟨_, _, _, rfl, .inl rfl⟩
  have hbranch : Reads (branch (n + 10)) ((.name c, l) :: (op ":", l) :: (blockSpots l sp ++ sp')) rest
      (.branch (.name l c) (.pass :: ss) ts) := by
    rw [branch]
    refine .cons_bind (reads_expression (reads_name hstops.parts) (.inl ⟨c, rfl⟩) hstops) ?_
    exact .expect_bind ((reads_block h).bind (.accept_else hr (hno.last (.pure _))))
  rw [statement]
  exact .here_bind rfl (.accept_then (hbranch.last (.pure _)))

end

/-- A whole script. -/
theorem reads_script {n : Nat} {sp : List Spot} {ss : List Statement}
    (h : Reads (statements n) sp [(.finish, 0)] ss) :
    Reads (script n) (sp ++ [(.finish, 0)]) [] ss :=
  Reads.bind h (.expect_bind (.pure _))

/-- A script that is one expression on one line. -/
theorem reads_singleLine {n l l' : Nat} {k : TokenKind} {sp : List Spot} {a : Expr}
    (h : Reads (primary n) ((k, l) :: sp) [(.newline, l'), (.finish, 0)] a) (hk : Leads k)
    (hmark : k.isMark = false) :
    Reads (script (n + 11)) ((k, l) :: sp ++ [(.newline, l')] ++ [(.finish, 0)]) [] [.expression a] := by
  have hline := reads_expressionLine h hk
  have hall := reads_statements_cons hline (reads_statements_nil (.inr rfl)) hmark
  rw [List.append_nil] at hall
  exact reads_script hall

end ViewEngine.Script.Parser

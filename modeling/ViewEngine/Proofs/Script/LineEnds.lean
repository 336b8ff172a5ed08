/-
# Where a line ends behind a colon

The header of a compound statement ends in a colon.  Its block stands behind the colon on the same
line, or else on the next lines, and then an indentation follows the end of the line.  No other line
ends in a colon: an expression and a simple statement end in something else.  One property says all
this (`Whole`), and the tokens of statements behind each other have it if those of each statement do.

* `composed`: what the parsers of statements take;
* `indent_of_colon_newline`: what follows a line of a script that ends in a colon.
-/
import Mathlib.Tactic.Common
import Mathlib.Tactic.Lemma
import ViewEngine.Proofs.Script.Taking

namespace ViewEngine.Script.Parser

variable {α β : Type}

/-! ## Simple statements -/

lemma always_expressions (n : Nat) : Always (expressions n) Firm := by
  intro ts
  rw [expressions]
  refine Takes.here fun line => ?_
  refine ((steady n).item ts).firm_bind fun first ts => Takes.atToken fun b => ?_
  split
  · exact ((steady n).moreItems first ts).solid_bind fun _ => always_nothing
  · split
    · exact always_nothing ts
    · exact always_nothing ts
    · exact always_fail ts

lemma always_assignment (first : Expr) (n : Nat) : Always (assignment first n) Firm := by
  induction n generalizing first with
  | zero => exact always_of_eq_fail (assignment.eq_1 first)
  | succ n ih =>
    intro ts
    rw [assignment]
    refine Takes.idle_bind (always_target first) fun t => ?_
    refine (always_expressions n ts).firm_bind fun e ts => ?_
    refine Takes.accept_solid (by decide) (by decide) (fun ts => ?_) (always_nothing ts)
    exact (ih e ts).solid.solid_bind fun _ => always_nothing

lemma always_singleTarget (e : Expr) : Always (singleTarget e) Idle := by
  intro ts
  rw [singleTarget]
  refine Takes.idle_bind (always_target e) fun t => ?_
  split
  · exact always_fail ts
  · exact always_pure_idle _ ts

lemma augmentOp?_ne {k : TokenKind} {o : BinaryOp} (h : augmentOp? k = some o) :
    k ≠ .newline ∧ k ≠ op ":" := by
  constructor <;> rintro rfl <;> cases h

lemma always_expressionStatement (n : Nat) : Always (expressionStatement n) Firm := by
  intro ts
  rw [expressionStatement]
  refine Takes.here fun line => (always_expressions n ts).firm_bind fun e ts => ?_
  refine Takes.accept_solid (by decide) (by decide) (fun ts => ?_) (Takes.peek fun k hk => ?_)
  · exact (always_assignment e n ts).solid.solid_bind fun _ => always_nothing
  split
  · next o ho =>
    obtain ⟨k, rfl, ho⟩ := Option.bind_eq_some_iff.1 ho
    refine Takes.idle_bind (always_singleTarget e) fun t => ?_
    refine (Takes.skip_firm hk (augmentOp?_ne ho).1 (augmentOp?_ne ho).2 ?_).solid
    exact (always_expressions n _).solid.solid_bind fun _ => always_nothing
  · exact always_nothing ts

lemma always_atEnd : Always atEnd Solid := by
  intro ts
  rw [atEnd]
  exact Takes.atToken fun b => Takes.atToken fun b' => always_nothing ts

lemma always_simple (n : Nat) : Always (simple n) Firm := by
  intro ts
  rw [simple]
  refine Takes.here fun line => ?_
  refine Takes.accept_firm (by decide) (by decide) always_nothing ?_
  refine Takes.accept_firm (by decide) (by decide) always_nothing ?_
  refine Takes.accept_firm (by decide) (by decide) always_nothing ?_
  refine Takes.accept_firm (by decide) (by decide) (fun ts => ?_) ?_
  · refine (always_atEnd ts).solid_bind fun b ts => ?_
    split
    · exact always_nothing ts
    · exact (always_expressions n ts).solid.solid_bind fun _ => always_nothing
  refine Takes.accept_firm (by decide) (by decide) (fun ts => ?_) ?_
  · refine (always_atEnd ts).solid_bind fun b ts => ?_
    split
    · exact always_nothing ts
    · exact ((steady n).expression ts).solid.solid_bind fun _ => always_nothing
  · exact always_expressionStatement n ts

/-! ## Lines and blocks -/

/-- Where a line ends behind a colon, an indentation follows; and no colon stands last. -/
def Whole (u : List TokenKind) : Prop :=
  (∀ front back, u = front ++ op ":" :: .newline :: back → back.head? = some .indent) ∧
    u.getLast? ≠ some (op ":")

section

variable {u v : List TokenKind} {k : TokenKind}

/-- A line that does not end in the middle. -/
lemma Solid.whole (h : Solid u) : Whole u := by
  refine ⟨fun front back hu => ?_, h.2⟩
  exact absurd (hu ▸ by simp) h.1

lemma Firm.whole (h : Firm u) : Whole u := h.solid.whole

lemma whole_nil : Whole [] := solid_nil.whole

lemma whole_single (hk : k ≠ op ":") : Whole [k] := by
  refine ⟨fun front back hu => ?_, fun h => hk (Option.some.inj h)⟩
  have hlength := congrArg List.length hu
  simp only [List.length_append, List.length_cons, List.length_nil] at hlength
  omega

lemma Whole.append (hu : Whole u) (hv : Whole v) : Whole (u ++ v) := by
  refine ⟨fun front back h => ?_, ?_⟩
  · rcases List.append_eq_append_iff.1 h with ⟨w, rfl, hw⟩ | ⟨w, rfl, hw⟩
    · exact hv.1 w back hw
    -- the colon stands in the first part
    rcases w with _ | ⟨k, w⟩
    · exact hv.1 [] back hw.symm
    rcases w with _ | ⟨k', w⟩
    · cases hw
      exact absurd (by simp) hu.2
    · obtain ⟨rfl, htail⟩ := List.cons.inj hw
      obtain ⟨rfl, rfl⟩ := List.cons.inj htail
      show (w ++ v).head? = _
      rw [List.head?_append, hu.1 front w rfl]
      rfl
  · rw [List.getLast?_append]
    cases hlast : v.getLast? with
    | none => exact hu.2
    | some k => exact fun h => hv.2 (hlast.trans h)

lemma Whole.cons (hk : k ≠ op ":") (h : Whole u) : Whole (k :: u) := (whole_single hk).append h

/-- Behind a colon, it leaves a whole. -/
def Behind (u : List TokenKind) : Prop := Whole (op ":" :: u)

lemma Firm.behind (h : Firm u) : Behind u := (h.cons (by decide)).whole

lemma Behind.append (hu : Behind u) (hv : Whole v) : Behind (u ++ v) := Whole.append hu hv

lemma behind_indent (h : Whole u) : Behind (.newline :: .indent :: u) := by
  have hfront : Whole [op ":", .newline, .indent] := by
    refine ⟨fun front back hu => ?_, by decide⟩
    rcases front with _ | ⟨k, _ | ⟨k', front⟩⟩
    · cases hu
      rfl
    · cases hu
    · have hlength := congrArg List.length hu
      simp only [List.length_append, List.length_cons, List.length_nil] at hlength
      omega
  exact hfront.append h

lemma Behind.whole (h : Behind u) : Whole u := by
  refine ⟨fun front back hu => h.1 (op ":" :: front) back (hu ▸ rfl), fun hlast => ?_⟩
  refine h.2 ?_
  rw [List.getLast?_cons, hlast]
  rfl

end

section

variable {p : Parser α} {f : α → Parser β} {ts : List Token}

lemma always_nothing_more {a : α} : Always (pure a) Whole := always_pure whole_nil

lemma Takes.whole_bind (hp : Takes p ts Whole) (hf : ∀ a, Always (f a) Whole) :
    Takes (p >>= f) ts Whole :=
  hp.bind hf fun _ _ => Whole.append

lemma Takes.accept_whole {p q : Parser β} {k : TokenKind} (hcolon : k ≠ op ":")
    (hp : Always p Whole) (hq : Takes q ts Whole) :
    Takes (Parser.accept k >>= fun b => if b = true then p else q) ts Whole :=
  Takes.accept hp (fun _ => Whole.cons hcolon) hq

lemma Takes.expect_whole {f : Unit → Parser β} {k : TokenKind} (hcolon : k ≠ op ":")
    (hf : Always (f ()) Whole) : Takes (Parser.expect k >>= f) ts Whole :=
  Takes.expect hf fun _ => Whole.cons hcolon

/-- A colon, and what may stand behind one. -/
lemma Takes.colon {f : Unit → Parser β} (hf : Always (f ()) Behind) :
    Takes (colon >>= f) ts Whole :=
  Takes.expect hf fun _ h => h

lemma Takes.behind_bind (hp : Takes p ts Behind) (hf : ∀ a, Always (f a) Whole) :
    Takes (p >>= f) ts Behind :=
  hp.bind hf fun _ _ => Behind.append

end

lemma behind_simpleLine (n : Nat) : Always (simpleLine n) Behind := by
  induction n with
  | zero => exact always_of_eq_fail simpleLine.eq_1
  | succ n ih =>
    intro ts
    rw [simpleLine]
    refine Takes.bind (R := Whole) (always_simple n ts) (fun s ts => ?_) fun u v hu => hu.behind.append
    refine Takes.accept_whole (by decide) (fun ts => ?_) ?_
    · refine Takes.accept_whole (by decide) always_nothing_more ?_
      exact Takes.whole_bind ((ih ts).mono fun u => Behind.whole) fun _ => always_nothing_more
    · exact Takes.expect_whole (by decide) always_nothing_more

lemma always_parameters (n : Nat) (optional : Bool) : Always (parameters n optional) Firm := by
  induction n generalizing optional with
  | zero => exact always_of_eq_fail (parameters.eq_1 optional)
  | succ n ih =>
    intro ts
    rw [parameters]
    refine Takes.accept_firm (by decide) (by decide) always_nothing (Takes.here fun line => ?_)
    refine (always_name ts).firm_bind fun id ts => ?_
    -- behind a parameter, with or without a value
    have hrest : ∀ p : Parameter, Always (do
        if ← accept (op ",") then return p :: (← parameters n p.fallback.isSome)
        else
          expect (op ")")
          return [p]) Solid := by
      intro p ts
      refine Takes.accept_solid (by decide) (by decide) (fun ts => ?_) ?_
      · exact (ih _ ts).solid.solid_bind fun _ => always_nothing
      · refine (Takes.expect_firm (by decide) (by decide) ?_).solid
        exact always_nothing
    refine Takes.accept_solid (by decide) (by decide) (fun ts => ?_) ?_
    · exact ((steady n).expression ts).solid.solid_bind fun e => hrest _
    · split
      · exact always_fail ts
      · exact hrest _ ts

/-- What the parsers of statements take, with so much room for the recursion. -/
structure Composed (n : Nat) : Prop where
  statements : Always (statements n) Whole
  statement : Always (statement n) Whole
  branch : Always (branch n) Whole
  elseBlock : Always (elseBlock n) Whole
  finalBlock : Always (finalBlock n) Whole
  handlers : Always (handlers n) Whole
  block : Always (block n) Behind

namespace Composed

variable {n : Nat}

lemma statements_succ (h : Composed n) : Always (Parser.statements (n + 1)) Whole := by
  intro ts
  rw [Parser.statements]
  refine Takes.atToken fun b => Takes.atToken fun b' => ?_
  split
  · exact always_nothing_more ts
  · exact (h.statement ts).whole_bind fun s ts =>
      (h.statements ts).whole_bind fun _ => always_nothing_more

/-- A colon, a block, and what follows the block. -/
lemma colon_block {β : Type} {f : List Statement → Parser β} (h : Composed n)
    (hf : ∀ body, Always (f body) Whole) :
    Always (Parser.colon >>= fun _ => Parser.block n >>= f) Whole :=
  fun _ => Takes.colon fun ts => (h.block ts).behind_bind hf

lemma statement_succ (h : Composed n) : Always (Parser.statement (n + 1)) Whole := by
  intro ts
  have hsimple : Always (simpleLine n) Whole := (behind_simpleLine n).mono fun u => Behind.whole
  have helse : ∀ {β : Type} (g : List Statement → β),
      Always (Parser.elseBlock n >>= fun otherwise => pure (g otherwise)) Whole :=
    fun g ts => (h.elseBlock ts).whole_bind fun _ => always_nothing_more
  rw [Parser.statement]
  refine Takes.here fun line => ?_
  refine Takes.accept_whole (by decide) (fun ts => ?_) ?_
  · exact (h.branch ts).whole_bind fun _ => always_nothing_more
  refine Takes.accept_whole (by decide) (fun ts => ?_) ?_
  · refine (((steady n).expression ts).mono fun u => Firm.whole).whole_bind fun c => ?_
    exact h.colon_block fun body => helse _
  refine Takes.accept_whole (by decide) (fun ts => ?_) ?_
  · refine (((steady n).loopTarget ts).mono fun u => Firm.whole).whole_bind fun t ts => ?_
    refine Takes.expect_whole (by decide) fun ts => ?_
    refine ((always_expressions n ts).mono fun u => Firm.whole).whole_bind fun source => ?_
    exact h.colon_block fun body => helse _
  refine Takes.accept_whole (by decide) (fun ts => ?_) ?_
  · refine ((always_name ts).mono fun u => Firm.whole).whole_bind fun id ts => ?_
    refine Takes.expect_whole (by decide) fun ts => ?_
    refine ((always_parameters n false ts).mono fun u => Firm.whole).whole_bind fun ps => ?_
    exact h.colon_block fun body => always_nothing_more
  refine Takes.accept_whole (by decide) (fun ts => ?_) (hsimple ts)
  refine h.colon_block (fun body ts => Takes.atToken fun b => ?_) ts
  split
  · exact (h.handlers ts).whole_bind fun hs ts => (h.elseBlock ts).whole_bind fun otherwise ts =>
      (h.finalBlock ts).whole_bind fun _ => always_nothing_more
  · exact Takes.expect_whole (by decide) (h.colon_block fun body => always_nothing_more)

lemma branch_succ (h : Composed n) : Always (Parser.branch (n + 1)) Whole := by
  intro ts
  rw [Parser.branch]
  refine (((steady n).expression ts).mono fun u => Firm.whole).whole_bind fun c => ?_
  refine h.colon_block fun yes ts => ?_
  refine Takes.accept_whole (by decide) (fun ts => ?_) ?_
  · exact (h.branch ts).whole_bind fun _ => always_nothing_more
  · exact (h.elseBlock ts).whole_bind fun _ => always_nothing_more

lemma elseBlock_succ (h : Composed n) : Always (Parser.elseBlock (n + 1)) Whole := by
  intro ts
  rw [Parser.elseBlock]
  refine Takes.accept_whole (by decide) (fun ts => ?_) (always_nothing_more ts)
  exact Takes.colon fun ts => (h.block ts)

lemma finalBlock_succ (h : Composed n) : Always (Parser.finalBlock (n + 1)) Whole := by
  intro ts
  rw [Parser.finalBlock]
  refine Takes.accept_whole (by decide) (fun ts => ?_) (always_nothing_more ts)
  exact Takes.colon fun ts => (h.block ts)

lemma handlers_succ (h : Composed n) : Always (Parser.handlers (n + 1)) Whole := by
  intro ts
  have hmore : ∀ a : Handler, Always (do
      let rest ← Parser.handlers n
      return a :: rest) Whole :=
    fun a ts => (h.handlers ts).whole_bind fun _ => always_nothing_more
  rw [Parser.handlers]
  refine Takes.here fun line => ?_
  refine Takes.accept_whole (by decide) (fun ts => ?_) (always_nothing_more ts)
  refine Takes.accept (R := Behind) (fun ts => ?_) (fun _ h => h) ?_
  · exact (h.block ts).behind_bind fun body => hmore _
  refine (((steady n).expression ts).mono fun u => Firm.whole).whole_bind fun kinds ts => ?_
  refine Takes.accept_whole (by decide) (fun ts => ?_) ?_
  · refine ((always_name ts).mono fun u => Firm.whole).whole_bind fun id => ?_
    exact h.colon_block fun body => hmore _
  · exact h.colon_block (fun body => hmore _) ts

lemma block_succ (h : Composed n) : Always (Parser.block (n + 1)) Behind := by
  intro ts
  rw [Parser.block]
  refine Takes.accept (R := fun v => ∃ w, v = .indent :: w ∧ Whole w) (fun ts => ?_) ?_
    (behind_simpleLine n ts)
  · refine Takes.expect (R := Whole) (fun ts => ?_) fun w hw => ⟨w, rfl, hw⟩
    exact (h.statement ts).whole_bind fun s ts => (h.statements ts).whole_bind fun rest ts =>
      Takes.expect_whole (by decide) always_nothing_more
  · rintro v ⟨w, rfl, hw⟩
    exact behind_indent hw

lemma zero : Composed 0 where
  statements := always_of_eq_fail Parser.statements.eq_1
  statement := always_of_eq_fail Parser.statement.eq_1
  branch := always_of_eq_fail Parser.branch.eq_1
  elseBlock := always_of_eq_fail Parser.elseBlock.eq_1
  finalBlock := always_of_eq_fail Parser.finalBlock.eq_1
  handlers := always_of_eq_fail Parser.handlers.eq_1
  block := always_of_eq_fail Parser.block.eq_1

lemma succ (h : Composed n) : Composed (n + 1) where
  statements := h.statements_succ
  statement := h.statement_succ
  branch := h.branch_succ
  elseBlock := h.elseBlock_succ
  finalBlock := h.finalBlock_succ
  handlers := h.handlers_succ
  block := h.block_succ

end Composed

/-- Statements are wholes, and blocks may stand behind a colon. -/
theorem composed (n : Nat) : Composed n := by
  induction n with
  | zero => exact Composed.zero
  | succ n ih => exact ih.succ

/-- **Lines that end in a colon.**  Where a script is read up to the token that ends it, a line that
ends in a colon has an indentation behind it. -/
theorem indent_of_colon_newline {n : Nat} {ts : List Token} {p : Program} {rest : List Token}
    (h : (script n).run ts = some (p, rest)) :
    ∃ used, ts = used ++ rest ∧ (used.getLast?.map (·.kind)) = some .finish ∧
      Whole (used.map (·.kind)) := by
  have hscript : Takes (script n) ts
      (fun u => u.getLast? = some .finish ∧ Whole u) := by
    rw [script]
    refine Takes.bind (R := (· = [.finish])) ((composed n).statements ts) (fun ss ts => ?_) ?_
    · exact Takes.expect (R := Idle) (always_pure_idle ss) fun v hv => by rw [hv]
    · rintro u v hu rfl
      exact ⟨by simp, hu.append (whole_single (by decide))⟩
  obtain ⟨used, hts, hlast, hwhole⟩ := hscript p rest h
  exact ⟨used, hts, by rw [← List.getLast?_map, hlast], hwhole⟩

end ViewEngine.Script.Parser

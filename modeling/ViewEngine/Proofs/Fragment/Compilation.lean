/-
# The script of an outline

The code of an outline compiles, and to nothing else than the script of the outline: every line of
the code becomes the statement that stands for it, and remembers its own line.

* `Outline.reads_spots`: the parser reads the tokens of the code as the script;
* `Outline.compile_code`: the code compiles to the script.
-/
import Mathlib.Tactic.Common
import Mathlib.Tactic.Lemma
import ViewEngine.Proofs.Fragment.Tokens
import ViewEngine.Script.Program

namespace ViewEngine.Fragment

open Script (Expr Item Spot onLine)

/-! ## Parsing -/

section

open Script.Parser

/-- Tokens that end the statements of a block. -/
def EndsBlock (sp : List Spot) : Prop :=
  nextKind sp = some .dedent ∨ nextKind sp = some .finish

variable {n l : Nat} {rest : List Spot}

lemma reads_operand (e : Operand) (hr : Parts rest) :
    Reads (primary (n + 13)) (onLine l e.kinds) rest (e.expr l) := by
  cases e with
  | name x => exact reads_name hr
  | call f x =>
    have hparts : Parts ((op ")", l) :: rest) := ⟨_, _, _, rfl, by decide, by decide, by decide⟩
    exact reads_call (reads_name hparts) (.inl ⟨x.id, rfl⟩) (head_ne (by decide) _ _) hr

/-- With what an argument begins, and that it has no name. -/
def BeginsArgument (ks : List Script.TokenKind) (l : Nat) (rest : List Spot) : Prop :=
  ∃ k ks', ks = k :: ks' ∧ Leads k ∧ nextKind (onLine l ks' ++ rest) ≠ some (op "=")

lemma beginsArgument_operand (e : Operand) : BeginsArgument e.kinds l ((op ")", l) :: rest) := by
  cases e with
  | name x => exact ⟨_, _, rfl, .inl ⟨x.id, rfl⟩, head_ne (by decide) _ _⟩
  | call f x => exact ⟨_, _, rfl, .inl ⟨f.id, rfl⟩, head_ne (by decide) _ _⟩

lemma beginsArgument_appended (a : Appended) : BeginsArgument a.kinds l ((op ")", l) :: rest) := by
  cases a with
  | literal t => exact ⟨_, _, rfl, .inr ⟨_, _, _, rfl⟩, head_ne (by decide) _ _⟩
  | raw e => exact beginsArgument_operand e
  | escaped e => exact ⟨_, _, rfl, .inl ⟨_, rfl⟩, head_ne (by decide) _ _⟩

/-- A call of a name on one line. -/
lemma reads_callOf {f : Text} {ks : List Script.TokenKind} {a : Expr}
    (h : Reads (primary n) (onLine l ks) ((op ")", l) :: rest) a)
    (hks : BeginsArgument ks l ((op ")", l) :: rest)) (hr : Parts rest) :
    Reads (primary (n + 11)) (onLine l (.name f :: op "(" :: (ks ++ [op ")"]))) rest
      (.call l (.name l f) [.plain a]) := by
  obtain ⟨k, ks, rfl, hk, hsecond⟩ := hks
  have hcall : Reads (primary (n + 11))
      ((.name f, l) :: (op "(", l) :: ((k, l) :: onLine l ks ++ [(op ")", l)])) rest
      (.call l (.name l f) [.plain a]) := reads_call h hk hsecond hr
  simpa [onLine] using hcall

lemma reads_appended (a : Appended) :
    Reads (primary (n + 24)) (onLine l a.kinds) ((op ")", l) :: (.newline, l) :: rest) (a.expr l) := by
  have hparts : ∀ sp, Parts ((op ")", l) :: sp) := fun sp =>
    ⟨_, _, sp, rfl, by decide, by decide, by decide⟩
  cases a with
  | literal t => exact reads_literal (hparts _) fun _ _ _ => head_ne (by simp [op]) _ _
  | raw e => exact reads_operand e (hparts _)
  | escaped e =>
    exact reads_callOf (reads_operand e (hparts _)) (beginsArgument_operand e) (hparts _)

/-- A line that appends something. -/
lemma reads_appendLine (a : Appended) :
    Reads (statement (n + 45)) (onLine l a.lineKinds) rest [appends l l (a.expr l)] := by
  have hparts : Parts ((.newline, l) :: rest) := ⟨_, _, rest, rfl, by decide, by decide, by decide⟩
  have hcall := reads_callOf (f := outputId) (reads_appended (n := n) a) (beginsArgument_appended a)
    hparts
  have hline := reads_expressionLine hcall (.inl ⟨outputId, rfl⟩)
  have hkinds : onLine l a.lineKinds =
      onLine l (.name outputId :: op "(" :: (a.kinds ++ [op ")"])) ++ [(.newline, l)] := by
    simp [Appended.lineKinds, onLine]
  rw [hkinds]
  exact hline

namespace Outline

/-- A bound on the recursion of the parser that the code needs. -/
def size : Outline → Nat
  | done => 0
  | append _ _ rest => rest.size + 1
  | each _ _ _ body rest => body.size + rest.size + 3
  | branch _ _ yes rest => yes.size + rest.size + 4
  | choice _ _ yes _ no rest => yes.size + no.size + rest.size + 5

/-- Statements do not go on with another part of the one in front. -/
lemma spots_head_ne (o : Outline) (m : Nat) (hr : EndsBlock rest) {w : String}
    (hfor : word "for" ≠ word w) (hif : word "if" ≠ word w) :
    nextKind (o.spots m ++ rest) ≠ some (word w) := by
  cases o with
  | done =>
    rcases hr with hr | hr
    all_goals
      intro heq
      rw [spots, List.nil_append, hr] at heq
      cases heq
  | append line a rest => exact head_ne (by simp [word]) _ _
  | each line x xs body rest => exact head_ne hfor _ _
  | branch line c yes rest => exact head_ne hif _ _
  | choice line c yes line' no rest => exact head_ne hif _ _

/-- **The parser reads the tokens of the code as the script.** -/
theorem reads_spots (o : Outline) (n m : Nat) {rest : List Spot} (hr : EndsBlock rest) :
    Reads (Script.Parser.statements (n + 50 + o.size)) (o.spots m) rest (o.script m) := by
  induction o generalizing n m rest with
  | done => exact reads_statements_nil hr
  | append line a tail ih =>
    have hfuel : n + 50 + tail.size = (n + 5 + tail.size) + 45 := by omega
    exact reads_statements_cons (hfuel ▸ reads_appendLine a) (ih n (m + 1) hr) rfl
  | each line x xs body tail ihbody ih =>
    -- the body and the statements behind the loop are read with what is left of the same bound
    have hbody := @ihbody (n + tail.size) (m + 2)
      ((.dedent, 0) :: (tail.spots (m + 2 + body.height) ++ rest)) (.inl rfl)
    have htail := ih (n + body.size + 2) (m + 2 + body.height) hr
    have hfuel : n + 50 + (each line x xs body tail).size =
        (n + 41 + body.size + tail.size) + 11 + 1 := by rw [size]; omega
    have hfuelBody : n + tail.size + 50 + body.size = (n + 41 + body.size + tail.size) + 9 := by omega
    have hfuelTail : n + body.size + 2 + 50 + tail.size = (n + 41 + body.size + tail.size) + 11 := by
      omega
    rw [hfuelBody] at hbody
    rw [hfuelTail] at htail
    rw [hfuel, spots, ← List.append_assoc]
    have hloop := reads_forEach (l := m) (x := x.id) (y := xs.id) hbody
      (spots_head_ne tail _ hr (by decide) (by decide))
    exact reads_statements_cons hloop htail rfl
  | branch line c yes tail ihyes ih =>
    have hyes := @ihyes (n + tail.size) (m + 2)
      ((.dedent, 0) :: ([] ++ (tail.spots (m + 2 + yes.height) ++ rest))) (.inl rfl)
    have htail := ih (n + yes.size + 3) (m + 2 + yes.height) hr
    have hfuel : n + 50 + (branch line c yes tail).size =
        (n + 42 + yes.size + tail.size) + 11 + 1 := by rw [size]; omega
    have hfuelYes : n + tail.size + 50 + yes.size = (n + 42 + yes.size + tail.size) + 8 := by omega
    have hfuelTail : n + yes.size + 3 + 50 + tail.size = (n + 42 + yes.size + tail.size) + 11 := by
      omega
    rw [hfuelYes] at hyes
    rw [hfuelTail] at htail
    rw [hfuel, spots, ← List.append_assoc]
    have hnone : Reads (elseBlock (n + 42 + yes.size + tail.size + 9)) []
        (tail.spots (m + 2 + yes.height) ++ rest) [] :=
      reads_elseBlock_none (spots_head_ne tail _ hr (by decide) (by decide))
    have hbranch := reads_branch (l := m) (c := c.id) hyes hnone
      (spots_head_ne tail _ hr (by decide) (by decide))
    rw [List.append_nil] at hbranch
    exact reads_statements_cons hbranch htail rfl
  | choice line c yes line' no tail ihyes ihno ih =>
    have hno := @ihno (n + yes.size + tail.size) (m + 2 + yes.height + 2)
      ((.dedent, 0) :: (tail.spots (m + 2 + yes.height + 2 + no.height) ++ rest)) (.inl rfl)
    have hyes := @ihyes (n + no.size + tail.size + 1) (m + 2) ((.dedent, 0) ::
      (((word "else", m + 2 + yes.height) :: (op ":", m + 2 + yes.height) ::
          blockSpots (m + 2 + yes.height) (no.spots (m + 2 + yes.height + 2))) ++
        (tail.spots (m + 2 + yes.height + 2 + no.height) ++ rest))) (.inl rfl)
    have htail := ih (n + yes.size + no.size + 4) (m + 2 + yes.height + 2 + no.height) hr
    have hfuel : n + 50 + (choice line c yes line' no tail).size =
        (n + 43 + yes.size + no.size + tail.size) + 11 + 1 := by rw [size]; omega
    have hfuelYes : n + no.size + tail.size + 1 + 50 + yes.size =
        (n + 43 + yes.size + no.size + tail.size) + 8 := by omega
    have hfuelNo : n + yes.size + tail.size + 50 + no.size =
        (n + 43 + yes.size + no.size + tail.size + 5) + 2 := by omega
    have hfuelTail : n + yes.size + no.size + 4 + 50 + tail.size =
        (n + 43 + yes.size + no.size + tail.size) + 11 := by omega
    rw [hfuelYes] at hyes
    rw [hfuelNo] at hno
    rw [hfuelTail] at htail
    rw [hfuel]
    have hbranch := reads_branch (l := m) (c := c.id) hyes (reads_elseBlock hno)
      (head_ne (by decide) _ _)
    have hspots : (choice line c yes line' no tail).spots m =
        (onLine m (branchKinds c) ++ (blockSpots m (yes.spots (m + 2)) ++
          ((word "else", m + 2 + yes.height) :: (op ":", m + 2 + yes.height) ::
            blockSpots (m + 2 + yes.height) (no.spots (m + 2 + yes.height + 2))))) ++
          tail.spots (m + 2 + yes.height + 2 + no.height) := by
      simp [spots, elseKinds, onLine]
    rw [hspots]
    exact reads_statements_cons hbranch htail rfl

/-- The bound is at most twice the number of lines. -/
lemma size_le_height (o : Outline) : o.size ≤ 2 * o.height := by
  induction o with
  | done => exact Nat.le_refl 0
  | append line a rest ih => simp only [size, height]; omega
  | each line x xs body rest ihbody ih => simp only [size, height]; omega
  | branch line c yes rest ihyes ih => simp only [size, height]; omega
  | choice line c yes line' no rest ihyes ihno ih => simp only [size, height]; omega

/-- Every statement takes a line. -/
lemma height_le_length (o : Outline) (d : Nat) : o.height ≤ (o.code d).length := by
  rw [← length_statements o d, code, List.length_flatMap]
  induction o.statements d with
  | nil => exact Nat.le_refl 0
  | cons s ss ih =>
    have hline : 1 ≤ s.code.length := by
      simp only [Statement.code, List.length_append, List.length_singleton]
      omega
    rw [List.length_cons, List.map_cons, List.sum_cons]
    omega

/-- The code of a view parses. -/
theorem parse?_code (o : Outline) (hblocks : o.blocks ≤ Script.indentLimit) :
    Script.parse? (o.code 0) = some (o.script 1) := by
  obtain ⟨hspots, hending⟩ := lex_code o hblocks
  have hsize := size_le_height o
  have hheight := height_le_length o 0
  obtain ⟨n, hfuel⟩ : ∃ n, depthFor (o.code 0).length = n + 50 + o.size :=
    ⟨depthFor (o.code 0).length - 50 - o.size, by rw [depthFor]; omega⟩
  have hreads := reads_script (reads_spots o n 1 (.inr rfl))
  obtain ⟨ts, hscript, -⟩ :=
    hreads (Script.lex 1 (o.code 0)).list (by rw [hspots, List.append_nil])
  unfold Script.parse?
  simp only [hending, if_true, hfuel]
  show ((Script.Parser.script (n + 50 + o.size)) (Script.lex 1 (o.code 0)).list).map (·.1) =
    some (o.script 1)
  rw [hscript]
  rfl

end Outline

end

/-! ## Folding and checking -/

open Script (allDistinct checkAll checkOne foldStatements)

/-- A name that has no value in advance. -/
lemma folded_name {l : Nat} {id : Text} (h : id ≠ Script.debugId) :
    (Expr.name l id).folded = .name l id := by
  rw [Expr.folded, Script.Fold.name, if_neg h]

lemma folded_call {l : Nat} {f e : Expr} (hf : f.folded = f) (he : e.folded = e) :
    (Expr.call l f [.plain e]).folded = .call l f [.plain e] := by
  show Expr.call l f.folded [.plain e.folded] = _
  rw [hf, he]

lemma folded_appends {l l' : Nat} {e : Expr} (he : e.folded = e) :
    foldStatements [appends l l' e] = [appends l l' e] :=
  congrArg (fun e => [Script.Statement.expression e]) (folded_call (folded_name (by decide)) he)

lemma Variable.ne_debug (x : Variable) : x.id ≠ Script.debugId := by
  intro h
  have hvisible := x.visible
  rw [h] at hvisible
  cases hvisible

lemma folded_variable (x : Variable) (l : Nat) : (Expr.name l x.id).folded = .name l x.id :=
  folded_name x.ne_debug

lemma folded_operand (e : Operand) (l : Nat) : (e.expr l).folded = e.expr l := by
  cases e with
  | name x => exact folded_variable x l
  | call f x => exact folded_call (folded_variable f l) (folded_variable x l)

namespace Outline

/-- Nothing in what is appended can be done in advance. -/
lemma folded_appended (a : Appended) (l : Nat) : (a.expr l).folded = a.expr l := by
  cases a with
  | literal t => rfl
  | raw e => exact folded_operand e l
  | escaped e => exact folded_call (folded_name (by decide)) (folded_operand e l)

lemma foldStatements_cons (s : Script.Statement) (ss : Script.Program) :
    foldStatements (s :: ss) = foldStatements [s] ++ foldStatements ss := rfl

/-- Nothing in the script can be done in advance. -/
lemma folded (o : Outline) (n : Nat) : foldStatements (o.script n) = o.script n := by
  induction o generalizing n with
  | done => rfl
  | append line a rest ih =>
    rw [script, foldStatements_cons, folded_appends (folded_appended a n), ih]
    rfl
  | each line x xs body rest ihbody ih =>
    simp only [script, foldStatements, Script.Statement.folded, Script.Target.folded,
      folded_variable, ihbody, ih]
  | branch line c yes rest ihyes ih =>
    simp only [script, foldStatements, Script.Statement.folded, folded_variable, ihyes, ih]
  | choice line c yes line' no rest ihyes ihno ih =>
    simp only [script, foldStatements, Script.Statement.folded, folded_variable, ihyes, ihno, ih]

/-- The script defines no function. -/
lemma distinct (o : Outline) (n : Nat) : allDistinct (o.script n) = .ok () := by
  induction o generalizing n with
  | done => rfl
  | append line a rest ih => exact ih (n + 1)
  | each line x xs body rest ihbody ih =>
    simp only [script, allDistinct, Script.Statement.distinct, ihbody, ih]
    rfl
  | branch line c yes rest ihyes ih =>
    simp only [script, allDistinct, Script.Statement.distinct, ihyes, ih]
    rfl
  | choice line c yes line' no rest ihyes ihno ih =>
    simp only [script, allDistinct, Script.Statement.distinct, ihyes, ihno, ih]
    rfl

variable {s : Script.Surroundings}

lemma checkAll_nil : ∀ n, checkAll n s [] = .ok ()
  | 0 => by simp only [checkAll]
  | n + 1 => by simp only [checkAll]

lemma checkAll_cons {a : Script.Statement} {ss : Script.Program} (ha : ∀ n, checkOne n s a = .ok ())
    (hss : ∀ n, checkAll n s ss = .ok ()) : ∀ n, checkAll n s (a :: ss) = .ok ()
  | 0 => by simp only [checkAll]
  | n + 1 => by
    rw [checkAll, ha n]
    exact hss n

lemma checkOne_pass : ∀ n, checkOne n s .pass = .ok ()
  | 0 => by simp only [checkOne]
  | n + 1 => by simp only [checkOne]

lemma checkOne_appends {l l' : Nat} {e : Expr} (he : e.check = .ok ()) :
    ∀ n, checkOne n s (appends l l' e) = .ok ()
  | 0 => by simp only [checkOne]
  | n + 1 => by
    simp only [checkOne, appends, Expr.check, Script.checkItems, he]
    rfl

lemma check_operand (e : Operand) (l : Nat) : (e.expr l).check = .ok () := by
  cases e <;> rfl

lemma check_appended (a : Appended) (l : Nat) : (a.expr l).check = .ok () := by
  cases a with
  | literal t => rfl
  | raw e => exact check_operand e l
  | escaped e =>
    simp only [Appended.expr, Expr.check, Script.checkItems, check_operand]
    rfl

lemma checkOne_each {l l' : Nat} {x xs : Text} {bs : Script.Program}
    (hs : s.blocks.length < Script.blockLimit)
    (hbs : ∀ n, checkAll n { s with blocks := .loop :: s.blocks } bs = .ok ()) :
    ∀ n, checkOne n s (.forEach l (.name x) (.name l' xs) bs []) = .ok ()
  | 0 => by simp only [checkOne]
  | n + 1 => by
    simp only [checkOne, Script.Surroundings.inside, hs, if_true, Expr.check, Script.Target.check]
    show (checkAll n { s with blocks := .loop :: s.blocks } bs >>= fun _ => checkAll n s []) = _
    rw [hbs n, checkAll_nil n]
    rfl

lemma checkOne_branch {l : Nat} {c : Text} {ys ns : Script.Program}
    (hys : ∀ n, checkAll n s ys = .ok ()) (hns : ∀ n, checkAll n s ns = .ok ()) :
    ∀ n, checkOne n s (.branch (.name l c) ys ns) = .ok ()
  | 0 => by simp only [checkOne]
  | n + 1 => by
    simp only [checkOne, Expr.check, hys n, hns n]
    rfl

/-- The script is accepted unless its loops lie too deep inside each other. -/
lemma checks (o : Outline) (m : Nat) (hs : s.blocks.length + o.loops ≤ Script.blockLimit) :
    ∀ n, checkAll n s (o.script m) = .ok () := by
  induction o generalizing s m with
  | done => exact checkAll_nil
  | append line a rest ih =>
    exact checkAll_cons (checkOne_appends (check_appended a m)) (ih (m + 1) hs)
  | each line x xs body rest ihbody ih =>
    simp only [loops] at hs
    have hbody := ihbody (s := { s with blocks := .loop :: s.blocks }) (m + 2)
      (by rw [List.length_cons]; omega)
    exact checkAll_cons (checkOne_each (by omega) (checkAll_cons checkOne_pass hbody))
      (ih _ (by omega))
  | branch line c yes rest ihyes ih =>
    simp only [loops] at hs
    exact checkAll_cons
      (checkOne_branch (checkAll_cons checkOne_pass (ihyes _ (by omega))) checkAll_nil)
      (ih _ (by omega))
  | choice line c yes line' no rest ihyes ihno ih =>
    simp only [loops] at hs
    exact checkAll_cons
      (checkOne_branch (checkAll_cons checkOne_pass (ihyes _ (by omega)))
        (checkAll_cons checkOne_pass (ihno _ (by omega)))) (ih _ (by omega))

/-- **The code of an outline compiles to its script.** -/
theorem compile_code (o : Outline) (hloops : o.loops ≤ Script.blockLimit)
    (hblocks : o.blocks ≤ Script.indentLimit) : Script.compile (o.code 0) = .ok (o.script 1) := by
  have hzero : (o.code 0).contains '\x00' = false := by
    rw [← Bool.not_eq_true, List.contains_iff_mem]
    exact not_mem_code (.inr (.inr rfl)) (by decide) o 0
  have hcheck : Script.check (o.code 0).length (o.script 1) = .ok () := by
    rw [Script.check, o.distinct 1]
    exact o.checks 1 (by simpa using hloops) _
  unfold Script.compile
  simp only [hzero, Bool.false_eq_true, if_false, parse?_code o hblocks, o.folded 1, hcheck]

end Outline

end ViewEngine.Fragment

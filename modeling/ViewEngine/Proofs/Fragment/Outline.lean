/-
# Outlines of generated code

What the code of a view of the fragment looks like, whatever text it was generated from: lines that
append something to the output, loops and choices, each with the line of the view that it comes from.
An outline stands between the view and the script.  On the one side it is a list of statements, on
the other a script, and the two have their lines in common: every statement of an outline takes one
line of the code.

* `Outline.statements`: the statements of the code;
* `Outline.script`: the script that they are compiled to, from a line of the code on;
* `Outline.lines`: the line of the view for each line of the code.
-/
import Mathlib.Tactic.Common
import Mathlib.Tactic.Lemma
import ViewEngine.Proofs.Code.Generator
import ViewEngine.Proofs.Fragment.Tree
import ViewEngine.Script.Syntax

namespace ViewEngine.Fragment

open Script (Expr)

/-! ## Headers -/

lemma isCodeChar_id (x : Variable) : ∀ c ∈ x.id, isCodeChar c = true := by
  intro c hc
  rcases x.isWord.mem c hc with h | rfl
  · simp [isCodeChar, h]
  · rfl

lemma isCodeChar_eachHeader (x xs : Variable) : ∀ c ∈ eachHeader x xs, isCodeChar c = true := by
  intro c hc
  simp only [eachHeader, List.mem_append, List.mem_singleton] at hc
  have hfor : ∀ d ∈ ['f', 'o', 'r', ' '], isCodeChar d = true := List.all_eq_true.1 (by decide)
  have hin : ∀ d ∈ [' ', 'i', 'n', ' '], isCodeChar d = true := List.all_eq_true.1 (by decide)
  rcases hc with h | h | h | h | rfl
  · exact hfor c h
  · exact isCodeChar_id x c h
  · exact hin c h
  · exact isCodeChar_id xs c h
  · rfl

lemma isCodeChar_branchHeader (c : Variable) : ∀ d ∈ branchHeader c, isCodeChar d = true := by
  intro d hd
  simp only [branchHeader, List.mem_append, List.mem_singleton] at hd
  have hif : ∀ e ∈ ['i', 'f', ' '], isCodeChar e = true := List.all_eq_true.1 (by decide)
  rcases hd with h | h | rfl
  · exact hif d h
  · exact isCodeChar_id c d h
  · rfl

lemma isCodeChar_elseHeader : ∀ c ∈ elseHeader, isCodeChar c = true :=
  List.all_eq_true.1 (by decide)

lemma isHeader_eachHeader (x xs : Variable) : IsHeader (eachHeader x xs) where
  code := isCodeChar_eachHeader x xs
  front := ⟨'f', _, rfl, by decide⟩
  last := ⟨['f', 'o', 'r', ' '] ++ (x.id ++ ([' ', 'i', 'n', ' '] ++ xs.id)), by simp [eachHeader]⟩
  not_end := rfl

lemma isHeader_branchHeader (c : Variable) : IsHeader (branchHeader c) where
  code := isCodeChar_branchHeader c
  front := ⟨'i', _, rfl, by decide⟩
  last := ⟨['i', 'f', ' '] ++ c.id, by simp [branchHeader]⟩
  not_end := rfl

lemma isHeader_elseHeader : IsHeader elseHeader where
  code := isCodeChar_elseHeader
  front := ⟨'e', _, rfl, by decide⟩
  last := ⟨['e', 'l', 's', 'e'], rfl⟩
  not_end := rfl

/-! ## What is appended -/

/-- A value that is shown: that of a name, or what the function of a name makes of it. -/
inductive Operand where
  /-- `x` -/
  | name (x : Variable)
  /-- `f(x)` -/
  | call (f x : Variable)

namespace Operand

/-- The operand as it is written. -/
def text : Operand → Text
  | name x => x.id
  | call f x => f.id ++ '(' :: (x.id ++ [')'])

/-- The operand as an expression on a line. -/
def expr (line : Nat) : Operand → Expr
  | name x => .name line x.id
  | call f x => .call line (.name line f.id) [.plain (.name line x.id)]

end Operand

/-- What one line of the code appends to the output. -/
inductive Appended where
  /-- A text. -/
  | literal (t : Text)
  /-- A value as it is. -/
  | raw (e : Operand)
  /-- A value, escaped for markup. -/
  | escaped (e : Operand)

namespace Appended

/-- The line of the code. -/
def code : Appended → Text
  | literal t => appendLiteral t
  | raw e => appendRaw (spaced e.text)
  | escaped e => appendEscaped (spaced e.text)

/-- What is appended, as an expression on a line. -/
def expr (line : Nat) : Appended → Expr
  | literal t => .constant (.text t)
  | raw e => e.expr line
  | escaped e => .call line (.name line Helper.escapeId) [.plain (e.expr line)]

end Appended

/-- The call that appends the value of an expression. -/
def appends (l l' : Nat) (e : Expr) : Script.Statement :=
  .expression (.call l (.name l' outputId) [.plain e])

/-! ## Outlines -/

/-- The shape of generated code. -/
inductive Outline where
  /-- Nothing more. -/
  | done
  /-- A line that appends something. -/
  | append (line : Int) (a : Appended) (rest : Outline)
  /-- A loop over the elements of a name. -/
  | each (line : Int) (x xs : Variable) (body rest : Outline)
  /-- A choice by a name. -/
  | branch (line : Int) (c : Variable) (yes rest : Outline)
  /-- A choice with a block for either case. -/
  | choice (line : Int) (c : Variable) (yes : Outline) (line' : Int) (no rest : Outline)

namespace Outline

/-- The statements of the code at a depth. -/
def statements (d : Nat) : Outline → List Statement
  | done => []
  | append line a rest => ⟨d, a.code, line⟩ :: rest.statements d
  | each line x xs body rest =>
    headerStatements d (eachHeader x xs) line ++ (body.statements (d + 1) ++ rest.statements d)
  | branch line c yes rest =>
    headerStatements d (branchHeader c) line ++ (yes.statements (d + 1) ++ rest.statements d)
  | choice line c yes line' no rest =>
    headerStatements d (branchHeader c) line ++ (yes.statements (d + 1) ++
      (headerStatements d elseHeader line' ++ (no.statements (d + 1) ++ rest.statements d)))

/-- The number of statements, and so of the lines of the code. -/
def height : Outline → Nat
  | done => 0
  | append _ _ rest => rest.height + 1
  | each _ _ _ body rest => body.height + rest.height + 2
  | branch _ _ yes rest => yes.height + rest.height + 2
  | choice _ _ yes _ no rest => yes.height + no.height + rest.height + 4

/-- The code at a depth. -/
def code (o : Outline) (d : Nat) : Text := (o.statements d).flatMap Statement.code

/-- The script, whose first statement is on line `n` of the code. -/
def script (n : Nat) : Outline → Script.Program
  | done => []
  | append _ a rest => appends n n (a.expr n) :: rest.script (n + 1)
  | each _ x xs body rest =>
    .forEach n (.name x.id) (.name n xs.id) (.pass :: body.script (n + 2)) [] ::
      rest.script (n + 2 + body.height)
  | branch _ c yes rest =>
    .branch (.name n c.id) (.pass :: yes.script (n + 2)) [] :: rest.script (n + 2 + yes.height)
  | choice _ c yes _ no rest =>
    .branch (.name n c.id) (.pass :: yes.script (n + 2))
        (.pass :: no.script (n + 2 + yes.height + 2)) ::
      rest.script (n + 2 + yes.height + 2 + no.height)

/-- The line of the view for each line of the code. -/
def lines : Outline → List Int
  | done => []
  | append line _ rest => line :: rest.lines
  | each line _ _ body rest => line :: line :: (body.lines ++ rest.lines)
  | branch line _ yes rest => line :: line :: (yes.lines ++ rest.lines)
  | choice line _ yes line' no rest =>
    line :: line :: (yes.lines ++ (line' :: line' :: (no.lines ++ rest.lines)))

/-- How many loops lie inside each other. -/
def loops : Outline → Nat
  | done => 0
  | append _ _ rest => rest.loops
  | each _ _ _ body rest => max (body.loops + 1) rest.loops
  | branch _ _ yes rest => max yes.loops rest.loops
  | choice _ _ yes _ no rest => max (max yes.loops no.loops) rest.loops

/-- How many blocks lie inside each other. -/
def blocks : Outline → Nat
  | done => 0
  | append _ _ rest => rest.blocks
  | each _ _ _ body rest => max (body.blocks + 1) rest.blocks
  | branch _ _ yes rest => max (yes.blocks + 1) rest.blocks
  | choice _ _ yes _ no rest => max (max (yes.blocks + 1) (no.blocks + 1)) rest.blocks

/-- A line that appends a text, if there is any. -/
def literal (line : Int) (t : Text) (rest : Outline) : Outline :=
  if t.isEmpty then rest else append line (.literal t) rest

lemma statements_literal (line : Int) (t : Text) (rest : Outline) (d : Nat) :
    (literal line t rest).statements d = literalStatements d t line ++ rest.statements d := by
  unfold literal literalStatements
  split <;> rfl

lemma loops_literal (line : Int) (t : Text) (rest : Outline) :
    (literal line t rest).loops = rest.loops := by
  unfold literal
  split <;> rfl

lemma blocks_literal (line : Int) (t : Text) (rest : Outline) :
    (literal line t rest).blocks = rest.blocks := by
  unfold literal
  split <;> rfl

lemma map_line_statements (o : Outline) (d : Nat) :
    (o.statements d).map Statement.line = o.lines := by
  induction o generalizing d with
  | done => rfl
  | append line a rest ih => rw [statements, List.map_cons, ih, lines]
  | each line x xs body rest ihbody ih =>
    simp only [statements, headerStatements, List.map_append, List.map_cons, ihbody, ih, lines,
      List.cons_append, List.nil_append]
  | branch line c yes rest ihyes ih =>
    simp only [statements, headerStatements, List.map_append, List.map_cons, ihyes, ih, lines,
      List.cons_append, List.nil_append]
  | choice line c yes line' no rest ihyes ihno ih =>
    simp only [statements, headerStatements, List.map_append, List.map_cons, ihyes, ihno, ih, lines,
      List.cons_append, List.nil_append]

lemma length_lines (o : Outline) : o.lines.length = o.height := by
  induction o with
  | done => rfl
  | append line a rest ih => rw [lines, List.length_cons, ih, height]
  | each line x xs body rest ihbody ih =>
    simp only [lines, List.length_append, List.length_cons, ihbody, ih, height]
  | branch line c yes rest ihyes ih =>
    simp only [lines, List.length_append, List.length_cons, ihyes, ih, height]
  | choice line c yes line' no rest ihyes ihno ih =>
    simp only [lines, List.length_append, List.length_cons, ihyes, ihno, ih, height]
    omega

/-- Every statement takes one line of the code. -/
lemma length_statements (o : Outline) (d : Nat) : (o.statements d).length = o.height := by
  rw [← length_lines, ← map_line_statements o d, List.length_map]

/-! ## The code of an outline -/

lemma code_append (line : Int) (a : Appended) (rest : Outline) (d : Nat) :
    (append line a rest).code d = row d a.code ++ rest.code d := rfl

/-- A line that opens a block at a depth, and the first line of the block. -/
def headerRows (depth : Nat) (h : Text) : Text := row depth h ++ row (depth + 1) "pass"

lemma code_header (d : Nat) (h : Text) (line : Int) (ss : List Statement) :
    (headerStatements d h line ++ ss).flatMap Statement.code =
      headerRows d h ++ ss.flatMap Statement.code := by
  rw [List.flatMap_append]
  refine congrArg (· ++ ss.flatMap Statement.code) ?_
  show row d h ++ (row (d + 1) "pass" ++ []) = _
  rw [List.append_nil]
  rfl

lemma code_each (line : Int) (x xs : Variable) (body rest : Outline) (d : Nat) :
    (each line x xs body rest).code d =
      headerRows d (eachHeader x xs) ++ (body.code (d + 1) ++ rest.code d) := by
  rw [code, statements, code_header, List.flatMap_append]
  rfl

lemma code_branch (line : Int) (c : Variable) (yes rest : Outline) (d : Nat) :
    (branch line c yes rest).code d =
      headerRows d (branchHeader c) ++ (yes.code (d + 1) ++ rest.code d) := by
  rw [code, statements, code_header, List.flatMap_append]
  rfl

lemma code_choice (line : Int) (c : Variable) (yes : Outline) (line' : Int) (no rest : Outline)
    (d : Nat) :
    (choice line c yes line' no rest).code d =
      headerRows d (branchHeader c) ++ (yes.code (d + 1) ++
        (headerRows d elseHeader ++ (no.code (d + 1) ++ rest.code d))) := by
  rw [code, statements, code_header, List.flatMap_append, code_header, List.flatMap_append]
  rfl

/-! ### Characters of the code -/

end Outline

/-- A character that no statement holds: one that would end its line, or that no script may have. -/
def Stray (c : Char) : Prop := c = '\n' ∨ c = '\r' ∨ c = '\x00'

namespace Stray

variable {c : Char}

lemma not_isCodeChar (h : Stray c) : isCodeChar c = false := by
  rcases h with rfl | rfl | rfl <;> rfl

lemma not_mem_of_code (h : Stray c) {t : Text} (ht : ∀ d ∈ t, isCodeChar d = true) : c ∉ t :=
  fun hmem => ne_of_isCodeChar (ht c hmem) h.not_isCodeChar rfl

lemma not_mem_operand (h : Stray c) (e : Operand) : c ∉ spaced e.text := by
  have hid : ∀ x : Variable, c ∉ x.id := fun x => h.not_mem_of_code (isCodeChar_id x)
  have hfixed : c ∉ [' ', '(', ')'] := by rcases h with rfl | rfl | rfl <;> decide
  cases e with
  | name x => simp_all [spaced, Operand.text]
  | call f x => simp_all [spaced, Operand.text]

lemma not_mem_appended (h : Stray c) (a : Appended) : c ∉ a.code := by
  -- what stands around the literal or the value
  have hfront : c ∉ "_append(".toList := by rcases h with rfl | rfl | rfl <;> decide
  have hescape : c ∉ "_append(escape(".toList := by rcases h with rfl | rfl | rfl <;> decide
  have hquote : c ∉ "_append(\"".toList := by rcases h with rfl | rfl | rfl <;> decide
  have hend : c ∉ ['"', ')'] := by rcases h with rfl | rfl | rfl <;> decide
  have hclose : c ∉ [')', ')'] := by rcases h with rfl | rfl | rfl <;> decide
  cases a with
  | literal t =>
    show c ∉ "_append(\"".toList ++ Literal.escape t ++ ['"', ')']
    simp only [List.mem_append, hquote, Literal.not_mem_escape h t, hend, or_self, not_false_eq_true]
  | raw e =>
    have hlast : c ∉ [')'] := fun hmem => hclose (List.mem_cons_of_mem _ hmem)
    show c ∉ "_append(".toList ++ spaced e.text ++ [')']
    simp only [List.mem_append, hfront, h.not_mem_operand e, hlast, or_self, not_false_eq_true]
  | escaped e =>
    show c ∉ "_append(escape(".toList ++ spaced e.text ++ [')', ')']
    simp only [List.mem_append, hescape, h.not_mem_operand e, hclose, or_self, not_false_eq_true]

/-- No line of a header has such a character. -/
lemma not_mem_header (h : Stray c) {t : Text} (ht : IsHeader t) {d : Nat} {line : Int} :
    ∀ s ∈ headerStatements d t line, c ∉ s.text := by
  have hpass : c ∉ ("pass" : String).toList := h.not_mem_of_code (List.all_eq_true.1 (by decide))
  simp only [headerStatements, List.mem_cons, List.not_mem_nil, or_false, forall_eq_or_imp,
    forall_eq]
  exact ⟨h.not_mem_of_code ht.code, hpass⟩

/-- **No statement of an outline has such a character**, so that each stands on one line. -/
theorem not_mem_statements (h : Stray c) (o : Outline) (d : Nat) :
    ∀ s ∈ o.statements d, c ∉ s.text := by
  induction o generalizing d with
  | done => exact List.forall_mem_nil _
  | append line a rest ih => exact List.forall_mem_cons.2 ⟨h.not_mem_appended a, ih d⟩
  | each line x xs body rest ihbody ih =>
    simp only [Outline.statements, List.forall_mem_append]
    exact ⟨h.not_mem_header (isHeader_eachHeader x xs), ihbody (d + 1), ih d⟩
  | branch line c yes rest ihyes ih =>
    simp only [Outline.statements, List.forall_mem_append]
    exact ⟨h.not_mem_header (isHeader_branchHeader c), ihyes (d + 1), ih d⟩
  | choice line c yes line' no rest ihyes ihno ih =>
    simp only [Outline.statements, List.forall_mem_append]
    exact ⟨h.not_mem_header (isHeader_branchHeader c), ihyes (d + 1),
      h.not_mem_header isHeader_elseHeader, ihno (d + 1), ih d⟩

end Stray

namespace Outline

/-- The code of an outline has no carriage return and no zero character. -/
lemma not_mem_code {c : Char} (h : Stray c) (hc : c ≠ '\n') (o : Outline) (d : Nat) :
    c ∉ o.code d := by
  have hspace : c ≠ ' ' := by rcases h with rfl | rfl | rfl <;> decide
  intro hmem
  obtain ⟨s, hs, hmem⟩ := List.mem_flatMap.1 hmem
  simp [Statement.code, List.mem_replicate, hspace, hc, h.not_mem_statements o d s hs] at hmem

/-- **The line of the view for each line of the code.** -/
theorem lineMap_statements (o : Outline) (d : Nat) :
    (o.statements d).flatMap Statement.lineMap = o.lines := by
  have hline : ∀ s ∈ o.statements d, s.lineMap = [s.line] := by
    intro s hs
    have hfeeds : Text.lineFeeds s.text = 0 :=
      List.count_eq_zero.2 (Stray.not_mem_statements (.inl rfl) o d s hs)
    rw [Statement.lineMap, hfeeds]
    rfl
  rw [← map_line_statements o d, List.map_eq_flatMap, List.flatMap_def, List.flatMap_def,
    List.map_congr_left hline]

end Outline

end ViewEngine.Fragment

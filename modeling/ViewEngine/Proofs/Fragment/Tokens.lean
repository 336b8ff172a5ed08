/-
# The tokens of the code of an outline

The lines of the code are cut into tokens from left to right.  A line closes the blocks that lie
deeper than itself, however many these are; so the tokens of a text at some depth are described
together with the blocks that are still open in front of it.

* `Settles`: the tokens of a text that closes all deeper blocks first;
* `Outline.settles_code`: the tokens of the code of an outline, in front of any others;
* `Outline.lex_code`: the tokens of the code of a whole view.
-/
import Mathlib.Tactic.Common
import Mathlib.Tactic.Lemma
import ViewEngine.Proofs.Fragment.Outline
import ViewEngine.Proofs.Script.Lexing
import ViewEngine.Proofs.Script.Parsing
import ViewEngine.Proofs.Text.Lines

namespace ViewEngine.Fragment

open Script (EndsWord Inner IsWord Lexes LexesAt Spot bracketLimit indentLimit isNameLike
  onLine wordKind)
open Script.Parser (blockSpots op word)

/-! ## Texts that close deeper blocks -/

/-- Behind blocks that lie deeper, these are closed first; then come the tokens. -/
def Settles (d n : Nat) (t : Text) (sp : List Spot) : Prop :=
  ∀ k, LexesAt (d + k) n t (List.replicate k (.dedent, 0) ++ sp)

variable {d n : Nat} {t r : Text} {sp sp' : List Spot}

lemma Settles.nil (d n : Nat) : Settles d n [] (List.replicate d (.dedent, 0) ++ [(.finish, 0)]) := by
  intro k
  rw [← List.append_assoc, List.replicate_append_replicate, Nat.add_comm k d]
  exact LexesAt.nil (d + k) n

lemma Settles.lexesAt (h : Settles d n t sp) : LexesAt d n t sp := h 0

/-- One block deeper, that block is closed first. -/
lemma Settles.deeper (h : Settles d n t sp) : Settles (d + 1) n t ((.dedent, 0) :: sp) := by
  -- the block is one of those that are open in front of the text
  intro k
  have hk := h (k + 1)
  rw [List.replicate_succ', List.append_assoc, ← Nat.add_assoc, Nat.add_right_comm] at hk
  exact hk

lemma Settles.onto {n' : Nat} (h : Settles d n t sp) (hn : n = n') : Settles d n' t sp := hn ▸ h

lemma row_append (d : Nat) (t r : Text) :
    row d t ++ r = List.replicate (4 * d) ' ' ++ (t ++ '\n' :: r) := by
  simp [row]

/-- A line. -/
lemma settles_row (ht : t.head?.map isNameLike = some true)
    (h : Inner d n [] (t ++ '\n' :: r) sp) : Settles d n (row d t ++ r) sp := by
  cases t with
  | nil => cases ht
  | cons c cs =>
    intro k
    rw [row_append]
    exact LexesAt.line (Option.some.inj ht) h

/-- The first line of a block. -/
lemma lexesAt_pass (hd : d < indentLimit) (h : LexesAt (d + 1) (n + 1) r sp) :
    LexesAt d n (row (d + 1) "pass" ++ r)
      ((.indent, 0) :: (word "pass", n) :: (.newline, n) :: sp) := by
  have hword : IsWord ['p', 'a', 's', 's'] := Script.isWord_cons (by decide) (by decide)
  have hinner : Inner (d + 1) n [] (['p', 'a', 's', 's'] ++ '\n' :: r)
      ((word "pass", n) :: (.newline, n) :: sp) :=
    Inner.word hword (Script.endsWord_newline r) (Inner.newline h)
  rw [row_append]
  exact LexesAt.deeper rfl hinner hd

/-! ## Headers -/

lemma isWord_for : IsWord ['f', 'o', 'r'] := Script.isWord_cons (by decide) (by decide)

lemma isWord_in : IsWord ['i', 'n'] := Script.isWord_cons (by decide) (by decide)

lemma isWord_if : IsWord ['i', 'f'] := Script.isWord_cons (by decide) (by decide)

lemma isWord_else : IsWord ['e', 'l', 's', 'e'] := Script.isWord_cons (by decide) (by decide)

lemma isWord_output : IsWord outputId := Script.isWord_cons (by decide) (by decide)

lemma isWord_escape : IsWord Helper.escapeId := Script.isWord_cons (by decide) (by decide)

/-- The name that a variable is in the code. -/
lemma inner_variable {b : Text} (x : Variable) (hr : EndsWord r) (h : Inner d n b r sp) :
    Inner d n b (x.id ++ r) ((.name x.id, n) :: sp) := by
  have hword := Inner.word x.isWord hr h
  rwa [x.wordKind] at hword

/-- The tokens of a loop's header. -/
def eachKinds (x xs : Variable) : List Script.TokenKind :=
  [word "for", .name x.id, word "in", .name xs.id, op ":"]

/-- The tokens of a choice's header. -/
def branchKinds (c : Variable) : List Script.TokenKind := [word "if", .name c.id, op ":"]

/-- The tokens of the line that begins the other block of a choice. -/
def elseKinds : List Script.TokenKind := [word "else", op ":"]

lemma inner_eachHeader (x xs : Variable) (h : LexesAt d (n + 1) r sp) :
    Inner d n [] (eachHeader x xs ++ '\n' :: r)
      (onLine n (eachKinds x xs) ++ (.newline, n) :: sp) := by
  have hxs : Inner d n [] (xs.id ++ ':' :: '\n' :: r)
      (onLine n [.name xs.id, op ":", .newline] ++ sp) :=
    inner_variable xs (Script.endsWord_colon _) (Inner.newline h).colon
  have hin : Inner d n [] (['i', 'n'] ++ ' ' :: (xs.id ++ ':' :: '\n' :: r))
      (onLine n [word "in", .name xs.id, op ":", .newline] ++ sp) :=
    Inner.word isWord_in (Script.endsWord_blank _) hxs.blank
  have hx := inner_variable x (Script.endsWord_blank _) hin.blank
  have hfor : Inner d n [] (['f', 'o', 'r'] ++ ' ' :: (x.id ++ _)) ((word "for", n) :: _) :=
    Inner.word isWord_for (Script.endsWord_blank _) hx.blank
  simpa [eachHeader, eachKinds, onLine] using hfor

lemma inner_branchHeader (c : Variable) (h : LexesAt d (n + 1) r sp) :
    Inner d n [] (branchHeader c ++ '\n' :: r)
      (onLine n (branchKinds c) ++ (.newline, n) :: sp) := by
  have hc : Inner d n [] (c.id ++ ':' :: '\n' :: r)
      (onLine n [.name c.id, op ":", .newline] ++ sp) :=
    inner_variable c (Script.endsWord_colon _) (Inner.newline h).colon
  have hif : Inner d n [] (['i', 'f'] ++ ' ' :: (c.id ++ _)) ((word "if", n) :: _) :=
    Inner.word isWord_if (Script.endsWord_blank _) hc.blank
  simpa [branchHeader, branchKinds, onLine] using hif

lemma inner_elseHeader (h : LexesAt d (n + 1) r sp) :
    Inner d n [] (elseHeader ++ '\n' :: r) (onLine n elseKinds ++ (.newline, n) :: sp) :=
  Inner.word isWord_else (Script.endsWord_colon _) (Inner.newline h).colon

/-! ## Outputs -/

lemma wordKind_output : wordKind outputId = .name outputId := by rfl

lemma wordKind_escape : wordKind Helper.escapeId = .name Helper.escapeId := by rfl

lemma op_opening : op "(" = .op ['('] := by rfl

lemma op_closing : op ")" = .op [')'] := by rfl

/-- The tokens of an operand. -/
def Operand.kinds : Operand → List Script.TokenKind
  | name x => [.name x.id]
  | call f x => [.name f.id, op "(", .name x.id, op ")"]

/-- The tokens of what is appended. -/
def Appended.kinds : Appended → List Script.TokenKind
  | literal t => [.string false false (Literal.escape t)]
  | raw e => e.kinds
  | escaped e => .name Helper.escapeId :: op "(" :: (e.kinds ++ [op ")"])

/-- What is appended, as it stands in the call. -/
def Appended.inside : Appended → Text
  | literal t => '"' :: (Literal.escape t ++ ['"'])
  | raw e => spaced e.text
  | escaped e => Helper.escapeId ++ '(' :: (spaced e.text ++ [')'])

lemma Appended.code_eq (a : Appended) : a.code = outputId ++ '(' :: (a.inside ++ [')']) := by
  cases a with
  | literal t =>
    show (outputId ++ ['(', '"']) ++ Literal.escape t ++ ['"', ')'] = _
    simp [inside]
  | raw e =>
    show (outputId ++ ['(']) ++ spaced e.text ++ [')'] = _
    simp [inside]
  | escaped e =>
    show (outputId ++ ['('] ++ Helper.escapeId ++ ['(']) ++ spaced e.text ++ [')', ')'] = _
    simp [inside]

/-- The tokens of an operand between spaces. -/
lemma inner_operand {b : Text} (e : Operand) (hb : b.length < bracketLimit)
    (h : Inner d n b r sp) : Inner d n b (spaced e.text ++ r) (onLine n e.kinds ++ sp) := by
  cases e with
  | name x =>
    have hx := inner_variable x (Script.endsWord_blank r) h.blank
    simpa [spaced, Operand.text, Operand.kinds, onLine] using hx.blank
  | call f x =>
    have hx := inner_variable x (Script.endsWord_closing _) h.blank.closing
    have hf := inner_variable f (Script.endsWord_opening _) (hx.opening hb)
    simpa [spaced, Operand.text, Operand.kinds, onLine, op_opening, op_closing] using hf.blank

lemma inner_inside (a : Appended) (h : Inner d n ['('] (')' :: r) sp) :
    Inner d n ['('] (a.inside ++ ')' :: r) (onLine n a.kinds ++ sp) := by
  cases a with
  | literal t =>
    have hliteral := Inner.literal (u := t) (by simp) h
    simpa [Appended.inside, Appended.kinds, onLine] using hliteral
  | raw e => exact inner_operand e (by decide) h
  | escaped e =>
    have he := (inner_operand e (by decide) h.closing).opening (by decide)
    have hescape := Inner.word isWord_escape (Script.endsWord_opening _) he
    rw [wordKind_escape] at hescape
    simpa [Appended.inside, Appended.kinds, onLine, op_opening, op_closing] using hescape

/-- The tokens of a line that appends something. -/
def Appended.lineKinds (a : Appended) : List Script.TokenKind :=
  .name outputId :: op "(" :: (a.kinds ++ [op ")", .newline])

lemma inner_append (a : Appended) (h : LexesAt d (n + 1) r sp) :
    Inner d n [] (a.code ++ '\n' :: r) (onLine n a.lineKinds ++ sp) := by
  have hinside := (inner_inside a (Inner.newline h).closing).opening (by decide)
  have hcall := Inner.word isWord_output (Script.endsWord_opening _) hinside
  rw [wordKind_output] at hcall
  simpa [Appended.code_eq, Appended.lineKinds, onLine, op_opening, op_closing] using hcall

/-! ## Outlines -/

/-- Behind a header stands its block. -/
lemma settles_headerRows {h : Text} {ks : List Script.TokenKind}
    (hh : h.head?.map isNameLike = some true) (hd : d < indentLimit)
    (hheader : ∀ {r sp}, LexesAt d (n + 1) r sp →
      Inner d n [] (h ++ '\n' :: r) (onLine n ks ++ (.newline, n) :: sp))
    (hr : LexesAt (d + 1) (n + 2) r (sp ++ (.dedent, 0) :: sp')) :
    Settles d n (Outline.headerRows d h ++ r) (onLine n ks ++ (blockSpots n sp ++ sp')) := by
  have hrows := settles_row hh (hheader (lexesAt_pass hd hr))
  rw [Outline.headerRows, List.append_assoc]
  simpa [blockSpots] using hrows

namespace Outline

/-- The tokens of the code whose first line is `n`. -/
def spots (n : Nat) : Outline → List Spot
  | done => []
  | append _ a rest => onLine n a.lineKinds ++ rest.spots (n + 1)
  | each _ x xs body rest =>
    onLine n (eachKinds x xs) ++
      (blockSpots n (body.spots (n + 2)) ++ rest.spots (n + 2 + body.height))
  | branch _ c yes rest =>
    onLine n (branchKinds c) ++
      (blockSpots n (yes.spots (n + 2)) ++ rest.spots (n + 2 + yes.height))
  | choice _ c yes _ no rest =>
    onLine n (branchKinds c) ++ (blockSpots n (yes.spots (n + 2)) ++
      (onLine (n + 2 + yes.height) elseKinds ++
        (blockSpots (n + 2 + yes.height) (no.spots (n + 2 + yes.height + 2)) ++
          rest.spots (n + 2 + yes.height + 2 + no.height))))

/-- **The tokens of the code of an outline.** -/
theorem settles_code (o : Outline) {d n : Nat} (hd : d + o.blocks ≤ indentLimit) {r : Text}
    {sp : List Spot} (h : Settles d (n + o.height) r sp) :
    Settles d n (o.code d ++ r) (o.spots n ++ sp) := by
  induction o generalizing d n r sp with
  | done => exact h
  | append line a rest ih =>
    rw [code_append, spots, List.append_assoc, List.append_assoc]
    refine settles_row (by rw [a.code_eq]; rfl) (inner_append a (ih hd ?_).lexesAt)
    rwa [Nat.add_assoc, Nat.add_comm 1]
  | each line x xs body rest ihbody ih =>
    simp only [blocks] at hd
    simp only [height] at h
    -- from the back: the line behind a block is what closes it
    have hrest := ih (n := n + 2 + body.height) (by omega) (h.onto (by omega))
    have hbody := ihbody (n := n + 2) (by omega) hrest.deeper
    have hall := settles_headerRows rfl (by omega) (inner_eachHeader x xs) hbody.lexesAt
    simpa only [code_each, spots, List.append_assoc] using hall
  | branch line c yes rest ihyes ih =>
    simp only [blocks] at hd
    simp only [height] at h
    have hrest := ih (n := n + 2 + yes.height) (by omega) (h.onto (by omega))
    have hyes := ihyes (n := n + 2) (by omega) hrest.deeper
    have hall := settles_headerRows rfl (by omega) (inner_branchHeader c) hyes.lexesAt
    simpa only [code_branch, spots, List.append_assoc] using hall
  | choice line c yes line' no rest ihyes ihno ih =>
    simp only [blocks] at hd
    simp only [height] at h
    have hrest := ih (n := n + 2 + yes.height + 2 + no.height) (by omega) (h.onto (by omega))
    have hno := ihno (n := n + 2 + yes.height + 2) (by omega) hrest.deeper
    have helse := settles_headerRows rfl (by omega) inner_elseHeader hno.lexesAt
    have hyes := ihyes (n := n + 2) (by omega) helse.deeper
    have hall := settles_headerRows rfl (by omega) (inner_branchHeader c) hyes.lexesAt
    simpa only [code_choice, spots, List.append_assoc] using hall

/-! ## Line ends -/

/-- The code consists of whole lines. -/
lemma code_ended (o : Outline) (d : Nat) : o.code d = [] ∨ (o.code d).getLast? = some '\n' := by
  rw [code]
  rcases List.eq_nil_or_concat (o.statements d) with hnil | ⟨ss, s, hconcat⟩
  · exact .inl (by rw [hnil]; rfl)
  · refine .inr ?_
    have hlast : s.code.getLast? = some '\n' := List.getLast?_concat
    rw [hconcat, List.concat_eq_append, List.flatMap_append, List.flatMap_singleton,
      List.getLast?_append, hlast]
    rfl

/-- **The tokens of the code of a view.** -/
theorem lex_code (o : Outline) (hblocks : o.blocks ≤ indentLimit) :
    (Script.lex 1 (o.code 0)).list.map Script.Token.spot = o.spots 1 ++ [(.finish, 0)] ∧
      (Script.lex 1 (o.code 0)).ending = .complete := by
  have hcode : Lexes { line := 1, indents := [] } (o.code 0) (o.spots 1 ++ [(.finish, 0)]) := by
    have hall := (settles_code o (n := 1) (by omega) (Settles.nil 0 _)).lexesAt
    rwa [List.append_nil] at hall
  have hreturns := not_mem_code (.inr (.inl rfl)) (by decide) o 0
  rw [Script.lex, Script.closedLines, Text.unifyLineEnds_of_not_mem hreturns]
  rcases code_ended o 0 with hnil | hend
  · -- a script without lines gets one, which is empty
    rw [hnil] at hcode ⊢
    have hspots : o.spots 1 ++ [(.finish, 0)] = [(.finish, 0)] := by rw [← hcode.1]; rfl
    rw [hspots]
    exact ⟨rfl, rfl⟩
  · rw [if_pos hend]
    exact hcode

end Outline

end ViewEngine.Fragment

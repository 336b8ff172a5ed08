/-
# Quoted texts in code

A text of a view is put into code between double quotes.  What it says must not get out of these:
whatever the text looks like, the literal is one token of the language, ends at the quote that was put
behind it, and is worth the text.  It is written character by character, which is the same as five
replacements one after the other, since none of them touches what those before it have put in but the
first, which would, and therefore comes first.

* `escape_eq_escapeInTurn`: the five replacements;
* `escapes_iff`: the first quote that is not escaped is the last;
* `lex_written`, `compile_written`: a literal that is a script of its own;
* `written_faithful`: all that a literal promises.
-/
import Mathlib.Tactic.Common
import Mathlib.Tactic.Lemma
import ViewEngine.Proofs.Fragment.Compilation
import ViewEngine.Script.Program

namespace ViewEngine.Literal

open Script (Inner onLine)
open Script.Parser (Reads)

/-! ## Five replacements -/

/-- The text with each occurrence of a character replaced. -/
def replaceChar (c : Char) (w t : Text) : Text := Text.expand (fun d => if d = c then w else [d]) t

/-- The text as it is written in a literal, by one replacement after the other. -/
def escapeInTurn (t : Text) : Text :=
  replaceChar '\x00' "\\x00" (replaceChar '"' "\\\"" (replaceChar '\r' "\\r"
    (replaceChar '\n' "\\n" (replaceChar '\\' "\\\\" t))))

lemma replaceChar_append (c : Char) (w s t : Text) :
    replaceChar c w (s ++ t) = replaceChar c w s ++ replaceChar c w t :=
  Text.expand_append _ s t

/-- **Each character is written by itself**, as the replacements in their order leave it. -/
theorem escape_eq_escapeInTurn (t : Text) : escape t = escapeInTurn t := by
  have hsingle : ∀ c, escapeChar c = escapeInTurn [c] := by
    intro c
    rcases escapeChar_cases c with ⟨rfl, h⟩ | ⟨rfl, h⟩ | ⟨rfl, h⟩ | ⟨rfl, h⟩ | ⟨rfl, h⟩ | ⟨hc, h⟩
    · rfl
    · rfl
    · rfl
    · rfl
    · rfl
    · obtain ⟨hb, hn, hr, hq, h0⟩ := hc
      simp [h, escapeInTurn, replaceChar, hb, hn, hr, hq, h0]
  induction t with
  | nil => rfl
  | cons c t ih =>
    have happend : escapeInTurn ([c] ++ t) = escapeInTurn [c] ++ escapeInTurn t := by
      simp only [escapeInTurn, replaceChar_append]
    rw [escape_cons, hsingle, ih, ← happend]
    rfl

/-! ## Where a literal ends -/

/-- A literal in double quotes. -/
def written (t : Text) : Text := '"' :: (escape t ++ ['"'])

/-- Is the character behind the text escaped?  Then the text ends in a backslash that is not escaped
itself. -/
def escapes (t : Text) : Bool := t.foldl (fun b c => !b && c = '\\') false

lemma foldl_escapeChar (c : Char) :
    (escapeChar c).foldl (fun b c => !b && c = '\\') false = false := by
  rcases escapeChar_cases c with ⟨-, h⟩ | ⟨-, h⟩ | ⟨-, h⟩ | ⟨-, h⟩ | ⟨-, h⟩ | ⟨hc, h⟩
  all_goals rw [h]
  · rfl
  · rfl
  · rfl
  · rfl
  · rfl
  · simp [hc.1]

/-- What is written for a character is complete. -/
lemma escapes_append (c : Char) (u : Text) : escapes (escapeChar c ++ u) = escapes u := by
  rw [escapes, List.foldl_append, foldl_escapeChar]
  rfl

lemma escapes_escape (t : Text) : escapes (escape t) = false := by
  induction t with
  | nil => rfl
  | cons c t ih => rw [escape_cons, escapes_append, ih]

/-- A quote in what is written for a character stands behind its backslash. -/
lemma escapes_of_escapeChar {c : Char} {u v : Text} (h : escapeChar c = u ++ '"' :: v) :
    escapes u = true := by
  have hmem : '"' ∈ escapeChar c := h ▸ List.mem_append_right u List.mem_cons_self
  rcases escapeChar_cases c with ⟨-, hc⟩ | ⟨-, hc⟩ | ⟨-, hc⟩ | ⟨-, hc⟩ | ⟨-, hc⟩ | ⟨hne, hc⟩
  all_goals rw [hc] at hmem h
  · simp at hmem
  · simp at hmem
  · simp at hmem
  · rcases u with _ | ⟨a, _ | ⟨b, u⟩⟩
    · cases h
    · obtain ⟨rfl, -⟩ := List.cons.inj h
      rfl
    · simp at h
  · simp at hmem
  · exact absurd (List.mem_singleton.1 hmem).symm hne.2.2.2.1

/-- Every quote in an escaped text is escaped. -/
lemma escapes_of_escape {t : Text} : ∀ {u v : Text}, escape t = u ++ '"' :: v → escapes u = true := by
  induction t with
  | nil => simp [escape_nil]
  | cons c t ih =>
    intro u v h
    rw [escape_cons, List.append_eq_append_iff] at h
    obtain ⟨w, rfl, hw⟩ | ⟨w, hw, hrest⟩ := h
    · rw [escapes_append]
      exact ih hw
    cases w with
    | nil =>
      rw [List.append_nil] at hw
      rw [← hw, ← List.append_nil (escapeChar c), escapes_append]
      exact absurd (ih (u := []) hrest.symm) Bool.noConfusion
    | cons b w =>
      obtain ⟨rfl, -⟩ := List.cons.inj hrest
      exact escapes_of_escapeChar hw

/-- **The first quote that is not escaped is the last character.** -/
theorem escapes_iff {t u v : Text} (h : escape t ++ ['"'] = u ++ '"' :: v) :
    escapes u = false ↔ v = [] := by
  rcases List.eq_nil_or_concat v with rfl | ⟨w, d, rfl⟩
  · obtain ⟨rfl, -⟩ := List.append_inj' h rfl
    simp [escapes_escape]
  · have hinner : escape t = u ++ '"' :: w := by
      rw [List.concat_eq_append, ← List.cons_append, ← List.append_assoc] at h
      exact (List.append_inj' h rfl).1
    simp [escapes_of_escape hinner]

/-! ## A literal as a script -/

lemma not_mem_written {c : Char} (hc : c = '\n' ∨ c = '\r' ∨ c = '\x00') (t : Text) :
    c ∉ written t := by
  have hquote : c ≠ '"' := by rcases hc with rfl | rfl | rfl <;> decide
  simp [written, hquote, not_mem_escape hc t]

/-- **A literal is a line of one token.** -/
theorem lex_written (t : Text) :
    (Script.lex 1 (written t)).list.map (·.spot) =
        onLine 1 [.string false false (escape t), .newline] ++ [(.finish, 0)] ∧
      (Script.lex 1 (written t)).ending = .complete := by
  have hline : Inner 0 1 [] ('"' :: (escape t ++ '"' :: ['\n']))
      (onLine 1 [.string false false (escape t), .newline] ++ [(.finish, 0)]) :=
    .literal (by simp) (.newline (.nil 0 2))
  have hclosed : Script.closedLines (written t) = '"' :: (escape t ++ '"' :: ['\n']) := by
    have hlast : (written t).getLast? ≠ some '\n' := by
      rw [written, ← List.cons_append, List.getLast?_concat]
      decide
    rw [Script.closedLines, Text.unifyLineEnds_of_not_mem (not_mem_written (.inr (.inl rfl)) t),
      if_neg hlast]
    simp [written]
  have hstart : Script.lineStart { line := 1 } ('"' :: (escape t ++ '"' :: ['\n'])) =
      .code 0 false {} 0 := by
    have hmeasure : Script.Front.measure {} ('"' :: (escape t ++ '"' :: ['\n'])) = {} := by
      rw [Script.Front.measure.eq_def]
      rfl
    rw [Script.lineStart, hmeasure]
    rfl
  rw [Script.lex, hclosed, Script.lexFrom_front rfl hstart]
  exact hline [] rfl

/-- **A literal is an expression that is worth its text.** -/
theorem parse?_written (t : Text) :
    Script.parse? (written t) = some [.expression (.constant (.text t))] := by
  obtain ⟨hspots, hending⟩ := lex_written t
  obtain ⟨n, hfuel⟩ : ∃ n, Script.Parser.depthFor (written t).length = n + 15 :=
    ⟨Script.Parser.depthFor (written t).length - 15, by rw [Script.Parser.depthFor]; omega⟩
  have hliteral : Reads (Script.Parser.primary (n + 4)) [(.string false false (escape t), 1)]
      [(.newline, 1), (.finish, 0)] (.constant (.text t)) :=
    Script.Parser.reads_literal ⟨_, _, _, rfl, by decide, by decide, by decide⟩
      fun _ _ _ => Script.Parser.head_ne (by simp) _ _
  have hscript : Reads (Script.Parser.script (n + 15))
      (onLine 1 [.string false false (escape t), .newline] ++ [(.finish, 0)]) []
      [.expression (.constant (.text t))] :=
    Script.Parser.reads_singleLine hliteral (.inr ⟨false, false, escape t, rfl⟩) rfl
  obtain ⟨ts, hread, -⟩ := hscript (Script.lex 1 (written t)).list
    (by rw [List.append_nil]; exact hspots)
  unfold Script.parse?
  simp only [hending, if_true, hfuel]
  show ((Script.Parser.script (n + 15)) (Script.lex 1 (written t)).list).map (·.1) = _
  rw [hread]
  rfl

theorem compile_written (t : Text) :
    Script.compile (written t) = .ok [.expression (.constant (.text t))] := by
  have hzero : (written t).contains '\x00' = false := by
    rw [← Bool.not_eq_true, List.contains_iff_mem]
    exact not_mem_written (.inr (.inr rfl)) t
  have hfolded : Script.foldStatements [.expression (.constant (.text t))] =
      [.expression (.constant (.text t))] := rfl
  have hcheck : ∀ n, Script.check n [.expression (.constant (.text t))] = .ok () := by
    intro n
    refine Fragment.Outline.checkAll_cons (fun n => ?_) Fragment.Outline.checkAll_nil _
    cases n with
    | zero => simp only [Script.checkOne]
    | succ n => simp only [Script.checkOne, Script.Expr.check]
  unfold Script.compile
  simp only [hzero, Bool.false_eq_true, if_false, parse?_written, hfolded, hcheck]

/-! ## What a literal promises -/

lemma escape_injective : Function.Injective escape := fun s t h => by
  have hread := unescape?_escape s
  rw [h, unescape?_escape] at hread
  exact (Option.some.inj hread).symm

/-- **A text between quotes stays between them, and is what the literal is worth.**  No character that
ends a line stands in the literal, and none that no script may hold; the first quote that is not
escaped is the last; the literal is one token, whose characters stand for the text; as a script of its
own it is worth the text.  Texts are written part by part, as the five replacements write them. -/
theorem written_faithful :
    (∀ t : Text,
      (∀ c ∈ ['\n', '\r', '\x00'], c ∉ written t) ∧
      (∀ u v, escape t ++ ['"'] = u ++ '"' :: v → (escapes u = false ↔ v = [])) ∧
      ((Script.lex 1 (written t)).list.map (·.kind) =
          [.string false false (escape t), .newline, .finish] ∧
        (Script.lex 1 (written t)).ending = .complete) ∧
      Script.unescape? false (escape t) = some t ∧
      Script.compile (written t) = .ok [.expression (.constant (.text t))] ∧
      escape t = escapeInTurn t) ∧
    Function.Injective escape ∧
    ∀ a b, escape (a ++ b) = escape a ++ escape b := by
  refine ⟨fun t => ⟨fun c hc => not_mem_written (by simpa using hc) t, fun u v => escapes_iff, ⟨?_,
    (lex_written t).2⟩, unescape?_escape t, compile_written t, escape_eq_escapeInTurn t⟩,
    escape_injective, escape_append⟩
  have hkinds := congrArg (List.map Prod.fst) (lex_written t).1
  rw [List.map_map] at hkinds
  exact hkinds

/-- Of a backslash and a quote. -/
theorem written_faithful_quote :
    escape ['\\', '"'] ++ ['"'] = ['\\', '\\', '\\'] ++ '"' :: ['"'] ∧
      (escapes ['\\', '\\', '\\'] = false ↔ ['"'] = ([] : Text)) :=
  have hsplit : escape ['\\', '"'] ++ ['"'] = ['\\', '\\', '\\'] ++ '"' :: ['"'] := rfl
  ⟨hsplit, (written_faithful.1 ['\\', '"']).2.1 _ _ hsplit⟩

end ViewEngine.Literal

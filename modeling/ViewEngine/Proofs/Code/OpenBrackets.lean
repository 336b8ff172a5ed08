/-
# Open brackets written in front of a line

Brackets that earlier lines have left open can be given to the scan of a line in two ways.  They can be
handed over as they are, or they can be written in front of the line, so that the scan finds them open
when it comes to the line itself.  In the second way the scan reads a longer text: what it finds among
the brackets in front is passed over, and a column counts from the end of the brackets.

* `tokens`: the marks of a text with the columns where they begin;
* `replay`: the scan of a line behind brackets that are written in front of it;
* `replay_eq_scan`: both ways come to the same.
-/
import Mathlib.Tactic.Common
import Mathlib.Tactic.Lemma
import ViewEngine.Proofs.Code.Reading

namespace ViewEngine.Brackets

/-- Is the character an opening bracket? -/
def isOpening (c : Char) : Bool := c = '(' || c = '[' || c = '{'

/-- Is the character a closing bracket? -/
def isClosing (c : Char) : Bool := c = ')' || c = ']' || c = '}'

/-! ## Marks with their columns -/

/-- The marks among the pieces of a text that begins at the column `n`. -/
def placed (n : Nat) : List (Text.Piece Mark) → List (Mark × Nat)
  | [] => []
  | .plain t :: ps => placed (n + t.length) ps
  | .found m t :: ps => (m, n) :: placed (n + t.length) ps

/-- The marks of a text with their columns.  A text that begins with a comment behind blanks has no
other mark, and one that begins with a carriage return has none. -/
def tokens (t : Text) : List (Mark × Nat) :=
  let blanks := indentation t
  let first := (t.drop blanks.length).head?
  if first = some '#' then [(.comment, blanks.length)]
  else if first = some '\r' then []
  else placed 0 (Text.pieces mark? t)

/-- What a mark makes of the scan of the line, if the line begins at the column `n`. -/
def Scan.read (line : Text) (n : Nat) (s : Scan) : Mark × Nat → Scan
  | (.comment, column) => { s with code := line.take (column - n) }
  | (m, _) => { s with pending := step s.pending m }

/-- Scans a line with open brackets written in front of it.  What begins among the brackets is passed
over. -/
def replay (line : Text) (pending : List Char) : Scan :=
  ((tokens (pending ++ line)).filter fun x => pending.length ≤ x.2).foldl
    (Scan.read line pending.length) ⟨line, pending⟩

variable {line : Text} {pending : List Char} {n : Nat} {ps : List (Text.Piece Mark)}

lemma placed_append (n : Nat) (ps qs : List (Text.Piece Mark)) :
    placed n (ps ++ qs) = placed n ps ++ placed (n + (ps.flatMap Text.Piece.text).length) qs := by
  induction ps generalizing n with
  | nil => rfl
  | cons p ps ih =>
    cases p <;>
      simp [placed, ih, List.flatMap_cons, Text.Piece.text, List.length_append, Nat.add_assoc]

lemma le_of_mem_placed {x : Mark × Nat} (h : x ∈ placed n ps) : n ≤ x.2 := by
  induction ps generalizing n with
  | nil => cases h
  | cons p ps ih =>
    cases p with
    | plain t => exact Nat.le_trans (Nat.le_add_right _ _) (ih h)
    | found m t =>
      rcases List.mem_cons.1 h with rfl | h
      · exact Nat.le_refl _
      · exact Nat.le_trans (Nat.le_add_right _ _) (ih h)

lemma beforeComment?_plain (seen t : Text) (ps : List (Text.Piece Mark)) :
    beforeComment? seen (.plain t :: ps) = beforeComment? (seen ++ t) ps := by
  rw [beforeComment?.eq_def]
  dsimp only [Text.Piece.text]
  cases beforeComment? (seen ++ t) ps <;> rfl

lemma getD_beforeComment?_comment (seen t code : Text) (ps : List (Text.Piece Mark)) :
    (beforeComment? seen (.found .comment t :: ps)).getD code =
      (beforeComment? (seen ++ t) ps).getD seen := by
  rw [beforeComment?, Text.Piece.text]
  cases beforeComment? (seen ++ t) ps <;> rfl

lemma Scan.read_of_ne (line : Text) (n : Nat) (s : Scan) {m : Mark} (hm : m ≠ .comment) (k : Nat) :
    Scan.read line n s (m, k) = { s with pending := step s.pending m } := by
  cases m with
  | comment => exact absurd rfl hm
  | _ => rfl

/-- **The marks are read one after the other**: the last comment settles the code of the line, and the
other marks settle the open brackets. -/
lemma foldl_read_placed {seen code : Text} (hline : line = seen ++ ps.flatMap Text.Piece.text) :
    (placed (n + seen.length) ps).foldl (Scan.read line n) ⟨code, pending⟩ =
      ⟨(beforeComment? seen ps).getD code,
        (ps.filterMap Text.Piece.held?).foldl step pending⟩ := by
  induction ps generalizing seen code pending with
  | nil => rfl
  | cons p ps ih =>
    have hrest : line = (seen ++ p.text) ++ ps.flatMap Text.Piece.text := by
      rw [hline, List.flatMap_cons, List.append_assoc]
    have hcolumn : n + seen.length + p.text.length = n + (seen ++ p.text).length := by
      rw [List.length_append, Nat.add_assoc]
    cases p with
    | plain t =>
      simp only [Text.Piece.text] at hrest hcolumn
      rw [placed, hcolumn, ih hrest, beforeComment?_plain]
      rfl
    | found m t =>
      simp only [Text.Piece.text] at hrest hcolumn
      rw [placed, hcolumn, List.foldl_cons]
      by_cases hm : m = .comment
      · subst hm
        have hcode : line.take (n + seen.length - n) = seen := by
          rw [Nat.add_sub_cancel_left, hline, List.take_left]
        rw [Scan.read, hcode, ih hrest, getD_beforeComment?_comment]
        rfl
      · rw [Scan.read_of_ne line n _ hm, ih hrest, beforeComment?_found hm]
        rfl

/-! ## Marks take characters -/

lemma stringBody?_bounds {q : Char} {t : Text} {m : Mark} (h : stringBody? q t = some (m, n)) :
    0 < n ∧ n ≤ t.length := by
  fun_induction stringBody? q t generalizing m n with
  | case1 => cases h
  | case2 => cases h; simp
  | case3 => cases h
  | case4 => cases h; simp
  | case5 d cs _ ih =>
    obtain ⟨⟨m', n'⟩, hrest, heq⟩ := Option.map_eq_some_iff.1 h
    have := ih hrest
    cases heq
    simp only [List.length_cons]
    omega
  | case6 => cases h; simp
  | case7 => cases h
  | case8 c d cs _ _ _ ih =>
    obtain ⟨⟨m', n'⟩, hrest, heq⟩ := Option.map_eq_some_iff.1 h
    have := ih hrest
    cases heq
    simp only [List.length_cons] at this ⊢
    omega

lemma tripleLength?_le {q : Char} {t : Text} (h : tripleLength? q t = some n) : n ≤ t.length := by
  fun_induction tripleLength? q t generalizing n with
  | case1 => cases h
  | case2 d e cs _ ih =>
    obtain ⟨n', hrest, rfl⟩ := Option.map_eq_some_iff.1 h
    have := ih hrest
    simp only [List.length_cons] at this ⊢
    omega
  | case3 => cases h; simp
  | case4 => cases h
  | case5 c d e cs _ _ _ ih =>
    obtain ⟨n', hrest, rfl⟩ := Option.map_eq_some_iff.1 h
    have := ih hrest
    simp only [List.length_cons] at this ⊢
    omega
  | case6 => cases h

lemma stringAt?_bounds {q : Char} {t : Text} {m : Mark} (h : stringAt? q t = some (m, n)) :
    0 < n ∧ n ≤ t.length + 1 := by
  unfold stringAt? at h
  split at h
  · next r hr =>
    obtain rfl := Text.after?_eq_some_iff.1 hr
    split at h
    · next k hk =>
      have := tripleLength?_le hk
      cases h
      simp only [List.length_append, List.length_cons, List.length_nil]
      omega
    · cases h
      omega
  · obtain ⟨⟨m', n'⟩, hrest, heq⟩ := Option.map_eq_some_iff.1 h
    have := stringBody?_bounds hrest
    cases heq
    omega

lemma mark?_bounds {t : Text} {m : Mark} (h : mark? t = some (m, n)) : 0 < n ∧ n ≤ t.length := by
  cases t with
  | nil => cases h
  | cons c cs =>
    have htaken := (List.takeWhile_sublist (l := cs) fun d => d ≠ '\r' ∧ d ≠ '\n').length_le
    have hone : 0 < 1 ∧ 1 ≤ (c :: cs).length := by simp
    rw [mark?] at h
    repeat' split at h
    · cases h
      simpa using htaken
    · cases h
      exact hone
    · cases h
      exact hone
    · exact stringAt?_bounds h
    · cases h
      simp
    · cases h

lemma sound_mark? : Text.Matcher.Sound mark? where
  pos h := (mark?_bounds h).1
  le h := (mark?_bounds h).2

/-! ## The brackets in front -/

lemma mark?_opening {c : Char} (hc : isOpening c = true) (t : Text) :
    mark? (c :: t) = some (.opening c, 1) := by
  simp only [isOpening, Bool.or_eq_true, decide_eq_true_eq, or_assoc] at hc
  rcases hc with rfl | rfl | rfl <;> rfl

/-- The brackets in front are pieces of their own, whatever follows them. -/
lemma pieces_pending (hpending : ∀ c ∈ pending, isOpening c = true) (line : Text) :
    Text.pieces mark? (pending ++ line) =
      pending.map (fun c => .found (.opening c) [c]) ++ Text.pieces mark? line := by
  induction pending with
  | nil => rfl
  | cons c pending ih =>
    obtain ⟨hc, hpending⟩ := List.forall_mem_cons.1 hpending
    have hfound : mark? ([c] ++ (pending ++ line)) = some (.opening c, [c].length) :=
      mark?_opening hc _
    rw [List.map_cons, List.cons_append, List.cons_append, ← ih hpending]
    exact Text.pieces_found (List.cons_ne_nil c []) hfound

/-- What is found among the brackets in front lies in front of the line. -/
lemma lt_of_mem_placed_pending {x : Mark × Nat}
    (h : x ∈ placed n (pending.map fun c => .found (.opening c) [c])) : x.2 < n + pending.length := by
  induction pending generalizing n with
  | nil => cases h
  | cons c pending ih =>
    rw [List.length_cons]
    rcases List.mem_cons.1 h with rfl | h
    · dsimp only
      omega
    · have := ih h
      simp only [List.length_cons, List.length_nil] at this
      omega

/-- The marks that lie behind the brackets in front are those of the line. -/
lemma filter_placed_pending (hpending : ∀ c ∈ pending, isOpening c = true) (line : Text) :
    ((placed 0 (Text.pieces mark? (pending ++ line))).filter fun x => pending.length ≤ x.2) =
      placed pending.length (Text.pieces mark? line) := by
  have hwidth : ((pending.map fun c => Text.Piece.found (Mark.opening c) [c]).flatMap
      Text.Piece.text).length = pending.length := by
    rw [List.flatMap_map]
    simp [Text.Piece.text]
  rw [pieces_pending hpending, placed_append, hwidth, Nat.zero_add, List.filter_append]
  have hfront : (placed 0 (pending.map fun c => .found (.opening c) [c])).filter
      (fun x => pending.length ≤ x.2) = [] := by
    refine List.filter_eq_nil_iff.2 fun x hx => ?_
    have := lt_of_mem_placed_pending hx
    simp only [decide_eq_true_eq]
    omega
  have hline : (placed pending.length (Text.pieces mark? line)).filter
      (fun x => pending.length ≤ x.2) = placed pending.length (Text.pieces mark? line) :=
    List.filter_eq_self.2 fun x hx => decide_eq_true (le_of_mem_placed hx)
  rw [hfront, hline, List.nil_append]

/-! ## The replay -/

/-- A text that begins with an opening bracket has the marks of its pieces. -/
lemma tokens_opening {c : Char} (hc : isOpening c = true) (t : Text) :
    tokens (c :: t) = placed 0 (Text.pieces mark? (c :: t)) := by
  have hblanks : indentation (c :: t) = [] := by
    simp only [isOpening, Bool.or_eq_true, decide_eq_true_eq, or_assoc] at hc
    rcases hc with rfl | rfl | rfl <;> rfl
  have hmark : c ≠ '#' ∧ c ≠ '\r' := by
    simp only [isOpening, Bool.or_eq_true, decide_eq_true_eq, or_assoc] at hc
    rcases hc with rfl | rfl | rfl <;> decide
  unfold tokens
  simp only [hblanks, List.length_nil, List.drop_zero, List.head?_cons, Option.some.injEq]
  rw [if_neg hmark.1, if_neg hmark.2]

/-- The scan of a line reads its marks, unless no bracket is open and the line begins with a comment or
with a carriage return. -/
lemma scan_eq_pieces
    (h : pending = [] → (line.drop (indentation line).length).head? ≠ some '#' ∧
      (line.drop (indentation line).length).head? ≠ some '\r') :
    scan line pending = ⟨(beforeComment? [] (Text.pieces mark? line)).getD line,
      ((Text.pieces mark? line).filterMap Text.Piece.held?).foldl step pending⟩ := by
  unfold scan
  dsimp only
  rw [if_neg, if_neg]
  · refine congrArg (fun f => Scan.mk _ (List.foldl step pending (List.filterMap f _))) ?_
    funext p
    cases p <;> rfl
  · rw [Bool.and_eq_true, List.isEmpty_iff, decide_eq_true_eq, not_and]
    exact fun hnone => (h hnone).2
  · rw [Bool.and_eq_true, List.isEmpty_iff, decide_eq_true_eq, not_and]
    exact fun hnone => (h hnone).1

/-- **Brackets can be written in front of a line or handed to its scan**: the scan is the same. -/
theorem replay_eq_scan (hpending : ∀ c ∈ pending, isOpening c = true) (line : Text) :
    replay line pending = scan line pending := by
  have hpieces : ((placed 0 (Text.pieces mark? (pending ++ line))).filter fun x =>
      pending.length ≤ x.2).foldl (Scan.read line pending.length) ⟨line, pending⟩ =
      ⟨(beforeComment? [] (Text.pieces mark? line)).getD line,
        ((Text.pieces mark? line).filterMap Text.Piece.held?).foldl step pending⟩ := by
    rw [filter_placed_pending hpending]
    have hspelled : line = [] ++ (Text.pieces mark? line).flatMap Text.Piece.text :=
      (Text.spelled_pieces sound_mark? line).symm
    exact foldl_read_placed hspelled
  cases pending with
  | nil =>
    by_cases hmark : (line.drop (indentation line).length).head? = some '#'
    -- the comment begins behind the blanks
    · have hblanks : line.take (indentation line).length = indentation line :=
        (List.prefix_iff_eq_take.1 (List.takeWhile_prefix _)).symm
      simp [replay, tokens, scan, hmark, Scan.read, hblanks]
    by_cases hreturn : (line.drop (indentation line).length).head? = some '\r'
    · simp [replay, tokens, scan, hreturn]
    · rw [scan_eq_pieces fun _ => ⟨hmark, hreturn⟩, ← hpieces]
      unfold replay tokens
      rw [List.nil_append, if_neg hmark, if_neg hreturn]
  | cons c pending =>
    obtain ⟨hc, -⟩ := List.forall_mem_cons.1 hpending
    rw [scan_eq_pieces fun hnone => absurd hnone (List.cons_ne_nil c pending), ← hpieces]
    unfold replay
    rw [List.cons_append, tokens_opening hc]

end ViewEngine.Brackets

/-
# How a line of code is read

The scan of a line finds string literals, brackets and at last a comment, one after the other.  That
is written down here as a relation between the line, the marks that are found on it and its code in
front of the comment.  Whoever knows that a line is read in such a way knows what the scan makes of
it, and also what it makes of the line without the blanks at its ends.

* `Reads`: how a line is read;
* `scan_of_reads`: what the scan makes of it;
* `Reads.strip`: the line without the blanks at its ends.
-/
import Mathlib.Tactic.Common
import Mathlib.Tactic.Lemma
import ViewEngine.Proofs.Code.Program
import ViewEngine.Proofs.Text.Lines

namespace ViewEngine

/-! ## Blanks around code -/

/-- Blanks behind code do not matter. -/
lemma opensBlock_append_blank {u v : Text} (hv : Text.blank v = true) :
    opensBlock (u ++ v) = opensBlock u := by
  rw [opensBlock, opensBlock, Text.stripRight_append_blank hv]

/-- A blank in front of code does not matter. -/
lemma opensBlock_cons_blank {c : Char} (hc : Text.isBlank c = true) (u : Text) :
    opensBlock (c :: u) = opensBlock u := by
  rw [opensBlock, opensBlock, Text.stripRight]
  rcases Text.stripRight u with _ | ⟨d, ds⟩
  · rw [if_pos hc]
  · rw [List.getLast?_cons_cons]

/-- Code opens a block if a colon stands last. -/
lemma opensBlock_concat {c : Char} (hc : Text.isBlank c = false) (u : Text) :
    opensBlock (u ++ [c]) = decide (c = ':') := by
  have hlast := Text.stripRight_last (v := []) hc rfl u
  rw [opensBlock, hlast]
  simp

namespace Brackets

/-! ## The relation -/

/-- The characters make a mark, if a text follows them that begins with the given character, or none.
The last of them is neither a blank nor a colon, and the mark is no comment. -/
structure IsMarked (w : Text) (m : Mark) (next : Option Char) : Prop where
  closed : ∃ u c, w = u ++ [c] ∧ Text.isBlank c = false ∧ c ≠ ':'
  no_feed : '\n' ∉ w
  not_comment : m ≠ .comment
  taken : ∀ v : Text, v.head? = none ∨ v.head? = next → mark? (w ++ v) = some (m, w.length)

/-- A line, the marks on it, and its code in front of the comment. -/
inductive Reads : Text → List Mark → Text → Prop where
  /-- Nothing. -/
  | nil : Reads [] [] []
  /-- A character at which no mark begins. -/
  | plain {c : Char} {t code : Text} {ms : List Mark} (hc : c ∉ markChars) (h : Reads t ms code) :
      Reads (c :: t) ms (c :: code)
  /-- A string literal or a bracket. -/
  | found {w t code : Text} {m : Mark} {ms : List Mark} (hw : IsMarked w m t.head?)
      (h : Reads t ms code) : Reads (w ++ t) (m :: ms) (w ++ code)
  /-- A comment, which goes on to the end of the line. -/
  | comment {t : Text} (hfeed : '\n' ∉ t) (hreturn : '\r' ∉ t) : Reads ('#' :: t) [.comment] []

variable {w t u v line code : Text} {c : Char} {m : Mark} {ms : List Mark} {next : Option Char}

lemma IsMarked.ne_nil (h : IsMarked w m next) : w ≠ [] := by
  obtain ⟨u, c, rfl, -⟩ := h.closed
  simp

lemma isMarked_opening (hc : c = '(' ∨ c = '[' ∨ c = '{') : IsMarked [c] (.opening c) next where
  closed := ⟨[], c, rfl, by rcases hc with rfl | rfl | rfl <;> decide⟩
  no_feed := by rcases hc with rfl | rfl | rfl <;> decide
  not_comment := by simp
  taken v _ := by rcases hc with rfl | rfl | rfl <;> rfl

lemma isMarked_closing (hc : c = ')' ∨ c = ']' ∨ c = '}') : IsMarked [c] .closing next where
  closed := ⟨[], c, rfl, by rcases hc with rfl | rfl | rfl <;> decide⟩
  no_feed := by rcases hc with rfl | rfl | rfl <;> decide
  not_comment := by simp
  taken v _ := by rcases hc with rfl | rfl | rfl <;> rfl

/-- Code that ends in a mark opens no block. -/
lemma IsMarked.not_opensBlock (h : IsMarked w m next) (front : Text) :
    opensBlock (front ++ w) = false := by
  obtain ⟨u, c, rfl, hblank, hcolon⟩ := h.closed
  rw [← List.append_assoc, opensBlock_concat hblank]
  exact decide_eq_false hcolon

/-- A mark may be followed by less. -/
lemma IsMarked.of_head {next' : Option Char} (h : IsMarked w m next)
    (hnext : next' = none ∨ next' = next) : IsMarked w m next' where
  closed := h.closed
  no_feed := h.no_feed
  not_comment := h.not_comment
  taken v hv := by
    refine h.taken v ?_
    rcases hnext with rfl | rfl
    · exact .inl (hv.elim id id)
    · exact hv

/-- No mark that the relation knows begins with a plain character. -/
lemma IsMarked.not_cons (h : IsMarked (c :: w) m next) : c ∈ markChars := by
  by_contra hc
  have htaken := h.taken [] (.inl rfl)
  rw [List.append_nil, mark?_eq_none w hc] at htaken
  cases htaken

/-- A plain character in front of a line that is read. -/
lemma Reads.of_cons (h : Reads (c :: t) ms code) (hc : c ∉ markChars) :
    ∃ code', code = c :: code' ∧ Reads t ms code' := by
  generalize hline : c :: t = line at h
  cases h with
  | nil => cases hline
  | plain _ h =>
    cases hline
    exact ⟨_, rfl, h⟩
  | @found w _ _ _ _ hw _ =>
    obtain ⟨d, w, rfl⟩ := List.exists_cons_of_ne_nil hw.ne_nil
    obtain ⟨rfl, -⟩ := List.cons.inj hline
    exact absurd hw.not_cons hc
  | comment =>
    cases hline
    exact absurd (by decide) hc

lemma Reads.plains (hu : ∀ c ∈ u, c ∉ markChars) (h : Reads t ms code) :
    Reads (u ++ t) ms (u ++ code) := by
  induction u with
  | nil => exact h
  | cons c u ih =>
    obtain ⟨hc, hu⟩ := List.forall_mem_cons.1 hu
    exact .plain hc (ih hu)

/-! ## What the scan makes of it -/

lemma beforeComment?_cons (seen : Text) (c : Char) (ps : List (Text.Piece Mark)) :
    beforeComment? seen (Text.Piece.cons c ps) = beforeComment? (seen ++ [c]) ps := by
  rcases ps with _ | ⟨⟨p⟩ | ⟨a, p⟩, ps⟩
  · rfl
  · simp only [Text.Piece.cons, beforeComment?, Text.Piece.text, List.append_assoc]
    rfl
  · simp only [Text.Piece.cons, beforeComment?, Text.Piece.text]
    split <;> simp_all

lemma beforeComment?_found (hm : m ≠ .comment) (seen w : Text) (ps : List (Text.Piece Mark)) :
    beforeComment? seen (.found m w :: ps) = beforeComment? (seen ++ w) ps := by
  rw [beforeComment?.eq_def]
  dsimp only [Text.Piece.text]
  rcases beforeComment? (seen ++ w) ps with _ | r
  · cases m <;> first | rfl | exact absurd rfl hm
  · rfl

/-- The marks and the code that the scan finds. -/
lemma Reads.pieces (h : Reads line ms code) :
    Text.findAll mark? line = ms ∧
      ∀ seen, (beforeComment? seen (Text.pieces mark? line)).getD (seen ++ line) = seen ++ code := by
  induction h with
  | nil => exact ⟨rfl, fun seen => rfl⟩
  | @plain c t code ms hc h ih =>
    have hnone := mark?_eq_none t hc
    refine ⟨by rw [Text.findAll_cons hnone, ih.1], fun seen => ?_⟩
    have hrest := ih.2 (seen ++ [c])
    rw [Text.pieces_cons hnone, beforeComment?_cons]
    simpa using hrest
  | @found w t code m ms hw h ih =>
    have hfound := hw.taken t (.inr rfl)
    refine ⟨by rw [Text.findAll_found hw.ne_nil hfound, ih.1], fun seen => ?_⟩
    have hrest := ih.2 (seen ++ w)
    rw [Text.pieces_found hw.ne_nil hfound, beforeComment?_found hw.not_comment]
    simpa using hrest
  | comment hfeed hreturn =>
    rw [Text.findAll_eq_filterMap, pieces_comment hfeed hreturn]
    exact ⟨rfl, fun seen => by simp [beforeComment?]⟩

/-- A line that is a comment behind blanks. -/
lemma Reads.of_remark (h : Reads line ms code)
    (hfirst : (line.drop (indentation line).length).head? = some '#') :
    ms = [.comment] ∧ code = indentation line := by
  induction line generalizing ms code with
  | nil => cases hfirst
  | cons c t ih =>
    by_cases hc : (c = ' ' || c = '\t' || c = '\x0c') = true
    · have hblanks : indentation (c :: t) = c :: indentation t := by
        rw [indentation, List.takeWhile_cons, if_pos hc]
        rfl
      have hplain : c ∉ markChars := by
        simp only [Bool.or_eq_true, decide_eq_true_eq] at hc
        rcases hc with (rfl | rfl) | rfl <;> decide
      obtain ⟨code, rfl, hrest⟩ := h.of_cons hplain
      rw [hblanks] at hfirst ⊢
      obtain ⟨hms, hcode⟩ := ih hrest hfirst
      exact ⟨hms, by rw [hcode]⟩
    · have hblanks : indentation (c :: t) = [] := by
        rw [indentation, List.takeWhile_cons, if_neg hc]
      rw [hblanks] at hfirst ⊢
      obtain rfl : c = '#' := Option.some.inj hfirst
      generalize hline : '#' :: t = line at h
      cases h with
      | nil => cases hline
      | plain hplain _ =>
        cases hline
        exact absurd (by decide) hplain
      | @found w t' _ m _ hw _ =>
        obtain ⟨d, w, rfl⟩ := List.exists_cons_of_ne_nil hw.ne_nil
        obtain ⟨rfl, -⟩ := List.cons.inj hline
        have htaken := hw.taken [] (.inl rfl)
        rw [List.append_nil, mark?, if_pos rfl] at htaken
        have hm := congrArg Prod.fst (Option.some.inj htaken)
        exact absurd hm.symm hw.not_comment
      | comment => exact ⟨rfl, rfl⟩

/-- What the scan makes of a line without a carriage return: its code and what its marks do to the open
brackets, provided that a line that is a comment behind blanks has no other marks. -/
lemma scan_of_pieces {f : List Char → List Char} (hreturn : '\r' ∉ line)
    (hmarks : ∀ pending, (Text.findAll mark? line).foldl step pending = f pending)
    (hcode : (beforeComment? [] (Text.pieces mark? line)).getD line = code)
    (hremark : (line.drop (indentation line).length).head? = some '#' →
      f [] = [] ∧ code = indentation line) (pending : List Char) :
    scan line pending = ⟨code, f pending⟩ := by
  unfold scan
  dsimp only
  split
  · next hfirst =>
    rw [Bool.and_eq_true, List.isEmpty_iff, decide_eq_true_eq] at hfirst
    obtain ⟨rfl, hfirst⟩ := hfirst
    obtain ⟨hnone, rfl⟩ := hremark hfirst
    rw [hnone]
  split
  · next hcarriage =>
    rw [Bool.and_eq_true, decide_eq_true_eq] at hcarriage
    have hmem := List.mem_of_mem_head? hcarriage.2
    exact absurd (List.mem_of_mem_drop hmem) hreturn
  · rw [hcode]
    refine congrArg (Scan.mk code) ?_
    rw [← hmarks, Text.findAll]
    refine congrArg (fun f => List.foldl step pending (List.filterMap f _)) (funext fun p => ?_)
    cases p <;> rfl

/-- **What the scan makes of a line.** -/
theorem scan_of_reads (h : Reads line ms code) (hreturn : '\r' ∉ line) (pending : List Char) :
    scan line pending = ⟨code, ms.foldl step pending⟩ := by
  obtain ⟨hfind, hcode⟩ := h.pieces
  have hcode := hcode []
  rw [List.nil_append, List.nil_append] at hcode
  refine scan_of_pieces hreturn (fun pending => by rw [hfind]) hcode (fun hfirst => ?_) pending
  obtain ⟨rfl, rfl⟩ := h.of_remark hfirst
  exact ⟨rfl, rfl⟩

/-! ## Without the blanks at its ends -/

lemma Reads.blanks (h : Reads u ms code) (hu : Text.blank u = true) (hfeed : '\n' ∉ u) :
    ms = [] ∧ code = u := by
  induction u generalizing ms code with
  | nil =>
    generalize hline : ([] : Text) = line at h
    cases h with
    | nil => exact ⟨rfl, rfl⟩
    | plain => cases hline
    | found hw _ => exact absurd (List.append_eq_nil_iff.1 hline.symm).1 hw.ne_nil
    | comment => cases hline
  | cons c u ih =>
    rw [Text.blank, List.all_cons, Bool.and_eq_true] at hu
    rw [List.mem_cons, not_or] at hfeed
    obtain ⟨code, rfl, hrest⟩ := h.of_cons (not_mem_markChars_of_blank hu.1 (Ne.symm hfeed.1))
    obtain ⟨hms, hcode⟩ := ih hrest hu.2 hfeed.2
    exact ⟨hms, by rw [hcode]⟩

/-- Blanks in front of a line. -/
lemma Reads.stripLeft (h : Reads line ms code) (hfeed : '\n' ∉ line) :
    ∃ code', Reads (Text.stripLeft line) ms code' ∧ opensBlock code' = opensBlock code := by
  induction line generalizing ms code with
  | nil => exact ⟨code, h, rfl⟩
  | cons c t ih =>
    rw [List.mem_cons, not_or] at hfeed
    by_cases hc : Text.isBlank c = true
    · obtain ⟨code, rfl, hrest⟩ := h.of_cons (not_mem_markChars_of_blank hc (Ne.symm hfeed.1))
      obtain ⟨code', hread, hopens⟩ := ih hrest hfeed.2
      refine ⟨code', ?_, hopens.trans (opensBlock_cons_blank hc code).symm⟩
      rwa [Text.stripLeft, List.dropWhile_cons_of_pos hc]
    · refine ⟨code, ?_, rfl⟩
      rwa [Text.stripLeft, List.dropWhile_cons_of_neg hc]

/-- Blanks behind a line. -/
lemma Reads.of_append (h : Reads line ms code) (hline : line = u ++ v) (hv : Text.blank v = true)
    (hfeed : '\n' ∉ v) : ∃ code' b, Reads u ms code' ∧ code = code' ++ b ∧ Text.blank b = true := by
  induction h generalizing u with
  | nil =>
    obtain ⟨rfl, rfl⟩ := List.append_eq_nil_iff.1 hline.symm
    exact ⟨[], [], .nil, rfl, rfl⟩
  | @plain c t code ms hc h ih =>
    rcases u with _ | ⟨d, u⟩
    · rw [List.nil_append] at hline
      obtain ⟨rfl, hcode⟩ := (hline ▸ Reads.plain hc h).blanks hv hfeed
      exact ⟨[], v, .nil, hcode, hv⟩
    · obtain ⟨rfl, ht⟩ := List.cons.inj hline
      obtain ⟨code', b, hread, rfl, hb⟩ := ih ht
      exact ⟨c :: code', b, .plain hc hread, rfl, hb⟩
  | @found w t code m ms hw h ih =>
    rcases List.append_eq_append_iff.1 hline with ⟨a, rfl, rfl⟩ | ⟨b, rfl, rfl⟩
    · obtain ⟨code', b, hread, rfl, hb⟩ := ih rfl
      refine ⟨w ++ code', b, .found (hw.of_head ?_) hread, by rw [List.append_assoc], hb⟩
      cases a with
      | nil => exact .inl rfl
      | cons d a => exact .inr rfl
    · rcases List.eq_nil_or_concat b with rfl | ⟨b, d, rfl⟩
      · obtain ⟨rfl, rfl⟩ := h.blanks hv hfeed
        rw [List.append_nil] at hw ⊢
        have hread := Reads.found (hw.of_head (.inl rfl)) .nil
        rw [List.append_nil] at hread
        exact ⟨u, _, hread, rfl, hv⟩
      -- the last character of a mark is no blank
      · obtain ⟨u', c, hu', hc, -⟩ := hw.closed
        rw [List.concat_eq_append, ← List.append_assoc] at hu'
        obtain rfl := (List.cons.inj (List.append_inj' hu' rfl).2).1
        rw [Text.blank, List.all_append, List.concat_eq_append, List.all_append] at hv
        simp [hc] at hv
  | comment hfeeds hreturn =>
    rcases u with _ | ⟨d, u⟩
    · rw [← List.nil_append v, ← hline, Text.blank, List.all_cons, Bool.and_eq_true] at hv
      exact absurd hv.1 (by decide)
    · obtain ⟨rfl, rfl⟩ := List.cons.inj hline
      have hpart : ∀ d ∈ u, d ∈ u ++ v := fun d hd => List.mem_append_left v hd
      exact ⟨[], [], .comment (fun h => hfeeds (hpart _ h)) fun h => hreturn (hpart _ h), rfl, rfl⟩

/-- **The line without the blanks at its ends** is read in the same way. -/
theorem Reads.strip (h : Reads line ms code) (hfeed : '\n' ∉ line) :
    ∃ code', Reads (Text.strip line) ms code' ∧ opensBlock code' = opensBlock code := by
  obtain ⟨code, hread, hopens⟩ := h.stripLeft hfeed
  obtain ⟨v, hsplit, hv⟩ := Text.exists_append_stripRight (Text.stripLeft line)
  have hfeed' : '\n' ∉ v := by
    intro hmem
    have hmem : '\n' ∈ Text.stripLeft line := by
      rw [hsplit]
      exact List.mem_append_right _ hmem
    exact hfeed ((List.dropWhile_suffix _).subset hmem)
  obtain ⟨code', b, hread', rfl, hb⟩ := hread.of_append hsplit hv hfeed'
  exact ⟨code', hread', by rw [← hopens, opensBlock_append_blank hb]⟩

end Brackets
end ViewEngine

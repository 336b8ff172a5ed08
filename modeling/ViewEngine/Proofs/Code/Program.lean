/-
# Programs in tags

Code in tags is written without indentation that means anything: a block begins behind a line that
ends in a colon and ends at a line `end`.  This file defines programs as trees of statements, the lines
in which a tree is written, and the code that it stands for, each statement four spaces deeper than the
block around it; and shows that the generator turns the former into the latter.

The generator works line by line with a depth and a list of open brackets.  The invariant is that the
lines of a whole tree bring both back to where they were, so lines of trees behind each other add
their code one after the other (`Writes.append`).

* `Program.lines`, `Program.code`: how a program is written, and the code that it stands for;
* `scan_endLine`: no header is taken for a line that ends a block;
* `Program.writes_lines`: the lines of a program add its code.
-/
import Mathlib.Tactic.Common
import Mathlib.Tactic.Lemma
import ViewEngine.Proofs.Code.Generator

namespace ViewEngine

/-! ## Programs -/

mutual

/-- Statements, one after the other. -/
inductive Program where
  /-- Nothing more. -/
  | done
  /-- A statement without a block, on one line or on several. -/
  | simple (lines : List Text) (rest : Program)
  /-- A statement with blocks: a header and its block, further clauses, the line that ends it. -/
  | compound (header : List Text) (body : Program) (more : Clauses) (close : Text) (rest : Program)

/-- The further clauses of a statement. -/
inductive Clauses where
  /-- No further clause. -/
  | done
  /-- A clause: a header and its block. -/
  | clause (header : List Text) (body : Program) (more : Clauses)

end

/-- The code of the last of the lines without its comment, if brackets are open behind each line but
the last, `pending` being open in front of the first, and none is open behind the last. -/
def lastCode? (pending : List Char) : List Text → Option Text
  | [] => none
  | [l] =>
    let s := Brackets.scan l pending
    if s.pending = [] then some s.code else none
  | l :: l' :: ls =>
    let s := Brackets.scan l pending
    if s.pending = [] then none else lastCode? s.pending (l' :: ls)

/-- Lines that make up a statement without a block. -/
structure IsSimple (lines : List Text) : Prop where
  not_end : ∀ l ∈ lines.head?, isEndLine l = false
  not_clause : ∀ l ∈ lines.head?, isClauseLine l = false
  closed : ∃ code, lastCode? [] lines = some code ∧ opensBlock code = false

/-- Lines that make up a header; `clause` says whether it begins with a word that continues a
statement. -/
structure IsBlockHeader (clause : Bool) (lines : List Text) : Prop where
  front : ∀ l ∈ lines.head?, isClauseLine l = clause
  closed : ∃ code, lastCode? [] lines = some code ∧ opensBlock code = true

mutual

/-- The lines are those of the statements that they stand for. -/
def Program.WellFormed : Program → Prop
  | .done => True
  | .simple lines rest => IsSimple lines ∧ rest.WellFormed
  | .compound header body more close rest =>
    IsBlockHeader false header ∧ body.WellFormed ∧ more.WellFormed ∧ isEndLine close = true ∧
      rest.WellFormed

/-- The lines are those of the clauses that they stand for. -/
def Clauses.WellFormed : Clauses → Prop
  | .done => True
  | .clause header body more => IsBlockHeader true header ∧ body.WellFormed ∧ more.WellFormed

end

mutual

/-- The lines in which a program is written. -/
def Program.lines : Program → List Text
  | .done => []
  | .simple lines rest => lines ++ rest.lines
  | .compound header body more close rest =>
    header ++ (body.lines ++ (more.lines ++ ([close] ++ rest.lines)))

/-- The lines in which clauses are written. -/
def Clauses.lines : Clauses → List Text
  | .done => []
  | .clause header body more => header ++ (body.lines ++ more.lines)

end

/-- Lines of code at a depth. -/
def rows (depth : Nat) (lines : List Text) : Text := lines.flatMap (row depth)

/-- A header at a depth, and the first line of its block. -/
def blockRows (depth : Nat) (header : List Text) : Text :=
  rows depth header ++ row (depth + 1) "pass"

mutual

/-- The code that a program stands for, at a depth. -/
def Program.code (depth : Nat) : Program → Text
  | .done => []
  | .simple lines rest => rows depth lines ++ rest.code depth
  | .compound header body more _ rest =>
    blockRows depth header ++ (body.code (depth + 1) ++ (more.code depth ++ rest.code depth))

/-- The code that clauses stand for, at the depth of their statement. -/
def Clauses.code (depth : Nat) : Clauses → Text
  | .done => []
  | .clause header body more =>
    blockRows depth header ++ (body.code (depth + 1) ++ more.code depth)

end

/-! ## Lines that end a block -/

/-- A line of code, without blanks at its ends. -/
structure IsCodeLine (l : Text) : Prop where
  ne_nil : l ≠ []
  no_feed : '\n' ∉ l
  no_return : '\r' ∉ l

/-- How a line that ends a block is written: the word, perhaps a semicolon, perhaps a comment. -/
lemma isEndLine_cases {l : Text} (h : isEndLine l = true) :
    ∃ u v comment, l = "end" ++ (u ++ (v ++ comment)) ∧ Text.blank u = true ∧
      (Text.blank v = true ∨ ∃ w, v = ';' :: w ∧ Text.blank w = true) ∧
      (comment = [] ∨ ∃ cs, comment = '#' :: cs) := by
  -- blanks at the front of a text, and what follows them
  have hblanks : ∀ t : Text, ∃ u, t = u ++ Text.stripLeft t ∧ Text.blank u = true := by
    intro t
    refine ⟨t.takeWhile Text.isBlank, List.takeWhile_append_dropWhile.symm, ?_⟩
    exact List.all_takeWhile
  have hcomment : ∀ r : Text, (r.isEmpty || Text.startsWith "#" r) = true →
      r = [] ∨ ∃ cs, r = '#' :: cs := by
    intro r hr
    rcases Bool.or_eq_true _ _ ▸ hr with hr | hr
    · exact .inl (List.isEmpty_iff.1 hr)
    · obtain ⟨cs, hcs⟩ := Option.isSome_iff_exists.1 hr
      exact .inr ⟨cs, Text.after?_eq_some_iff.1 hcs⟩
  unfold isEndLine at h
  rcases hafter : Text.after? "end" l with _ | r
  · rw [hafter] at h
    cases h
  rw [hafter] at h
  dsimp only at h
  have hl : l = "end" ++ r := Text.after?_eq_some_iff.1 hafter
  obtain ⟨u, hu, hublank⟩ := hblanks r
  rcases hsemi : Text.after? ";" (Text.stripLeft r) with _ | w
  · rw [hsemi, Option.getD_none] at h
    obtain ⟨v, hv, hvblank⟩ := hblanks (Text.stripLeft r)
    exact ⟨u, v, _, by rw [hl, ← hv, ← hu], hublank, .inl hvblank, hcomment _ h⟩
  · rw [hsemi, Option.getD_some] at h
    have hw : Text.stripLeft r = ';' :: w := Text.after?_eq_some_iff.1 hsemi
    obtain ⟨v, hv, hvblank⟩ := hblanks w
    refine ⟨u, ';' :: v, _, ?_, hublank, .inr ⟨v, rfl, hvblank⟩, hcomment _ h⟩
    rw [hl, List.cons_append, ← hv, ← hw, ← hu]

/-- No mark begins at a blank other than a line feed. -/
lemma not_mem_markChars_of_blank {c : Char} (hc : Text.isBlank c = true) (hfeed : c ≠ '\n') :
    c ∉ markChars := by
  intro hmem
  simp only [markChars, List.mem_cons, List.not_mem_nil, or_false] at hmem
  rcases hmem with rfl | rfl | rfl | rfl | rfl | rfl | rfl | rfl | rfl | rfl
  all_goals first | exact hfeed rfl | exact absurd hc (by decide)

/-- **A line that ends a block opens none**, so no header is taken for one. -/
lemma scan_endLine {l : Text} (hl : IsCodeLine l) (h : isEndLine l = true) :
    ∃ code, Brackets.scan l [] = ⟨code, []⟩ ∧ opensBlock code = false := by
  obtain ⟨u, v, comment, hsplit, hu, hv, hcomment⟩ := isEndLine_cases h
  have hmem : ∀ c ∈ "end" ++ (u ++ (v ++ comment)), c ≠ '\n' ∧ c ≠ '\r' := by
    rw [← hsplit]
    exact fun c hc => ⟨fun heq => hl.no_feed (heq ▸ hc), fun heq => hl.no_return (heq ▸ hc)⟩
  have hblank : ∀ w : Text, Text.blank w = true → (∀ c ∈ w, c ≠ '\n') → ∀ c ∈ w, c ∉ markChars :=
    fun w hw hfeed c hc => not_mem_markChars_of_blank (List.all_eq_true.1 hw c hc) (hfeed c hc)
  have hcode : ∀ d ∈ 'e' :: ('n' :: 'd' :: (u ++ v)), d ∉ markChars := by
    intro d hd
    simp only [List.mem_cons, List.mem_append] at hd
    have hfeeds : ∀ w : Text, (∀ c ∈ w, c ∈ u ++ (v ++ comment)) → ∀ c ∈ w, c ≠ '\n' :=
      fun w hw c hc => (hmem c (List.mem_append_right _ (hw c hc))).1
    rcases hd with rfl | rfl | rfl | hd | hd
    · decide
    · decide
    · decide
    · exact hblank u hu (hfeeds u fun c hc => by simp [hc]) d hd
    · rcases hv with hv | ⟨w, rfl, hw⟩
      · exact hblank v hv (hfeeds v fun c hc => by simp [hc]) d hd
      · rcases List.mem_cons.1 hd with rfl | hd
        · decide
        · exact hblank w hw (hfeeds w fun c hc => by simp [hc]) d hd
  refine ⟨'e' :: ('n' :: 'd' :: (u ++ v)), ?_, ?_⟩
  · have hscan : Brackets.scan ('e' :: ('n' :: 'd' :: (u ++ v) ++ comment)) [] =
        ⟨'e' :: 'n' :: 'd' :: (u ++ v), []⟩ := scan_commented (by decide) hcode ?_
    · rw [hsplit]
      simpa using hscan
    · rcases hcomment with rfl | ⟨cs, rfl⟩
      · exact .inl rfl
      · refine .inr ⟨cs, rfl, fun hc => ?_, fun hc => ?_⟩
        · exact (hmem _ (by simp [hc])).1 rfl
        · exact (hmem _ (by simp [hc])).2 rfl
  -- the last character of the code is that of the word, or the semicolon
  · rcases hv with hv | ⟨w, rfl, hw⟩
    · have huv : Text.blank (u ++ v) = true := by
        rw [Text.blank, List.all_append, Bool.and_eq_true]
        exact ⟨hu, hv⟩
      have hright := Text.stripRight_last (c := 'd') (by decide) huv ['e', 'n']
      rw [List.cons_append, List.cons_append, List.nil_append] at hright
      rw [opensBlock, hright]
      rfl
    · have hright := Text.stripRight_last (c := ';') (by decide) hw ('e' :: 'n' :: 'd' :: u)
      rw [List.cons_append, List.cons_append, List.cons_append] at hright
      rw [opensBlock, hright, List.getLast?_append]
      rfl

/-! ## What lines do to the generator -/

namespace Generator

variable {g g' : Generator}

lemma codeLine_blank {raw : Text} (n : Int) (h : Text.strip raw = []) : g.codeLine raw n = .ok g := by
  simp [codeLine, h]

lemma codeLine_pending {raw : Text} (n : Int) (h : Text.strip raw ≠ []) (hp : g.pending ≠ []) :
    g.codeLine raw n = .ok (g.addCode (Text.strip raw) n) := by
  simp [codeLine, h, hp]

lemma codeLine_plain {raw : Text} (n : Int) (h : Text.strip raw ≠ []) (hp : g.pending = [])
    (hend : isEndLine (Text.strip raw) = false) (hclause : isClauseLine (Text.strip raw) = false) :
    g.codeLine raw n = .ok (g.addCode (Text.strip raw) n) := by
  simp [codeLine, h, hp, hend, hclause]

lemma closeBlock_succ {d : Nat} (n : Int) (hd : g.listing.depth = d + 1) :
    g.closeBlock n = .ok { g with listing := { g.listing with depth := d } } := by
  simp [closeBlock, Listing.dedent?, hd]

lemma codeLine_clause {raw : Text} {d : Nat} (n : Int) (h : Text.strip raw ≠ []) (hp : g.pending = [])
    (hend : isEndLine (Text.strip raw) = false) (hclause : isClauseLine (Text.strip raw) = true)
    (hd : g.listing.depth = d + 1) :
    g.codeLine raw n = .ok (({ g with listing := { g.listing with depth := d } } : Generator).addCode
      (Text.strip raw) n) := by
  simp only [codeLine, List.isEmpty_iff, h, hp, hend, hclause, closeBlock_succ n hd]
  rfl

lemma codeLine_end {raw : Text} {d : Nat} (n : Int) (h : Text.strip raw ≠ []) (hp : g.pending = [])
    (hend : isEndLine (Text.strip raw) = true) (hd : g.listing.depth = d + 1) :
    g.codeLine raw n = .ok { g with listing := { g.listing with depth := d } } := by
  simp only [codeLine, List.isEmpty_iff, h, hp, hend, closeBlock_succ n hd]
  rfl

/-- Lines of code with the numbers that they have in the view. -/
def feed (g : Generator) : List (Text × Int) → Except Halt Generator
  | [] => .ok g
  | l :: ls => do
    let g ← g.codeLine l.1 l.2
    feed g ls

lemma feed_cons {l : Text × Int} {ls : List (Text × Int)} {g₁ : Generator}
    (h : g.codeLine l.1 l.2 = .ok g₁) : g.feed (l :: ls) = g₁.feed ls := by
  rw [feed, h]
  rfl

lemma feed_append {ls ls' : List (Text × Int)} {g₁ : Generator} (h : g.feed ls = .ok g₁) :
    g.feed (ls ++ ls') = g₁.feed ls' := by
  induction ls generalizing g with
  | nil =>
    cases h
    rfl
  | cons l ls ih =>
    rw [List.cons_append, feed]
    rw [feed] at h
    rcases hline : g.codeLine l.1 l.2 with _ | g₂
    · rw [hline] at h
      cases h
    · rw [hline] at h
      exact ih h

/-- From depth `d` to depth `d'`, and with no bracket open in front of them or behind them, the lines
add the code, whatever blanks stand around them and whatever numbers they have. -/
def Writes (lines : List Text) (d d' : Nat) (code : Text) : Prop :=
  ∀ (g : Generator) (ls : List (Text × Int)), ls.map (fun l => Text.strip l.1) = lines →
    g.listing.depth = d → g.pending = [] →
    ∃ g', g.feed ls = .ok g' ∧ g'.mode = g.mode ∧ g'.trim = g.trim ∧ g'.listing.depth = d' ∧
      g'.pending = [] ∧ g'.listing.code = g.listing.code ++ code

variable {lines lines' : List Text} {d d' d'' : Nat} {code code' : Text}

lemma Writes.nil : Writes [] d d [] := by
  intro g ls hls hd hp
  rw [List.map_eq_nil_iff] at hls
  subst hls
  exact ⟨g, rfl, rfl, rfl, hd, hp, (List.append_nil _).symm⟩

/-- **Lines behind each other add their code one after the other.** -/
theorem Writes.append (h : Writes lines d d' code) (h' : Writes lines' d' d'' code') :
    Writes (lines ++ lines') d d'' (code ++ code') := by
  intro g ls hls hd hp
  obtain ⟨ls₁, ls₂, rfl, hls₁, hls₂⟩ := List.map_eq_append_iff.1 hls
  obtain ⟨g₁, hfeed₁, hmode₁, htrim₁, hd₁, hp₁, hcode₁⟩ := h g ls₁ hls₁ hd hp
  obtain ⟨g₂, hfeed₂, hmode₂, htrim₂, hd₂, hp₂, hcode₂⟩ := h' g₁ ls₂ hls₂ hd₁ hp₁
  refine ⟨g₂, ?_, by rw [hmode₂, hmode₁], by rw [htrim₂, htrim₁], hd₂, hp₂, ?_⟩
  · rw [feed_append hfeed₁, hfeed₂]
  · rw [hcode₂, hcode₁, List.append_assoc]

/-! ### Statements on several lines -/

/-- The code of a statement on several lines, which opens a block or not. -/
def statementRows (opens : Bool) (depth : Nat) (lines : List Text) : Text :=
  if opens then blockRows depth lines else rows depth lines

lemma addCode_eq_ite (g : Generator) (l : Text) (n : Int) :
    g.addCode l n = { g with
      listing := if ((Brackets.scan l g.pending).pending.isEmpty &&
          opensBlock (Brackets.scan l g.pending).code) = true then
        (g.listing.add l n).indent.add "pass" n else g.listing.add l n
      pending := (Brackets.scan l g.pending).pending } := by
  unfold addCode
  dsimp only [emit]
  split <;> rfl

/-- A line that leaves brackets open. -/
lemma addCode_open {l : Text} (n : Int) (h : (Brackets.scan l g.pending).pending ≠ []) :
    g.addCode l n = { g with
      listing := g.listing.add l n
      pending := (Brackets.scan l g.pending).pending } := by
  rw [addCode_eq_ite]
  simp [h]

/-- The last line of a statement. -/
lemma addCode_last {l : Text} (n : Int) (h : (Brackets.scan l g.pending).pending = []) :
    g.addCode l n = { g with
      listing := if opensBlock (Brackets.scan l g.pending).code = true then
        (g.listing.add l n).indent.add "pass" n else g.listing.add l n
      pending := [] } := by
  rw [addCode_eq_ite]
  simp [h]

/-- From the first line of a statement on, the lines of the statement are added, because brackets
stay open up to the last. -/
lemma feed_addCode {l : Text} {n : Int} {ls : List (Text × Int)}
    (hlast : lastCode? g.pending (l :: lines) = some code)
    (hls : ls.map (fun l => Text.strip l.1) = lines) (hne : ∀ l ∈ lines, l ≠ []) :
    ∃ g', (g.addCode l n).feed ls = .ok g' ∧ g'.mode = g.mode ∧ g'.trim = g.trim ∧
      g'.listing.depth = g.listing.depth + (opensBlock code).toNat ∧ g'.pending = [] ∧
      g'.listing.code = g.listing.code ++
        statementRows (opensBlock code) g.listing.depth (l :: lines) := by
  induction lines generalizing g l n ls with
  | nil =>
    rw [List.map_eq_nil_iff] at hls
    subst hls
    simp only [lastCode?] at hlast
    split at hlast
    · next hp =>
      cases hlast
      refine ⟨_, rfl, ?_⟩
      rw [addCode_last n hp]
      cases opensBlock (Brackets.scan l g.pending).code with
      | true =>
        refine ⟨rfl, rfl, rfl, rfl, ?_⟩
        simp [statementRows, blockRows, rows, row, Statement.code, Listing.add, Listing.indent,
          Listing.code]
      | false =>
        refine ⟨rfl, rfl, rfl, rfl, ?_⟩
        simp [statementRows, rows, row, Statement.code]
    · cases hlast
  | cons l' lines ih =>
    simp only [lastCode?] at hlast
    split at hlast
    · cases hlast
    next hopen =>
    obtain ⟨⟨raw, n'⟩, ls, rfl, rfl, hrest⟩ := List.map_eq_cons_iff.1 hls
    obtain ⟨hl', hne'⟩ := List.forall_mem_cons.1 hne
    rw [addCode_open n hopen]
    obtain ⟨g', hfeed, hmode, htrim, hdepth, hp, hcode⟩ :=
      ih (g := { g with
        listing := g.listing.add l n
        pending := (Brackets.scan l g.pending).pending }) (n := n') hlast hrest hne'
    refine ⟨g', ?_, hmode, htrim, hdepth, hp, ?_⟩
    · rw [feed_cons (codeLine_pending n' hl' hopen), hfeed]
    · rw [hcode, Listing.code_add]
      cases opensBlock code <;>
        simp [statementRows, blockRows, rows, row, Statement.code, Listing.add]

/-! ### Statements -/

/-- A statement without a block. -/
lemma writes_simple (h : IsSimple lines) (hlines : ∀ l ∈ lines, IsCodeLine l) (d : Nat) :
    Writes lines d d (rows d lines) := by
  intro g ls hls hd hp
  obtain ⟨code, hlast, hopens⟩ := h.closed
  rcases lines with _ | ⟨l, lines⟩
  · cases hlast
  obtain ⟨⟨raw, n⟩, ls, rfl, rfl, hrest⟩ := List.map_eq_cons_iff.1 hls
  obtain ⟨hl, hlines⟩ := List.forall_mem_cons.1 hlines
  have hline := codeLine_plain n hl.ne_nil hp (h.not_end _ rfl) (h.not_clause _ rfl)
  rw [← hp] at hlast
  obtain ⟨g', hfeed, hmode, htrim, hdepth, hp', hcode⟩ :=
    feed_addCode (n := n) hlast hrest fun l hl => (hlines l hl).ne_nil
  rw [hopens] at hdepth hcode
  refine ⟨g', ?_, hmode, htrim, hdepth.trans hd, hp', ?_⟩
  · rw [feed_cons hline, hfeed]
  · rw [hcode, hd]
    rfl

/-- The first line of a header is not taken for one that ends a block: no bracket would be open behind
it, and its code would not end in a colon. -/
lemma isEndLine_header {l : Text} (hl : IsCodeLine l) (hlast : lastCode? [] (l :: lines) = some code)
    (hopens : opensBlock code = true) : isEndLine l = false := by
  rw [← Bool.not_eq_true]
  intro hend
  obtain ⟨code', hscan, hcode'⟩ := scan_endLine hl hend
  cases lines with
  | nil =>
    simp only [lastCode?, hscan, if_true, Option.some.injEq] at hlast
    rw [← hlast, hcode'] at hopens
    cases hopens
  | cons l' lines =>
    simp only [lastCode?, hscan, if_true] at hlast
    cases hlast

/-- A header that begins a statement. -/
lemma writes_header (h : IsBlockHeader false lines) (hlines : ∀ l ∈ lines, IsCodeLine l) (d : Nat) :
    Writes lines d (d + 1) (blockRows d lines) := by
  intro g ls hls hd hp
  obtain ⟨code, hlast, hopens⟩ := h.closed
  rcases lines with _ | ⟨l, lines⟩
  · cases hlast
  obtain ⟨⟨raw, n⟩, ls, rfl, rfl, hrest⟩ := List.map_eq_cons_iff.1 hls
  obtain ⟨hl, hlines⟩ := List.forall_mem_cons.1 hlines
  have hline := codeLine_plain n hl.ne_nil hp (isEndLine_header hl hlast hopens) (h.front _ rfl)
  rw [← hp] at hlast
  obtain ⟨g', hfeed, hmode, htrim, hdepth, hp', hcode⟩ :=
    feed_addCode (n := n) hlast hrest fun l hl => (hlines l hl).ne_nil
  rw [hopens] at hdepth hcode
  refine ⟨g', ?_, hmode, htrim, by rw [hdepth, hd]; rfl, hp', ?_⟩
  · rw [feed_cons hline, hfeed]
  · rw [hcode, hd]
    rfl

/-- A header that continues a statement closes the block in front of it first. -/
lemma writes_clause (h : IsBlockHeader true lines) (hlines : ∀ l ∈ lines, IsCodeLine l) (d : Nat) :
    Writes lines (d + 1) (d + 1) (blockRows d lines) := by
  intro g ls hls hd hp
  obtain ⟨code, hlast, hopens⟩ := h.closed
  rcases lines with _ | ⟨l, lines⟩
  · cases hlast
  obtain ⟨⟨raw, n⟩, ls, rfl, rfl, hrest⟩ := List.map_eq_cons_iff.1 hls
  obtain ⟨hl, hlines⟩ := List.forall_mem_cons.1 hlines
  have hline :=
    codeLine_clause n hl.ne_nil hp (isEndLine_header hl hlast hopens) (h.front _ rfl) hd
  rw [← hp] at hlast
  obtain ⟨g', hfeed, hmode, htrim, hdepth, hp', hcode⟩ :=
    feed_addCode (g := { g with listing := { g.listing with depth := d } }) (n := n) hlast hrest
      fun l hl => (hlines l hl).ne_nil
  rw [hopens] at hdepth hcode
  refine ⟨g', ?_, hmode, htrim, hdepth, hp', hcode⟩
  rw [feed_cons hline, hfeed]

/-- The line that ends a block. -/
lemma writes_end {l : Text} (hl : IsCodeLine l) (h : isEndLine l = true) (d : Nat) :
    Writes [l] (d + 1) d [] := by
  intro g ls hls hd hp
  obtain ⟨⟨raw, n⟩, ls, rfl, rfl, hrest⟩ := List.map_eq_cons_iff.1 hls
  rw [List.map_eq_nil_iff] at hrest
  subst hrest
  refine ⟨_, feed_cons (codeLine_end n hl.ne_nil hp h hd), rfl, rfl, rfl, hp, ?_⟩
  exact (List.append_nil _).symm

end Generator

open Generator in
mutual

/-- **The lines of a program add its code**, and bring the depth back to where it was. -/
theorem Program.writes_lines (d : Nat) : ∀ p : Program, p.WellFormed →
    (∀ l ∈ p.lines, IsCodeLine l) → Writes p.lines d d (p.code d)
  | .done, _, _ => Writes.nil
  | .simple lines rest, hp, hl => by
    rw [Program.lines, List.forall_mem_append] at hl
    exact (writes_simple hp.1 hl.1 d).append (rest.writes_lines d hp.2 hl.2)
  | .compound header body more close rest, hp, hl => by
    obtain ⟨hheader, hbody, hmore, hclose, hrest⟩ := hp
    simp only [Program.lines, List.forall_mem_append, List.forall_mem_singleton] at hl
    obtain ⟨hl₁, hl₂, hl₃, hl₄, hl₅⟩ := hl
    have hblock := (writes_header hheader hl₁ d).append (body.writes_lines (d + 1) hbody hl₂)
    have hclauses := hblock.append (more.writes_lines d hmore hl₃)
    have hall := (hclauses.append (writes_end hl₄ hclose d)).append (rest.writes_lines d hrest hl₅)
    simpa [Program.lines, Program.code] using hall

/-- The lines of clauses add their code, each closing the block of the one in front of it. -/
theorem Clauses.writes_lines (d : Nat) : ∀ c : Clauses, c.WellFormed →
    (∀ l ∈ c.lines, IsCodeLine l) → Writes c.lines (d + 1) (d + 1) (c.code d)
  | .done, _, _ => Writes.nil
  | .clause header body more, hc, hl => by
    obtain ⟨hheader, hbody, hmore⟩ := hc
    simp only [Clauses.lines, List.forall_mem_append] at hl
    obtain ⟨hl₁, hl₂, hl₃⟩ := hl
    have hblock := (writes_clause hheader hl₁ d).append (body.writes_lines (d + 1) hbody hl₂)
    have hall := hblock.append (more.writes_lines d hmore hl₃)
    simpa [Clauses.lines, Clauses.code] using hall

end

end ViewEngine

/-
# Two runs side by side

The generator looks at little of what it reads: at the kinds of the tokens, at the words and brackets of
code lines, at whether an expression is blank.  Where two lists of tokens agree in this, the generator
goes through both in the same way: it stops at the same token for the same reason, or goes through to
the end and adds as many statements for the one as for the other.  This file carries such a likeness
from the tokens to the results, whatever the likeness is: a `Correspondence` says which texts, lines and
statements it takes for alike, and has to show for each mode that alike texts add alike statements.

* `Correspondence.States`, `Correspondence.Outcomes`: corresponding states and results;
* `Correspondence.token`: corresponding tokens take corresponding states to corresponding results;
* `Correspondence.run`: and so do lists of them.
-/
import Mathlib.Data.List.Forall2
import ViewEngine.Proofs.Code.Blocks
import ViewEngine.Proofs.Code.Generator
import ViewEngine.Proofs.Code.Modes
import ViewEngine.Proofs.Code.OutputTags
import ViewEngine.Proofs.Code.Trimming

namespace ViewEngine

/-- The statement that an argument becomes in a mode. -/
def Mode.shows? : Mode → Option (Text → Text)
  | escaped => some appendEscaped
  | raw => some appendRaw
  | _ => none

/-- The code lines of a text that are not blank, with the lines on which they stand if the text begins
on line `n`. -/
def codeRows (t : Text) (n : Int) : List (Text × Int) :=
  (Generator.numbered n (Text.cutAtLineFeeds (closeComment t))).filter fun l => Text.strip l.1 ≠ []

lemma not_mem_codeRows {t : Text} {n : Int} {l : Text × Int} (h : l ∈ codeRows t n) : '\n' ∉ l.1 := by
  have hmem : ∀ {ls : List Text} {k : Int}, l ∈ Generator.numbered k ls → l.1 ∈ ls := by
    intro ls
    induction ls with
    | nil => intro k h; cases h
    | cons x xs ih =>
      intro k h
      rcases List.mem_cons.1 h with rfl | h
      · exact List.mem_cons_self
      · exact List.mem_cons_of_mem x (ih h)
  exact (Text.mem_cutAtLineFeeds (hmem (List.mem_filter.1 h).1)).1

namespace Generator

/-- What is appended for a text outside of tags. -/
lemma output_eq_literal (g : Generator) (t : Text) (n : Int) : g.output t n = { g with
    listing := ⟨g.listing.statements ++ literalStatements g.listing.depth (trimmed g.trim t)
      (trimmedLine g.trim t n), g.listing.depth⟩,
    trim := false } := by
  obtain ⟨ss, heq, -⟩ := output_eq g t n
  have hstatements := statements_output (g := g) rfl t n
  rw [heq] at hstatements ⊢
  rw [← List.append_cancel_left hstatements]

end Generator

/-- What two runs that correspond to each other have alike, and why alike texts add alike
statements. -/
structure Correspondence where
  /-- Texts that are read in a mode. -/
  text : Mode → Text → Text → Prop
  /-- Lines of tokens, and of lines of code. -/
  line : Int → Int → Prop
  /-- Statements. -/
  statement : Statement → Statement → Prop
  /-- The text of a marker is like itself. -/
  marker : ∀ mode (m : Marker), text mode m.text m.text
  /-- A statement on a single line is like itself. -/
  single : ∀ {n n' d x}, line n n' → '\n' ∉ x → statement ⟨d, x, n⟩ ⟨d, x, n'⟩
  /-- Alike texts outside of tags are appended alike, with or without a line break at the front. -/
  literal : ∀ {mode t t' n n'}, mode.Inert → text mode t t' → line n n' → ∀ trim d,
    List.Forall₂ statement (literalStatements d (trimmed trim t) (trimmedLine trim t n))
      (literalStatements d (trimmed trim t') (trimmedLine trim t' n'))
  /-- Of alike expressions both are blank or none is. -/
  blank : ∀ {mode shown t t'}, mode.shows? = some shown → text mode t t' →
    Text.blank (stripSemicolon t') = Text.blank (stripSemicolon t)
  /-- Alike expressions are shown alike. -/
  shown : ∀ {mode shown t t' n n' d}, mode.shows? = some shown → text mode t t' → line n n' →
    statement ⟨d, shown (argument t), n⟩ ⟨d, shown (argument t'), n'⟩
  /-- Alike texts of code have the same lines. -/
  code : ∀ {t t' n n'}, text .eval t t' → line n n' →
    List.Forall₂ (fun l l' => Text.strip l'.1 = Text.strip l.1 ∧ line l.2 l'.2)
      (codeRows t n) (codeRows t' n')

namespace Correspondence

variable (C : Correspondence)

/-- Corresponding states: they differ in their statements, which correspond to each other, behind some
that only the second state has. -/
structure States (front : List Statement) (g g' : Generator) : Prop where
  /-- The statements. -/
  statements : ∃ ss, g'.listing.statements = front ++ ss ∧
    List.Forall₂ C.statement g.listing.statements ss
  /-- The depth in blocks. -/
  depth : g'.listing.depth = g.listing.depth
  /-- The mode. -/
  mode : g'.mode = g.mode
  /-- The flag that trims. -/
  trim : g'.trim = g.trim
  /-- The open brackets. -/
  pending : g'.pending = g.pending

/-- Runs that stopped for the same reason, on corresponding lines. -/
inductive Faults : Halt → Halt → Prop
  | unmatchedTag {g g' tag n n'} (hn : C.line n n') :
      Faults ⟨g, .unmatchedTag tag n⟩ ⟨g', .unmatchedTag tag n'⟩
  | noExpression {g g' n n'} (hn : C.line n n') :
      Faults ⟨g, .noExpression n g.listing.code⟩ ⟨g', .noExpression n' g'.listing.code⟩
  | unexpectedEnd {g g' n n'} (hn : C.line n n') :
      Faults ⟨g, .unexpectedEnd n g.listing.code⟩ ⟨g', .unexpectedEnd n' g'.listing.code⟩

/-- Corresponding results. -/
inductive Outcomes (front : List Statement) :
    Except Halt Generator → Except Halt Generator → Prop
  | ok {g g'} (h : C.States front g g') : Outcomes front (.ok g) (.ok g')
  | error {h h'} (hstate : C.States front h.state h'.state) (hfault : C.Faults h h') :
      Outcomes front (.error h) (.error h')

/-- Corresponding tokens behind the token `prev`. -/
structure TokenPair (prev : Option Token) (t t' : Token) : Prop where
  kind : t'.kind = t.kind
  line : C.line t.line t'.line
  marker : ∀ m, t.kind = .tag m → t.value = m.text ∧ t'.value = m.text
  /-- Texts correspond in every mode in which the first can be read there. -/
  text : t.kind = .text → ∀ mode : Mode, mode.Inert ∨ prev.bind Token.opens? = some mode →
    C.text mode t.value t'.value

/-- Lists of corresponding tokens behind the token `prev`. -/
inductive Tokens : Option Token → List Token → List Token → Prop
  | nil {prev} : Tokens prev [] []
  | cons {prev t t' ts ts'} (h : C.TokenPair prev t t') (rest : Tokens (some t) ts ts') :
      Tokens prev (t :: ts) (t' :: ts')

variable {C} {front : List Statement} {g g' : Generator} {t t' : Text} {n n' : Int}

/-! ## States -/

namespace States

lemma setMode (hg : C.States front g g') (mode : Mode) :
    C.States front { g with mode } { g' with mode } :=
  ⟨hg.statements, hg.depth, rfl, hg.trim, hg.pending⟩

lemma setTrim (hg : C.States front g g') (trim : Bool) :
    C.States front { g with trim } { g' with trim } :=
  ⟨hg.statements, hg.depth, hg.mode, rfl, hg.pending⟩

lemma setPending (hg : C.States front g g') (pending : List Char) :
    C.States front { g with pending } { g' with pending } :=
  ⟨hg.statements, hg.depth, hg.mode, hg.trim, rfl⟩

/-- Alike statements are added, and the depth is set. -/
lemma add {ss ss' : List Statement} (hg : C.States front g g')
    (h : List.Forall₂ C.statement ss ss') (depth : Nat) :
    C.States front
      { g with listing := ⟨g.listing.statements ++ ss, depth⟩ }
      { g' with listing := ⟨g'.listing.statements ++ ss', depth⟩ } := by
  obtain ⟨old, hold, hforall⟩ := hg.statements
  refine ⟨⟨old ++ ss', ?_, List.rel_append hforall h⟩, rfl, hg.mode, hg.trim, hg.pending⟩
  rw [hold, List.append_assoc]

lemma setDepth (hg : C.States front g g') (depth : Nat) :
    C.States front { g with listing := { g.listing with depth } }
      { g' with listing := { g'.listing with depth } } :=
  ⟨hg.statements, rfl, hg.mode, hg.trim, hg.pending⟩

lemma emit (hg : C.States front g g')
    (h : C.statement ⟨g.listing.depth, t, n⟩ ⟨g.listing.depth, t', n'⟩) :
    C.States front (g.emit t n) (g'.emit t' n') := by
  have hadd := hg.add (.cons h .nil) g.listing.depth
  unfold Generator.emit Listing.add
  rw [hg.depth]
  exact hadd

end States

/-! ## Steps -/

lemma Outcomes.bind {f f' : Generator → Except Halt Generator} {r r' : Except Halt Generator}
    (h : C.Outcomes front r r')
    (hf : ∀ {g g'}, r = .ok g → C.States front g g' → C.Outcomes front (f g) (f' g')) :
    C.Outcomes front (r >>= f) (r' >>= f') := by
  cases h with
  | ok h => exact hf rfl h
  | error hstate hfault => exact .error hstate hfault

lemma closeBlock (hg : C.States front g g') (hn : C.line n n') :
    C.Outcomes front (g.closeBlock n) (g'.closeBlock n') := by
  unfold Generator.closeBlock Listing.dedent?
  rw [hg.depth]
  cases g.listing.depth with
  | zero => exact .error hg (.unexpectedEnd hn)
  | succ d => exact .ok (hg.setDepth d)

lemma addCode (hg : C.States front g g') (hn : C.line n n') (ht : '\n' ∉ t) :
    C.States front (g.addCode t n) (g'.addCode t n') := by
  have hline : C.States front (g.emit t n) (g'.emit t n') := hg.emit (C.single hn ht)
  rw [Generator.addCode_eq_ite, Generator.addCode_eq_ite, hg.pending]
  split
  · have hpass : C.statement ⟨g.listing.depth + 1, "pass", n⟩ ⟨g.listing.depth + 1, "pass", n'⟩ :=
      C.single hn (by decide)
    have hblock := hline.add (.cons hpass .nil) (g.listing.depth + 1)
    unfold Listing.add Listing.indent
    rw [hg.depth]
    unfold Generator.emit Listing.add at hblock
    rw [hg.depth] at hblock
    exact hblock.setPending _
  · exact hline.setPending _

/-- One line of code. -/
lemma codeLine {l l' : Text × Int} (hg : C.States front g g')
    (hl : Text.strip l'.1 = Text.strip l.1) (hn : C.line l.2 l'.2) (hfeed : '\n' ∉ l.1) :
    C.Outcomes front (g.codeLine l.1 l.2) (g'.codeLine l'.1 l'.2) := by
  have hstrip : '\n' ∉ Text.strip l.1 := fun hmem => hfeed (Text.mem_of_mem_strip hmem)
  unfold Generator.codeLine
  rw [hl, hg.pending]
  dsimp only
  split
  · exact .ok hg
  split
  · exact .ok (addCode hg hn hstrip)
  split
  · exact closeBlock hg hn
  split
  · exact (closeBlock hg hn).bind fun _ h => .ok (addCode h hn hstrip)
  · exact .ok (addCode hg hn hstrip)

lemma feed {ls ls' : List (Text × Int)}
    (h : List.Forall₂ (fun l l' => Text.strip l'.1 = Text.strip l.1 ∧ C.line l.2 l'.2) ls ls')
    (hfeed : ∀ l ∈ ls, '\n' ∉ l.1) (hg : C.States front g g') :
    C.Outcomes front (g.feed ls) (g'.feed ls') := by
  induction h generalizing g g' with
  | nil => exact .ok hg
  | cons hl _ ih =>
    obtain ⟨hfirst, hrest⟩ := List.forall_mem_cons.1 hfeed
    exact (codeLine hg hl.1 hl.2 hfirst).bind fun _ h => ih hrest h

/-- Text outside of tags. -/
lemma output (hg : C.States front g g') (hmode : g.mode.Inert) (ht : C.text g.mode t t')
    (hn : C.line n n') : C.States front (g.output t n) (g'.output t' n') := by
  rw [Generator.output_eq_literal, Generator.output_eq_literal, hg.depth, hg.trim]
  exact (hg.add (C.literal hmode ht hn g.trim g.listing.depth) g.listing.depth).setTrim false

/-- **A text is read alike.** -/
theorem readText (hg : C.States front g g') (ht : C.text g.mode t t') (hn : C.line n n') :
    C.Outcomes front (g.text t n) (g'.text t' n') := by
  have hshown : ∀ {shown : Text → Text}, g.mode.shows? = some shown →
      C.Outcomes front
        (if Text.blank (stripSemicolon t) then .error ⟨g, .noExpression n g.listing.code⟩
          else .ok (g.emit (shown (argument t)) n))
        (if Text.blank (stripSemicolon t') then .error ⟨g', .noExpression n' g'.listing.code⟩
          else .ok (g'.emit (shown (argument t')) n')) := by
    intro shown hmode
    rw [C.blank hmode ht]
    split
    · exact .error hg (.noExpression hn)
    · exact .ok (hg.emit (C.shown hmode ht hn))
  unfold Generator.text
  rw [hg.mode]
  rcases hmode : g.mode with _ | _ | _ | _ | _ | _
  · exact .ok (output hg (.inl hmode) ht hn)
  · rw [hmode] at ht
    dsimp only
    rw [Generator.codeLines_eq_feed, Generator.codeLines_eq_feed, ← Generator.feed_filter,
      ← Generator.feed_filter (Generator.numbered n' _)]
    exact feed (C.code ht hn) (fun l hl => not_mem_codeRows hl) hg
  · exact hshown (by rw [hmode]; rfl)
  · exact hshown (by rw [hmode]; rfl)
  · exact .ok hg
  · exact .ok (output hg (.inr hmode) ht hn)

/-! ## Tokens -/

/-- **Corresponding tokens are read alike**, the text of the first one being read in a mode in which it
has a corresponding text. -/
theorem token {prev : Option Token} {u u' : Token} (hu : C.TokenPair prev u u')
    (hg : C.States front g g')
    (hmode : u.kind = .text → g.mode.Inert ∨ prev.bind Token.opens? = some g.mode) :
    C.Outcomes front (g.token u) (g'.token u') := by
  unfold Generator.token
  rw [hu.kind]
  rcases hkind : u.kind with _ | m
  · exact readText hg (hu.text hkind g.mode (hmode hkind)) hu.line
  obtain ⟨hvalue, hvalue'⟩ := hu.marker m hkind
  dsimp only
  unfold Generator.marker
  split
  -- markers that open a tag
  · next mode _ =>
    dsimp only
    split
    · exact .ok ((hg.setMode mode).emit (C.single hu.line (by decide)))
    · exact .ok (hg.setMode mode)
  split
  -- the marker `%%>`
  · rw [hg.mode]
    split
    · have hpercent : C.States front (g.emit (appendLiteral "%>") u.line)
          (g'.emit (appendLiteral "%>") u'.line) :=
        hg.emit (C.single hu.line (by decide))
      exact .ok (hpercent.setMode .plain)
    · exact readText hg (C.marker g.mode .close) hu.line
  -- markers that close a tag
  · rw [hg.mode]
    dsimp only
    split
    · next hliteral =>
      have htext : C.text g.mode u.value u'.value := by
        rw [hvalue, hvalue']
        exact C.marker g.mode m
      have hout := output hg (.inr hliteral) htext hu.line
      exact .ok ((hout.setMode .plain).setTrim _)
    · exact .ok ((hg.setMode .plain).setTrim _)

lemma closesSecond_of_tokens {prev : Option Token} {ts ts' : List Token} (h : C.Tokens prev ts ts') :
    Generator.closesSecond ts' = Generator.closesSecond ts := by
  rcases h with _ | ⟨_, _ | ⟨hsecond, _⟩⟩
  · rfl
  · rfl
  · exact congrArg TokenKind.isClose hsecond.kind

/-- Tokens that are made from other tokens one by one. -/
lemma tokens_map (f : Token → Token) {prev : Option Token} {ts : List Token}
    (h : ∀ before t after, ts = before ++ t :: after →
      C.TokenPair (before.getLast?.or prev) t (f t)) : C.Tokens prev ts (ts.map f) := by
  induction ts generalizing prev with
  | nil => exact .nil
  | cons t ts ih =>
    refine .cons (h [] t ts rfl) (ih fun before u after hsplit => ?_)
    have hpair := h (t :: before) u after (congrArg (t :: ·) hsplit)
    rwa [List.getLast?_cons, Option.some_or, ← Option.or_some] at hpair

/-- **Corresponding tokens give corresponding results.** -/
theorem run {prev : Option Token} {ts ts' : List Token} (h : C.Tokens prev ts ts')
    (hg : C.States front g g') (hp : Generator.Poised prev g.mode ts) :
    C.Outcomes front (g.run ts) (g'.run ts') := by
  induction h generalizing g g' with
  | nil => exact .ok hg
  | @cons prev u u' us us' hu rest ih =>
    have hneeds : Generator.needsClose u' = Generator.needsClose u := by
      rw [Generator.needsClose, Generator.needsClose, hu.kind]
    unfold Generator.run
    rw [hneeds, closesSecond_of_tokens rest]
    split
    · next hunclosed =>
      -- an open marker is refused: it is the same marker
      have hvalue : u'.value = u.value := by
        rcases hkind : u.kind with _ | m
        · simp [Generator.needsClose, hkind, TokenKind.isOpen] at hunclosed
        · rw [(hu.marker m hkind).1, (hu.marker m hkind).2]
      rw [hvalue]
      exact .error hg (.unmatchedTag hu.line)
    · next hclosed =>
      have hmode : u.kind = .text → g.mode.Inert ∨ prev.bind Token.opens? = some g.mode := by
        intro hkind
        cases hp with
        | outside hinert _ => exact .inl hinert
        | opened hprev _ => exact .inr hprev
        | closing hclose =>
          rw [hkind] at hclose
          cases hclose
      exact (token hu hg hmode).bind fun htoken hg₁ =>
        ih hg₁ (hp.token (by simpa using hclosed) htoken)

end Correspondence
end ViewEngine

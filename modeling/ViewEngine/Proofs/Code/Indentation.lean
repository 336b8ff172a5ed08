/-
# How deep code stands

A run adds statements, opens blocks and closes them, one after the other, whatever tokens it is given:
well-formed or not, with code cut up among tags in any way.  This file writes down the events of a run,
each with the state of the generator in which it happens, and counts the blocks that they open and
close.  The depth of the code is the difference of the two counts at every event, every statement stands
at the depth of its event, and a block is closed where none is open exactly when the run stops for that
reason.

* `Generator.events`: the events of a run;
* `Becomes`: what events make of a listing, and `Becomes.balance`, which counts blocks;
* `Ending`: the events and the result of a part of a run, and `Generator.run_ending`;
* `Event.IsApt`: the lines of code that open and close blocks, and `Generator.run_apt`;
* `Generator.depth_counts_blocks`: the depth of code at every event, and where a run fails.
-/
import ViewEngine.Proofs.Code.Faults
import ViewEngine.Proofs.Code.Reading

namespace ViewEngine

/-! ## Events -/

/-- What is done to a listing. -/
inductive Act where
  /-- A statement is added. -/
  | statement (text : Text) (line : Int)
  /-- A line of code that opens a block is added, and the first statement of the block. -/
  | opener (text : Text) (line : Int)
  /-- A block is closed on account of a line of code. -/
  | closer (text : Text) (line : Int)
deriving DecidableEq, Repr

/-- An act in a run. -/
structure Event where
  /-- The state in which the act is done. -/
  state : Generator
  /-- The act. -/
  act : Act
deriving DecidableEq, Repr

namespace Event

/-- The statements that are added: each at the depth of the listing, and the first statement of a block
one deeper. -/
def statements (e : Event) : List Statement :=
  match e.act with
  | .statement t n => [⟨e.state.listing.depth, t, n⟩]
  | .opener t n => [⟨e.state.listing.depth, t, n⟩, ⟨e.state.listing.depth + 1, "pass", n⟩]
  | .closer _ _ => []

/-- Is a block opened? -/
def isOpener (e : Event) : Bool :=
  match e.act with
  | .opener _ _ => true
  | _ => false

/-- Is a block closed? -/
def isCloser (e : Event) : Bool :=
  match e.act with
  | .closer _ _ => true
  | _ => false

/-- The listing behind the event; a block can only be closed if one is open. -/
def listing? (e : Event) : Option Listing :=
  match e.act with
  | .statement t n => some (e.state.listing.add t n)
  | .opener t n => some ((e.state.listing.add t n).indent.add "pass" n)
  | .closer _ _ => e.state.listing.dedent?

end Event

/-- How many blocks are opened. -/
def openers (es : List Event) : Nat := es.countP Event.isOpener

/-- How many blocks are closed. -/
def closers (es : List Event) : Nat := es.countP Event.isCloser

lemma openers_cons (e : Event) (es : List Event) :
    openers (e :: es) = openers es + e.isOpener.toNat := by
  rw [openers, List.countP_cons]
  cases e.isOpener <;> rfl

lemma closers_cons (e : Event) (es : List Event) :
    closers (e :: es) = closers es + e.isCloser.toNat := by
  rw [closers, List.countP_cons]
  cases e.isCloser <;> rfl

/-- The code that is added. -/
def codeOf (es : List Event) : Text := (es.flatMap Event.statements).flatMap Statement.code

/-- The events behind a part of a run, if the part is gone through. -/
def eventsBehind (r : Except Halt Generator) (more : Generator → List Event) : List Event :=
  match r with
  | .ok g => more g
  | .error _ => []

namespace Generator

/-- A line of code is added.  It opens a block if its code ends in a colon and no bracket is open
behind it. -/
def codeEvent (g : Generator) (code : Text) (n : Int) : Event :=
  let s := Brackets.scan code g.pending
  ⟨g, if s.pending.isEmpty && opensBlock s.code then .opener code n else .statement code n⟩

/-- The events of a line of a code tag. -/
def lineEvents (g : Generator) (raw : Text) (n : Int) : List Event :=
  let code := Text.strip raw
  if code.isEmpty then []
  else if !g.pending.isEmpty then [g.codeEvent code n]
  else if isEndLine code then [⟨g, .closer code n⟩]
  else if isClauseLine code then
    [⟨g, .closer code n⟩] ++ eventsBehind (g.closeBlock n) fun g => [g.codeEvent code n]
  else [g.codeEvent code n]

/-- The events of the lines of a code tag, the first of them being `n`. -/
def linesEvents (g : Generator) : List Text → Int → List Event
  | [], _ => []
  | raw :: rest, n =>
    g.lineEvents raw n ++ eventsBehind (g.codeLine raw n) fun g => linesEvents g rest (n + 1)

/-- The events of a text outside of tags: it is appended, if anything is left of it. -/
def outputEvents (g : Generator) (t : Text) (n : Int) : List Event :=
  (literalStatements g.listing.depth (trimmed g.trim t) (trimmedLine g.trim t n)).map fun s =>
    ⟨g, .statement s.text s.line⟩

/-- The events of a text, read as the mode says. -/
def textEvents (g : Generator) (t : Text) (n : Int) : List Event :=
  match g.mode with
  | .plain | .literal => g.outputEvents t n
  | .comment => []
  | .eval => g.linesEvents (Text.cutAtLineFeeds (closeComment t)) n
  | .escaped =>
    if Text.blank (stripSemicolon t) then [] else [⟨g, .statement (appendEscaped (argument t)) n⟩]
  | .raw =>
    if Text.blank (stripSemicolon t) then [] else [⟨g, .statement (appendRaw (argument t)) n⟩]

/-- The events of a token. -/
def tokenEvents (g : Generator) (t : Token) : List Event :=
  match t.kind with
  | .text => g.textEvents t.value t.line
  | .tag .openLiteral => [⟨g, .statement (appendLiteral "<%") t.line⟩]
  | .tag .closeLiteral =>
    if g.mode = .literal then [⟨g, .statement (appendLiteral "%>") t.line⟩]
    else g.textEvents "%>" t.line
  | .tag m => if m.isClose ∧ g.mode = .literal then g.outputEvents t.value t.line else []

/-- The events of a run, up to where it stops. -/
def events (g : Generator) : List Token → List Event
  | [] => []
  | t :: rest =>
    if needsClose t && !closesSecond rest then []
    else g.tokenEvents t ++ eventsBehind (g.token t) fun g => events g rest

end Generator

/-! ## What events make of a listing -/

/-- The events make the second listing of the first. -/
inductive Becomes : Listing → List Event → Listing → Prop where
  | nil (l : Listing) : Becomes l [] l
  | cons {g : Generator} {act : Act} {es : List Event} {l l' : Listing}
      (h : Event.listing? ⟨g, act⟩ = some l) (rest : Becomes l es l') :
      Becomes g.listing (⟨g, act⟩ :: es) l'

variable {l l' : Listing} {es es' before after : List Event} {e : Event} {g g' : Generator}
  {r : Except Halt Generator} {act : Act} {t code : Text} {n : Int}

lemma Becomes.append (h : Becomes l es g.listing) (h' : Becomes g.listing es' l') :
    Becomes l (es ++ es') l' := by
  generalize hm : g.listing = m at h h'
  induction h with
  | nil => exact h'
  | cons he _ ih => exact .cons he (ih hm h')

lemma Becomes.single (h : Event.listing? ⟨g, act⟩ = some l) : Becomes g.listing [⟨g, act⟩] l :=
  .cons h (.nil l)

/-- Up to an event, the events make the listing in which it happens. -/
lemma Becomes.split (h : Becomes l (before ++ e :: after) l') : Becomes l before e.state.listing := by
  induction before generalizing l with
  | nil =>
    cases h
    exact .nil _
  | cons d before ih =>
    cases h with
    | cons hd rest => exact .cons hd (ih rest)

/-- One event: what it does to the depth, and what it adds. -/
lemma Event.listing?_balance (h : e.listing? = some l) :
    l.depth + e.isCloser.toNat = e.state.listing.depth + e.isOpener.toNat ∧
      l.statements = e.state.listing.statements ++ e.statements := by
  obtain ⟨g, act⟩ := e
  cases act with
  | statement t n =>
    cases h
    exact ⟨rfl, rfl⟩
  | opener t n =>
    cases h
    exact ⟨rfl, by simp [Listing.add, Listing.indent, statements]⟩
  | closer t n =>
    unfold listing? Listing.dedent? at h
    dsimp only at h
    split at h
    · cases h
    · next d hd =>
      cases h
      exact ⟨hd.symm, (List.append_nil _).symm⟩

/-- A block is only closed where one is open. -/
lemma Becomes.open_of_closer (h : Becomes l (before ++ e :: after) l') (he : e.isCloser = true) :
    0 < e.state.listing.depth := by
  induction before generalizing l with
  | nil =>
    cases h with
    | @cons g act _ _ _ hlisting _ =>
      have hbalance := (Event.listing?_balance hlisting).1
      cases act with
      | statement | opener => cases he
      | closer t n =>
        have hdepth : _ + 1 = g.listing.depth := hbalance
        exact hdepth ▸ Nat.succ_pos _
  | cons d before ih =>
    cases h with
    | cons _ rest => exact ih rest

/-- **The depth counts blocks**: it grows by one with each that is opened and shrinks by one with each
that is closed. -/
theorem Becomes.balance (h : Becomes l es l') :
    l'.depth + closers es = l.depth + openers es ∧
      l'.statements = l.statements ++ es.flatMap Event.statements := by
  induction h with
  | nil l => exact ⟨rfl, (List.append_nil _).symm⟩
  | @cons g act es l l' he _ ih =>
    obtain ⟨hdepth, hadded⟩ := Event.listing?_balance he
    obtain ⟨ihdepth, ihadded⟩ := ih
    rw [openers_cons, closers_cons]
    dsimp only at hdepth hadded
    refine ⟨by omega, ?_⟩
    rw [ihadded, hadded, List.flatMap_cons, List.append_assoc]

/-! ## Parts of a run -/

/-- The state that is reached in the end. -/
def reached : Except Halt Generator → Generator
  | .ok g => g
  | .error halt => halt.state

/-- The events of a part of a run that begins with the listing, and its result. -/
inductive Ending (l : Listing) : List Event → Except Halt Generator → Prop where
  /-- The part is gone through. -/
  | done {es : List Event} {g : Generator} (h : Becomes l es g.listing) : Ending l es (.ok g)
  /-- The run stops, but not on account of a block. -/
  | stopped {es : List Event} {halt : Halt} (h : Becomes l es halt.state.listing)
      (hfault : ∀ n code, halt.fault ≠ .unexpectedEnd n code) : Ending l es (.error halt)
  /-- The run stops where a block would be closed and none is open. -/
  | unopened {es : List Event} {g : Generator} {t : Text} {n : Int} (h : Becomes l es g.listing)
      (hdepth : g.listing.depth = 0) :
      Ending l (es ++ [⟨g, .closer t n⟩]) (.error ⟨g, .unexpectedEnd n g.listing.code⟩)

/-- An event among others and a last one is the last one or one of the others. -/
lemma last_cases {d : Event} (h : before ++ e :: after = es ++ [d]) :
    (before = es ∧ e = d) ∨ ∃ after', before ++ e :: after' = es := by
  rcases List.eq_nil_or_concat after with rfl | ⟨after, c, rfl⟩
  · obtain ⟨hfront, hlast⟩ := List.append_inj' h rfl
    exact .inl ⟨hfront, (List.cons.inj hlast).1⟩
  · rw [List.concat_eq_append, ← List.cons_append, ← List.append_assoc] at h
    exact .inr ⟨after, (List.append_inj' h rfl).1⟩

/-- Up to an event, the events make the listing in which it happens. -/
lemma Ending.split (h : Ending l (before ++ e :: after) r) : Becomes l before e.state.listing := by
  generalize hes : before ++ e :: after = es at h
  cases h with
  | done h => exact (hes ▸ h).split
  | stopped h => exact (hes ▸ h).split
  | unopened h =>
    rcases last_cases hes with ⟨rfl, rfl⟩ | ⟨after', rfl⟩
    · exact h
    · exact h.split

/-- The depth in the end. -/
lemma Ending.depth (h : Ending l es r)
    (hfault : ∀ halt n code, r = .error halt → halt.fault ≠ .unexpectedEnd n code) :
    (reached r).listing.depth + closers es = l.depth + openers es := by
  cases h with
  | done h => exact h.balance.1
  | stopped h => exact h.balance.1
  | unopened => exact absurd rfl (hfault _ _ _ rfl)

/-- The statements that are there in the end. -/
lemma Ending.statements (h : Ending l es r) :
    (reached r).listing.statements = l.statements ++ es.flatMap Event.statements := by
  cases h with
  | done h => exact h.balance.2
  | stopped h => exact h.balance.2
  | unopened h =>
    rw [List.flatMap_append, List.flatMap_singleton, Event.statements, List.append_nil]
    exact h.balance.2

/-- Where a block would be closed and none is open, the run stops. -/
lemma Ending.of_closer (h : Ending l (before ++ e :: after) r) (he : e.act = .closer t n)
    (hdepth : e.state.listing.depth = 0) :
    r = .error ⟨e.state, .unexpectedEnd n e.state.listing.code⟩ := by
  have hcloser : e.isCloser = true := by rw [Event.isCloser, he]
  have hclosed : ∀ {after : List Event} {l' : Listing}, ¬ Becomes l (before ++ e :: after) l' :=
    fun h => absurd (h.open_of_closer hcloser) (by omega)
  generalize hes : before ++ e :: after = es at h
  cases h with
  | done h => exact absurd (hes ▸ h) hclosed
  | stopped h => exact absurd (hes ▸ h) hclosed
  | unopened h =>
    rcases last_cases hes with ⟨rfl, rfl⟩ | ⟨after', rfl⟩
    · cases he
      rfl
    · exact absurd h hclosed

/-- Where the run stops on account of a block, it would be closed and none is open. -/
lemma Ending.closer (h : Ending l es (.error ⟨g, .unexpectedEnd n code⟩)) :
    ∃ before e t, es = before ++ [e] ∧ e.act = .closer t n ∧ e.state.listing.depth = 0 := by
  generalize hr : Except.error (Halt.mk g (.unexpectedEnd n code)) = r at h
  cases h with
  | done => cases hr
  | stopped _ hfault =>
    cases hr
    exact absurd rfl (hfault n code)
  | @unopened before g t n _ hdepth =>
    cases hr
    exact ⟨before, _, t, rfl, rfl, hdepth⟩

lemma Becomes.ending (h : Becomes l es g.listing) (h' : Ending g.listing es' r) :
    Ending l (es ++ es') r := by
  cases h' with
  | done h' => exact .done (h.append h')
  | stopped h' hfault => exact .stopped (h.append h') hfault
  | unopened h' hdepth =>
    rw [← List.append_assoc]
    exact .unopened (h.append h') hdepth

namespace Generator

/-! ### Lines of code -/

/-- A part of a run that stops has nothing behind it. -/
lemma ending_bind {f : Generator → Except Halt Generator} {more : Generator → List Event}
    (h : Ending l es r) (hmore : ∀ g, Ending g.listing (more g) (f g)) :
    Ending l (es ++ eventsBehind r more) (r >>= f) := by
  cases h with
  | done h => exact h.ending (hmore _)
  | stopped h hfault =>
    rw [eventsBehind, List.append_nil]
    exact .stopped h hfault
  | unopened h hdepth =>
    rw [eventsBehind, List.append_nil]
    exact .unopened h hdepth

lemma addCode_ending (g : Generator) (code : Text) (n : Int) :
    Ending g.listing [g.codeEvent code n] (.ok (g.addCode code n)) := by
  refine .done (.single ?_)
  rw [addCode_eq_ite]
  dsimp only
  split <;> rfl

lemma closeBlock_ending (g : Generator) (t : Text) (n : Int) :
    Ending g.listing [⟨g, .closer t n⟩] (g.closeBlock n) := by
  rcases hd : g.listing.depth with _ | d
  · have hnone : g.closeBlock n = .error ⟨g, .unexpectedEnd n g.listing.code⟩ := by
      simp [closeBlock, Listing.dedent?, hd]
    rw [hnone]
    exact .unopened (.nil _) hd
  · rw [closeBlock_succ n hd]
    refine .done (.single ?_)
    simp [Event.listing?, Listing.dedent?, hd]

/-- **The events of a line.** -/
lemma codeLine_ending (g : Generator) (raw : Text) (n : Int) :
    Ending g.listing (g.lineEvents raw n) (g.codeLine raw n) := by
  unfold lineEvents codeLine
  dsimp only
  split
  · exact .done (.nil _)
  split
  · exact g.addCode_ending _ n
  split
  · exact g.closeBlock_ending _ n
  split
  · exact ending_bind (g.closeBlock_ending _ n) fun g => g.addCode_ending _ n
  · exact g.addCode_ending _ n

lemma codeLines_ending (g : Generator) (ls : List Text) (n : Int) :
    Ending g.listing (g.linesEvents ls n) (g.codeLines ls n) := by
  induction ls generalizing g n with
  | nil => exact .done (.nil _)
  | cons raw ls ih => exact ending_bind (g.codeLine_ending raw n) fun g => ih g (n + 1)

/-! ### Texts and tokens -/

lemma output_becomes (g : Generator) (t : Text) (n : Int) :
    Becomes g.listing (g.outputEvents t n) (g.output t n).listing := by
  rw [output_eq_literal, outputEvents, literalStatements]
  split
  · rw [List.append_nil]
    exact .nil _
  · exact .single rfl

lemma text_ending (g : Generator) (t : Text) (n : Int) :
    Ending g.listing (g.textEvents t n) (g.text t n) := by
  -- a statement of an output tag, if there is an expression
  have hshown : ∀ shown : Text → Text, Ending g.listing
      (if Text.blank (stripSemicolon t) then [] else [⟨g, .statement (shown (argument t)) n⟩])
      (if Text.blank (stripSemicolon t) then .error ⟨g, .noExpression n g.listing.code⟩
        else .ok (g.emit (shown (argument t)) n)) := by
    intro shown
    split
    · exact .stopped (.nil _) nofun
    · exact .done (.single rfl)
  unfold textEvents text
  cases g.mode with
  | plain => exact .done (g.output_becomes t n)
  | literal => exact .done (g.output_becomes t n)
  | comment => exact .done (.nil _)
  | eval => exact g.codeLines_ending _ n
  | escaped => exact hshown appendEscaped
  | raw => exact hshown appendRaw

/-- **The events of a token.** -/
lemma token_ending (g : Generator) (t : Token) :
    Ending g.listing (g.tokenEvents t) (g.token t) := by
  -- a marker that closes a tag
  have hclose : ∀ m : Marker, m.isClose = true → ∀ trim : Bool, Ending g.listing
      (if m.isClose ∧ g.mode = .literal then g.outputEvents t.value t.line else [])
      (.ok { (if g.mode = .literal then g.output t.value t.line else g) with
        mode := .plain, trim := trim }) := by
    intro m hm trim
    by_cases hmode : g.mode = .literal
    · rw [if_pos ⟨hm, hmode⟩, if_pos hmode]
      exact .done (g.output_becomes t.value t.line)
    · rw [if_neg fun h => hmode h.2, if_neg hmode]
      exact .done (.nil _)
  unfold tokenEvents token
  rcases t.kind with _ | m
  · exact g.text_ending t.value t.line
  cases m with
  | openLiteral => exact .done (.single rfl)
  | closeLiteral =>
    by_cases hmode : g.mode = .literal
    · simp only [marker, Marker.mode?, hmode, if_true]
      exact .done (.single rfl)
    · simp only [marker, Marker.mode?, hmode, if_true, if_false]
      exact g.text_ending "%>" t.line
  | close => exact hclose .close rfl _
  | closeTrim => exact hclose .closeTrim rfl _
  | closeSlurp => exact hclose .closeSlurp rfl _
  | _ => exact .done (.nil _)

/-- **The events of a run.** -/
theorem run_ending (g : Generator) (ts : List Token) : Ending g.listing (g.events ts) (g.run ts) := by
  induction ts generalizing g with
  | nil => exact .done (.nil _)
  | cons t ts ih =>
    unfold events run
    split
    · refine .stopped (.nil _) fun n code hfault => ?_
      cases hfault
    · exact ending_bind (g.token_ending t) ih

end Generator

/-! ## Lines of code -/

/-- What events are about: lines of code that open a block are such whose code ends in a colon, no
bracket being open behind it, and blocks are closed on account of lines `end` and of clauses, no bracket
being open in front of them.  No statement begins with a space. -/
inductive Event.IsApt (stands : Text → Int → Prop) : Event → Prop where
  | statement {g : Generator} {t : Text} {n : Int} (hfront : t.head? ≠ some ' ') :
      IsApt stands ⟨g, .statement t n⟩
  | opener {g : Generator} {t : Text} {n : Int} (hfront : t.head? ≠ some ' ')
      (hclosed : (Brackets.scan t g.pending).pending = [])
      (hopens : opensBlock (Brackets.scan t g.pending).code = true) (hline : stands t n) :
      IsApt stands ⟨g, .opener t n⟩
  | closer {g : Generator} {t : Text} {n : Int} (hclosed : g.pending = []) (hcloses : ClosesBlock t)
      (hline : stands t n) : IsApt stands ⟨g, .closer t n⟩

/-- The line of code stands on a line of a text among the tokens. -/
def StandsIn (ts : List Token) (l : Text) (n : Int) : Prop :=
  ∃ t ∈ ts, t.kind = .text ∧ ∃ before raw after,
    Text.cutAtLineFeeds t.value = before ++ raw :: after ∧ l = Text.strip raw ∧
      n = t.line + before.length

section

variable {stands stands' : Text → Int → Prop} {raw : Text} {ls : List Text} {ts : List Token}
  {u : Token}

lemma Event.IsApt.mono (h : e.IsApt stands) (hstands : ∀ t n, stands t n → stands' t n) :
    e.IsApt stands' := by
  cases h with
  | statement hfront => exact .statement hfront
  | opener hfront hclosed hopens hline => exact .opener hfront hclosed hopens (hstands _ _ hline)
  | closer hclosed hcloses hline => exact .closer hclosed hcloses (hstands _ _ hline)

/-- A statement stands as many spaces in as four times its depth. -/
lemma Event.IsApt.spaces (h : e.IsApt stands) {s : Statement} (hs : s ∈ e.statements) :
    s.code.takeWhile (· = ' ') = List.replicate (4 * s.depth) ' ' := by
  have hfront : s.text.head? ≠ some ' ' := by
    cases h with
    | statement hfront =>
      obtain rfl := List.mem_singleton.1 hs
      exact hfront
    | opener hfront =>
      rcases List.mem_pair.1 hs with rfl | rfl
      · exact hfront
      · simp
    | closer => cases hs
  rw [Statement.code, List.append_assoc, List.takeWhile_append_of_pos (by simp)]
  rcases htext : s.text with _ | ⟨c, t⟩
  · simp
  · rw [htext, List.head?_cons] at hfront
    have hc : c ≠ ' ' := fun h => hfront (h ▸ rfl)
    simp [hc]

lemma head?_strip (t : Text) : (Text.strip t).head? ≠ some ' ' := by
  intro hhead
  obtain ⟨u, hu⟩ := List.head?_eq_some_iff.1 hhead
  obtain ⟨v, hv, -⟩ := Text.exists_append_stripRight (Text.stripLeft t)
  have hblank := List.head?_dropWhile_not Text.isBlank t
  rw [Text.strip] at hu
  rw [← Text.stripLeft, hv, hu] at hblank
  cases hblank

lemma head?_appendLiteral (t : Text) : (appendLiteral t).head? ≠ some ' ' := by
  unfold appendLiteral
  exact nofun

lemma head?_appendEscaped (t : Text) : (appendEscaped t).head? ≠ some ' ' := by
  unfold appendEscaped
  exact nofun

lemma head?_appendRaw (t : Text) : (appendRaw t).head? ≠ some ' ' := by
  unfold appendRaw
  exact nofun

lemma mem_eventsBehind {more : Generator → List Event} (h : e ∈ eventsBehind r more) :
    ∃ g, r = .ok g ∧ e ∈ more g := by
  cases r with
  | ok g => exact ⟨g, rfl, h⟩
  | error halt => cases h

namespace Generator

lemma codeEvent_apt (g : Generator) (hfront : code.head? ≠ some ' ') (hline : stands code n) :
    (g.codeEvent code n).IsApt stands := by
  unfold codeEvent
  dsimp only
  split
  · next h =>
    rw [Bool.and_eq_true, List.isEmpty_iff] at h
    exact .opener hfront h.1 h.2 hline
  · exact .statement hfront

lemma lineEvents_apt (he : e ∈ g.lineEvents raw n) :
    e.IsApt fun t k => t ≠ [] ∧ t = Text.strip raw ∧ k = n := by
  unfold lineEvents at he
  dsimp only at he
  split at he
  · cases he
  next hempty =>
  have hline : Text.strip raw ≠ [] ∧ Text.strip raw = Text.strip raw ∧ n = n :=
    ⟨fun hnil => hempty (List.isEmpty_iff.2 hnil), rfl, rfl⟩
  have hcode : ∀ g : Generator, e ∈ [g.codeEvent (Text.strip raw) n] →
      e.IsApt fun t k => t ≠ [] ∧ t = Text.strip raw ∧ k = n := by
    intro g he
    obtain rfl := List.mem_singleton.1 he
    exact g.codeEvent_apt (head?_strip raw) hline
  split at he
  · exact hcode g he
  next hpending =>
  have hclosed : g.pending = [] := by simpa using hpending
  split at he
  · next hend =>
    obtain rfl := List.mem_singleton.1 he
    exact .closer hclosed (.inl hend) hline
  split at he
  · next hclause =>
    rcases List.mem_cons.1 he with rfl | he
    · exact .closer hclosed (.inr hclause) hline
    · obtain ⟨g₁, -, he⟩ := mem_eventsBehind he
      exact hcode g₁ he
  · exact hcode g he

lemma linesEvents_apt (he : e ∈ g.linesEvents ls n) : e.IsApt fun t k => t ≠ [] ∧
    ∃ before raw after, ls = before ++ raw :: after ∧ t = Text.strip raw ∧
      k = n + before.length := by
  induction ls generalizing g n with
  | nil => cases he
  | cons raw ls ih =>
    rcases List.mem_append.1 he with he | he
    · refine (lineEvents_apt he).mono ?_
      rintro t k ⟨hne, rfl, rfl⟩
      exact ⟨hne, [], raw, ls, rfl, rfl, (Int.add_zero _).symm⟩
    · obtain ⟨g₁, -, he⟩ := mem_eventsBehind he
      refine (ih he).mono ?_
      rintro t k ⟨hne, before, raw', after, rfl, rfl, rfl⟩
      refine ⟨hne, raw :: before, raw', after, rfl, rfl, ?_⟩
      rw [List.length_cons]
      omega

lemma outputEvents_apt (he : e ∈ g.outputEvents t n) : e.IsApt stands := by
  rw [outputEvents, literalStatements] at he
  split at he
  · cases he
  · obtain rfl := List.mem_singleton.1 he
    exact .statement (head?_appendLiteral _)

lemma textEvents_apt (he : e ∈ g.textEvents t n) : e.IsApt fun l k =>
    ∃ before raw after, Text.cutAtLineFeeds t = before ++ raw :: after ∧ l = Text.strip raw ∧
      k = n + before.length := by
  have hshown : ∀ (shown : Text → Text) (stands : Text → Int → Prop),
      (shown (argument t)).head? ≠ some ' ' → e ∈ (if Text.blank (stripSemicolon t) then []
        else [⟨g, .statement (shown (argument t)) n⟩] : List Event) → e.IsApt stands := by
    intro shown stands hfront he
    split at he
    · cases he
    · obtain rfl := List.mem_singleton.1 he
      exact .statement hfront
  unfold textEvents at he
  split at he
  · exact outputEvents_apt he
  · exact outputEvents_apt he
  · cases he
  · refine (linesEvents_apt he).mono ?_
    rintro l k ⟨hne, before, raw, after, hcut, rfl, rfl⟩
    have hraw : raw ≠ [] := by
      rintro rfl
      exact hne rfl
    obtain ⟨after', hcut'⟩ := exists_line_of_closeComment hcut hraw
    exact ⟨before, raw, after', hcut', rfl, rfl⟩
  · exact hshown appendEscaped _ (head?_appendEscaped _) he
  · exact hshown appendRaw _ (head?_appendRaw _) he

/-- The text of the marker `%%>` opens and closes no block. -/
lemma percentEvents_apt (he : e ∈ g.textEvents "%>" n) : e.IsApt stands := by
  have hline : ∀ {before raw after}, Text.cutAtLineFeeds "%>" = before ++ raw :: after →
      Text.strip raw = "%>" := by
    intro before raw after hcut
    have hsingle : Text.cutAtLineFeeds "%>" = [("%>" : Text)] := by decide +kernel
    have hmem : raw ∈ Text.cutAtLineFeeds "%>" := hcut ▸ List.mem_append_right _ List.mem_cons_self
    rw [hsingle, List.mem_singleton] at hmem
    rw [hmem]
    decide +kernel
  cases textEvents_apt he with
  | statement hfront => exact .statement hfront
  | @opener g l k _ _ hopens hstands =>
    obtain ⟨before, raw, after, hcut, rfl, -⟩ := hstands
    have hreads : Brackets.Reads "%>" [] "%>" :=
      .plain (by decide) (.plain (by decide) .nil)
    rw [hline hcut, Brackets.scan_of_reads hreads (by decide)] at hopens
    have hcolon : opensBlock "%>" = true := hopens
    exact absurd hcolon (by decide +kernel)
  | closer _ hcloses hstands =>
    obtain ⟨before, raw, after, hcut, rfl, -⟩ := hstands
    rw [hline hcut] at hcloses
    rcases hcloses with hend | hclause
    · exact absurd hend (by decide +kernel)
    · exact absurd hclause (by decide +kernel)

lemma tokenEvents_apt (he : e ∈ g.tokenEvents u) : e.IsApt (StandsIn [u]) := by
  unfold tokenEvents at he
  split at he
  · next hkind =>
    refine (textEvents_apt he).mono ?_
    rintro l k ⟨before, raw, after, hcut, rfl, rfl⟩
    exact ⟨u, List.mem_singleton_self u, hkind, before, raw, after, hcut, rfl, rfl⟩
  · obtain rfl := List.mem_singleton.1 he
    exact .statement (head?_appendLiteral _)
  · split at he
    · obtain rfl := List.mem_singleton.1 he
      exact .statement (head?_appendLiteral _)
    · exact percentEvents_apt he
  · split at he
    · exact outputEvents_apt he
    · cases he

/-- **Blocks are opened and closed by lines of code** that stand in the tokens. -/
theorem run_apt (he : e ∈ g.events ts) : e.IsApt (StandsIn ts) := by
  induction ts generalizing g with
  | nil => cases he
  | cons u ts ih =>
    unfold events at he
    split at he
    · cases he
    rcases List.mem_append.1 he with he | he
    · refine (tokenEvents_apt he).mono ?_
      rintro l k ⟨t, ht, hrest⟩
      exact ⟨t, List.mem_singleton.1 ht ▸ List.mem_cons_self, hrest⟩
    · obtain ⟨g₁, -, he⟩ := mem_eventsBehind he
      refine (ih he).mono ?_
      rintro l k ⟨t, ht, hrest⟩
      exact ⟨t, List.mem_cons_of_mem u ht, hrest⟩

end Generator

end

/-! ## The depth of code -/

namespace Generator

/-- Of all faults, only a block that is closed where none is open has this code. -/
lemma fault_of_code {fault : GenerationFault} {name source : Option Text}
    (h : (fault.toError name source).code.map ErrorCode.text = some "V-CMP-002") :
    ∃ n code, fault = .unexpectedEnd n code := by
  cases fault with
  | unmatchedTag tag n => exact absurd (Option.some.inj h) (by decide +kernel)
  | noExpression n code => exact absurd (Option.some.inj h) (by decide +kernel)
  | unexpectedEnd n code => exact ⟨n, code, rfl⟩

/-- What the events `es` of a run say of its depth and of its result `r`, the tokens being `ts`. -/
structure CountsBlocks (ts : List Token) (es : List Event) (r : Except Halt Generator) : Prop where
  /-- At every event, the depth is the number of blocks opened so far, less the number of blocks closed
  so far, and the code is that of the events so far. -/
  at_event : ∀ before e after, es = before ++ e :: after →
    e.state.listing.depth + closers before = openers before ∧
      e.state.listing.statements = before.flatMap Event.statements
  /-- And so it is in the end, unless the run fails on account of a block. -/
  at_end : (∀ halt n code, r = .error halt → halt.fault ≠ .unexpectedEnd n code) →
    (reached r).listing.depth + closers es = openers es
  /-- The statements are those of the events, each at the depth of its event. -/
  statements : (reached r).listing.statements = es.flatMap Event.statements
  /-- Each stands four spaces further in for each open block. -/
  spaces : ∀ s ∈ es.flatMap Event.statements,
    s.code.takeWhile (· = ' ') = List.replicate (4 * s.depth) ' '
  /-- Blocks are opened and closed by lines of code. -/
  apt : ∀ e ∈ es, e.IsApt (StandsIn ts)
  /-- The run only fails on account of a block at the last event, where one would be closed and all that
  were opened before are closed. -/
  fails_only : ∀ halt name source, r = .error halt →
    (halt.fault.toError name source).code.map ErrorCode.text = some "V-CMP-002" →
    ∃ before e t n, es = before ++ [e] ∧ e.act = .closer t n ∧ openers before = closers before
  /-- There the run fails, on the line that would close the block and with the code in front of it. -/
  fails : ∀ before e after t (n : Int), es = before ++ e :: after → e.act = .closer t n →
    openers before = closers before →
    ∃ halt, r = .error halt ∧ ∀ name source, halt.fault.toError name source =
      .uncompilable "'end' without an open block" { line := n, name, source } (codeOf before)
        .unexpectedEnd

/-- **The depth of code is the number of blocks opened so far, less the number of blocks closed so far**,
whatever the tokens are. -/
theorem depth_counts_blocks (ts : List Token) : CountsBlocks ts (events {} ts) (run {} ts) := by
  have hending := run_ending {} ts
  have hevent : ∀ before e after, events {} ts = before ++ e :: after →
      e.state.listing.depth + closers before = openers before ∧
        e.state.listing.statements = before.flatMap Event.statements := by
    intro before e after hes
    obtain ⟨hdepth, hstatements⟩ := (hes ▸ hending).split.balance
    exact ⟨by simpa using hdepth, by simpa using hstatements⟩
  refine ⟨hevent, fun hfault => ?_, ?_, ?_, fun e he => run_apt he, ?_, ?_⟩
  · simpa using hending.depth hfault
  · simpa using hending.statements
  · intro s hs
    obtain ⟨e, he, hs⟩ := List.mem_flatMap.1 hs
    exact (run_apt he).spaces hs
  · intro halt name source hrun hcode
    obtain ⟨n, code, hfault⟩ := fault_of_code hcode
    obtain ⟨g, fault⟩ := halt
    obtain rfl : fault = .unexpectedEnd n code := hfault
    obtain ⟨before, e, t, hes, hact, hdepth⟩ := (hrun ▸ hending).closer
    have hbalance := (hevent before e [] hes).1
    exact ⟨before, e, t, n, hes, hact, by omega⟩
  · intro before e after t n hes hact hbalance
    obtain ⟨hdepth, hstatements⟩ := hevent before e after hes
    have hrun := (hes ▸ hending).of_closer hact (by omega)
    have hcode : e.state.listing.code = codeOf before := by
      rw [Listing.code, hstatements, codeOf]
    exact ⟨_, hrun, fun name source => by rw [hcode]; rfl⟩

/-- Two lines `end` behind one line that opens a block: the second fails. -/
theorem depth_counts_blocks_end :
    let ts : List Token := [⟨.tag .openEval, "<%", 1⟩, ⟨.text, " if a:\nend\nend ", 1⟩,
      ⟨.tag .close, "%>", 3⟩]
    ∃ halt, run {} ts = .error halt ∧ ∀ name source, halt.fault.toError name source =
      .uncompilable "'end' without an open block" { line := some 3, name, source }
        (some "if a:\n    pass\n") .unexpectedEnd := by
  intro ts
  have hes : events {} ts = (events {} ts).take 2 ++
      [⟨{ listing := ⟨[⟨0, "if a:", 1⟩, ⟨1, "pass", 1⟩], 0⟩, mode := .eval }, .closer "end" 3⟩] := by
    decide +kernel
  have hbalance : openers ((events {} ts).take 2) = closers ((events {} ts).take 2) := by
    decide +kernel
  have hcode : codeOf ((events {} ts).take 2) = "if a:\n    pass\n" := by decide +kernel
  obtain ⟨halt, hrun, herror⟩ := (depth_counts_blocks ts).fails _ _ [] _ _ hes rfl hbalance
  exact ⟨halt, hrun, fun name source => by rw [herror, hcode]⟩

end Generator
end ViewEngine

/-
# Output tags and their statements

An output tag becomes a statement that appends the value of its expression.  Two looks are meant to
keep tags without an expression out: one at the text of the tag, which must not be blank but for one
semicolon, and one at the token two places behind the open marker, which has to close a tag.  The first
is not made where there is no text, and it takes a comment for an expression.  So it is said here for
every view that is accepted what each of its output tags adds, whatever stands behind its open marker.

* `argument_eq`: the text of a tag as an argument;
* `run_append`: the first tokens of a run, where no open marker among them is refused;
* `tag_of_run`: an output tag in a run that is accepted;
* `output_tags_exact`: the statements of the output tags, and which of these are refused.
-/
import Mathlib.Tactic.Common
import Mathlib.Tactic.Lemma
import ViewEngine.Proofs.Code.Modes
import ViewEngine.Proofs.Code.Validation

namespace ViewEngine

/-! ## The text of a tag as an argument -/

/-- The text of a tag as it is put between the parentheses. -/
def argument (t : Text) : Text := stripSemicolon (closeComment t)

lemma blank_append (u v : Text) : Text.blank (u ++ v) = (Text.blank u && Text.blank v) :=
  List.all_append

/-- Blanks behind a text do not change whether its last character is a semicolon. -/
lemma stripSemicolon_append_blank (u : Text) {v : Text} (hv : Text.blank v = true) :
    stripSemicolon (u ++ v) = stripSemicolon u ++ v := by
  have hblank : ∀ c ∈ v.reverse, Text.isBlank c = true := fun c hc =>
    List.all_eq_true.1 hv c (List.mem_reverse.1 hc)
  have htake : (u ++ v).reverse.takeWhile Text.isBlank =
      v.reverse ++ u.reverse.takeWhile Text.isBlank := by
    rw [List.reverse_append, List.takeWhile_append_of_pos hblank]
  have hdrop : (u ++ v).reverse.dropWhile Text.isBlank = u.reverse.dropWhile Text.isBlank := by
    rw [List.reverse_append, List.dropWhile_append_of_pos hblank]
  unfold stripSemicolon
  rw [htake, hdrop]
  split
  · simp
  · rfl

/-- A semicolon behind which only blanks stand is taken away. -/
lemma stripSemicolon_semicolon (u : Text) {v : Text} (hv : Text.blank v = true) :
    stripSemicolon (u ++ ';' :: v) = u ++ v := by
  have hsemicolon : stripSemicolon (u ++ [';']) = u := by
    have hblank : Text.isBlank ';' = false := by decide
    simp [stripSemicolon, hblank]
  have hcut : u ++ ';' :: v = (u ++ [';']) ++ v := by simp
  rw [hcut, stripSemicolon_append_blank _ hv, hsemicolon]

lemma blank_cons (c : Char) (t : Text) : Text.blank (c :: t) = (Text.isBlank c && Text.blank t) :=
  List.all_cons

lemma stripSemicolon_other (u : Text) {v : Text} {d : Char} (hd : Text.isBlank d = false)
    (hne : d ≠ ';') (hv : Text.blank v = true) : stripSemicolon (u ++ d :: v) = u ++ d :: v := by
  have hlast : stripSemicolon (u ++ [d]) = u ++ [d] := by
    simp [stripSemicolon, hd, hne]
  have hcut : u ++ d :: v = (u ++ [d]) ++ v := by simp
  rw [hcut, stripSemicolon_append_blank _ hv, hlast]

lemma stripSemicolon_blank {v : Text} (hv : Text.blank v = true) : stripSemicolon v = v := by
  have hempty : stripSemicolon [] = [] := rfl
  have hblank := stripSemicolon_append_blank [] hv
  rwa [hempty] at hblank

/-- A text is blank, or has a last character that is not. -/
lemma blank_or_last (t : Text) :
    Text.blank t = true ∨ ∃ u d v, t = u ++ d :: v ∧ Text.isBlank d = false ∧ Text.blank v = true := by
  induction t with
  | nil => exact .inl rfl
  | cons c t ih =>
    rcases ih with hblank | ⟨u, d, v, rfl, hd, hv⟩
    · cases hc : Text.isBlank c with
      | true => exact .inl (by rw [blank_cons, hc, hblank]; rfl)
      | false => exact .inr ⟨[], c, t, rfl, hc, hblank⟩
    · exact .inr ⟨c :: u, d, v, rfl, hd, hv⟩

lemma blank_feed : Text.blank ['\n'] = true := by decide

/-- The argument is the text less a semicolon at its end; a line feed follows it that ends a comment. -/
lemma argument_eq (t : Text) :
    argument t = stripSemicolon t ++ if mayEndInComment t then ['\n'] else [] := by
  unfold argument closeComment
  split
  · exact stripSemicolon_append_blank t blank_feed
  · rw [List.append_nil]

lemma blank_argument (t : Text) : Text.blank (argument t) = Text.blank (stripSemicolon t) := by
  rw [argument_eq, blank_append]
  split
  · rw [blank_feed, Bool.and_true]
  · exact Bool.and_true _

/-! ### Comments -/

/-- Do blanks and comments alone stand in the text?  The first flag says that its front lies in a
comment, which ends where the line ends. -/
def isRemarkFrom : Bool → Text → Bool
  | _, [] => true
  | true, c :: cs => isRemarkFrom (c ≠ '\n' && c ≠ '\r') cs
  | false, c :: cs =>
    if c = '#' then isRemarkFrom true cs else Text.isBlank c && isRemarkFrom false cs

/-- Is nothing left of the text without its comments but blanks? -/
def isRemark (t : Text) : Bool := isRemarkFrom false t

lemma isRemarkFrom_append_feed (b : Bool) (t : Text) :
    isRemarkFrom b (t ++ ['\n']) = isRemarkFrom b t := by
  induction t generalizing b with
  | nil => cases b <;> rfl
  | cons c t ih => cases b <;> simp [isRemarkFrom, ih]

/-- The line feed that ends a comment does not matter. -/
lemma isRemark_argument (t : Text) : isRemark (argument t) = isRemark (stripSemicolon t) := by
  rw [argument_eq]
  split
  · exact isRemarkFrom_append_feed false _
  · rw [List.append_nil]

/-! ## Markers of output tags -/

/-- The statement that an output tag makes of its argument. -/
def Marker.shows? : Marker → Option (Text → Text)
  | openEscaped => some appendEscaped
  | openRaw => some appendRaw
  | _ => none

namespace Generator

variable {g g' : Generator} {t u : Token} {m : Marker} {shown : Text → Text}

/-- An open marker of an output tag has its own mode, and adds nothing itself. -/
lemma token_shows (hkind : t.kind = .tag m) (hm : m.shows? = some shown) :
    ∃ mode, g.token t = .ok { g with mode } ∧ mode ≠ .literal ∧
      ∀ (g : Generator) (v : Text) (n : Int), g.mode = mode →
        g.text v n = if Text.blank (stripSemicolon v) then .error ⟨g, .noExpression n g.listing.code⟩
          else .ok (g.emit (shown (argument v)) n) := by
  cases m with
  | openEscaped =>
    cases hm
    refine ⟨.escaped, by rw [token, hkind]; rfl, by decide, fun g v n hg => ?_⟩
    simp only [text, hg, argument]
  | openRaw =>
    cases hm
    refine ⟨.raw, by rw [token, hkind]; rfl, by decide, fun g v n hg => ?_⟩
    simp only [text, hg, argument]
  | _ => cases hm

/-- What a tag adds on account of the token behind its open marker: its statement, if that is text.  In
any other case that token is a marker, which does what it does. -/
def addedByTag (shown : Text → Text) (depth : Nat) (u : Token) : List Statement :=
  match u.kind with
  | .text => [⟨depth, shown (argument u.value), u.line⟩]
  | .tag .closeLiteral => [⟨depth, shown "%>", u.line⟩]
  | .tag .openLiteral => [⟨depth, appendLiteral "<%", u.line⟩]
  | .tag _ => []

/-- **What an output tag adds.** -/
theorem steps_shows (hkind : t.kind = .tag m) (hm : m.shows? = some shown)
    (h : g.steps [t, u] = .ok g') :
    g'.listing.statements = g.listing.statements ++ addedByTag shown g.listing.depth u ∧
      (u.kind = .text → Text.blank (stripSemicolon u.value) = false) := by
  obtain ⟨g₁, hopen, hrest⟩ := steps_cons_ok h
  obtain ⟨g₂, hinside, hend⟩ := steps_cons_ok hrest
  cases hend
  obtain ⟨mode, htoken, hmode, htext⟩ := token_shows (g := g) hkind hm
  obtain rfl : { g with mode } = g₁ := Except.ok.inj (htoken.symm.trans hopen)
  rcases hu : u.kind with _ | m'
  · have hvalue := htext { g with mode } u.value u.line rfl
    rw [token, hu] at hinside
    dsimp only at hinside
    rw [hvalue] at hinside
    split at hinside
    · cases hinside
    · next hblank =>
      cases hinside
      exact ⟨by simp [addedByTag, hu, emit, Listing.add], fun _ => Bool.eq_false_iff.2 hblank⟩
  · refine ⟨?_, fun htag => by cases htag⟩
    rw [token, hu] at hinside
    dsimp only at hinside
    cases m' with
    | closeLiteral =>
      have hpercent := htext { g with mode } "%>" u.line rfl
      have hargument : argument "%>" = "%>" := by decide
      have hblank : Text.blank (stripSemicolon "%>") = false := by decide
      simp only [marker, Marker.mode?, hmode, if_true, if_false, hpercent, hblank, hargument] at hinside
      cases hinside
      simp [addedByTag, hu, emit, Listing.add]
    | openLiteral =>
      cases hinside
      simp [addedByTag, hu, emit, Listing.add]
    | close | closeTrim | closeSlurp =>
      simp [marker, Marker.mode?, hmode] at hinside
      subst hinside
      simp [addedByTag, hu]
    | _ =>
      cases hinside
      simp [addedByTag, hu]

/-! ## The first tokens of a run -/

lemma steps_append {us vs : List Token} (h : g.steps us = .ok g') :
    g.steps (us ++ vs) = g'.steps vs := by
  induction us generalizing g with
  | nil =>
    cases h
    rfl
  | cons v us ih =>
    obtain ⟨g₁, htoken, hrest⟩ := steps_cons_ok h
    rw [List.cons_append, steps, htoken]
    exact ih hrest

/-- Tokens at the front of which none is refused by the look ahead are read first. -/
lemma run_append {before after : List Token} (hsteps : g.steps before = .ok g')
    (hopen : ∀ front u behind, before = front ++ u :: behind → ¬ Unclosed u (behind ++ after)) :
    g.run (before ++ after) = g'.run after := by
  induction before generalizing g with
  | nil =>
    cases hsteps
    rfl
  | cons v before ih =>
    obtain ⟨g₁, htoken, hrest⟩ := steps_cons_ok hsteps
    have hv := hopen [] v before rfl
    rw [List.cons_append, run, if_neg (by simpa [Unclosed] using hv), htoken]
    exact ih hrest fun front u behind h => hopen (v :: front) u behind (by rw [h]; rfl)

/-- A tag whose text is blank but for one semicolon has no expression. -/
lemma run_eq_noExpression {before after : List Token} (hkind : t.kind = .tag m)
    (hm : m.shows? = some shown) (hu : u.kind = .text)
    (hblank : Text.blank (stripSemicolon u.value) = true) (hsteps : ({} : Generator).steps before = .ok g)
    (hopen : ∀ front v behind, before ++ [t] = front ++ v :: behind →
      ¬ Unclosed v (behind ++ u :: after)) :
    ∃ last, ({} : Generator).run (before ++ t :: u :: after) =
      .error ⟨last, .noExpression u.line g.listing.code⟩ := by
  obtain ⟨mode, htoken, -, htext⟩ := token_shows (g := g) hkind hm
  have hfront : ({} : Generator).steps (before ++ [t]) = .ok { g with mode } := by
    rw [steps_append hsteps, steps, htoken]
    rfl
  have hneeds : needsClose u = false := by simp [needsClose, hu, TokenKind.isOpen]
  have hvalue := htext { g with mode } u.value u.line rfl
  rw [if_pos hblank] at hvalue
  have hcut : before ++ t :: u :: after = (before ++ [t]) ++ u :: after := by simp
  refine ⟨{ g with mode }, ?_⟩
  rw [hcut, run_append hfront hopen, run, hneeds, token, hu]
  dsimp only
  rw [hvalue]
  rfl

/-- An output tag in a run that is accepted. -/
lemma tag_of_run {ts before rest : List Token} {last : Generator} (hrun : ({} : Generator).run ts = .ok last)
    (hsplit : ts = before ++ t :: rest) (hkind : t.kind = .tag m) (hm : m.shows? = some shown) :
    ∃ u w after g g' behind, rest = u :: w :: after ∧
      w.kind.isClose = true ∧ steps {} before = .ok g ∧ g.steps [t, u] = .ok g' ∧
      g'.listing.statements = g.listing.statements ++ addedByTag shown g.listing.depth u ∧
      last.listing.statements = g'.listing.statements ++ behind ∧
      (u.kind = .text → Text.blank (argument u.value) = false ∧
        isRemark (argument u.value) = isRemark (stripSemicolon u.value)) := by
  obtain ⟨hclosed, hsteps⟩ := run_eq_ok_iff.1 hrun
  have hnot := closed_iff.1 hclosed before t rest hsplit
  have hsecond : closesSecond rest = true := by
    have hneeds : needsClose t = true := by
      cases m <;> cases hm <;> simp [needsClose, hkind, TokenKind.isOpen, Marker.isOpen]
    simpa [Unclosed, hneeds] using hnot
  rcases rest with _ | ⟨u, _ | ⟨w, after⟩⟩
  · cases hsecond
  · cases hsecond
  have hcut : ts = before ++ ([t, u] ++ w :: after) := hsplit
  rw [hcut] at hsteps
  obtain ⟨g, hbefore, hrest⟩ := steps_append_ok hsteps
  obtain ⟨g', htag, hafter⟩ := steps_append_ok hrest
  obtain ⟨behind, hbehind⟩ := steps_grow hafter
  obtain ⟨hadded, hblank⟩ := steps_shows hkind hm htag
  exact ⟨u, w, after, g, g', behind, rfl, hsecond, hbefore, htag, hadded, hbehind,
    fun hu => ⟨(blank_argument _).trans (hblank hu), isRemark_argument _⟩⟩

/-- **Which output tags are refused, and what the others add.**  In a view for which code is generated
the open marker of an output tag stands in front of a token behind which a tag is closed.  If that
token is text, it is not blank but for one semicolon, and the tag adds one statement, which appends the
text as an expression, escaped or raw; the expression consists of comments alone exactly if the text
does.  If it is the marker `%%>`, the statement has that text as its expression, and at any other marker
the tag adds no statement of its own.  A view in which the text of an output tag is blank but for one
semicolon is refused, and where nothing in front of the tag is wrong, because of this. -/
theorem output_tags_exact (source : Text) (name : Option Text) :
    (∀ code, generate source name = .ok code → ∃ last, run {} (tokens source) = .ok last ∧
      code = last.listing.toGenerated name source ∧
      ∀ before t rest m shown, tokens source = before ++ t :: rest → t.kind = .tag m →
        m.shows? = some shown → ∃ u w after g g' behind, rest = u :: w :: after ∧
          w.kind.isClose = true ∧ steps {} before = .ok g ∧ g.steps [t, u] = .ok g' ∧
          g'.listing.statements = g.listing.statements ++ addedByTag shown g.listing.depth u ∧
          last.listing.statements = g'.listing.statements ++ behind ∧
          (u.kind = .text → Text.blank (argument u.value) = false ∧
            isRemark (argument u.value) = isRemark (stripSemicolon u.value))) ∧
    ∀ before t u after m shown, tokens source = before ++ t :: u :: after → t.kind = .tag m →
      m.shows? = some shown → u.kind = .text → Text.blank (stripSemicolon u.value) = true →
        (∀ code, generate source name ≠ .ok code) ∧
        ∀ g, steps {} before = .ok g →
          (∀ front v behind, before ++ [t] = front ++ v :: behind →
            ¬ Unclosed v (behind ++ u :: after)) →
          generate source name = .error (.uncompilable "Output tag has no expression"
            { line := u.line, name, source } (some g.listing.code) .compileError) := by
  refine ⟨?_, fun before t u after m shown hsplit hkind hm hu hblank => ⟨?_, ?_⟩⟩
  · intro code h
    obtain ⟨last, hrun, rfl⟩ := run_of_generate h
    exact ⟨last, hrun, rfl, fun before t rest m shown => tag_of_run hrun⟩
  · intro code h
    obtain ⟨last, hrun, -⟩ := run_of_generate h
    obtain ⟨u', w, after', -, -, -, hrest, -, -, -, -, -, htext⟩ := tag_of_run hrun hsplit hkind hm
    obtain ⟨rfl, -⟩ := List.cons.inj hrest
    have hfull := (htext hu).1
    rw [blank_argument, hblank] at hfull
    cases hfull
  · intro g hbefore hopen
    obtain ⟨last, hrun⟩ := run_eq_noExpression hkind hm hu hblank hbefore hopen
    unfold generate
    rw [hsplit, hrun]
    rfl

/-- In a view with one output tag that holds an expression, and in one whose tag holds a semicolon. -/
theorem output_tags_exact_single :
    (∃ g g', steps {} [] = .ok g ∧
      g.steps [⟨.tag .openEscaped, "<%=", 1⟩, ⟨.text, " x ", 1⟩] = .ok g' ∧
      g'.listing.statements =
        g.listing.statements ++ [⟨g.listing.depth, "_append(escape( x ))", 1⟩] ∧
      Text.blank (argument " x ") = false) ∧
    generate "<%- ; %>" none = .error (.uncompilable "Output tag has no expression"
      { line := some 1, source := some "<%- ; %>" } (some []) .compileError) := by
  constructor
  · have hgenerate : generate "<%= x %>" none =
        .ok { code := "_append(escape( x ))\n", lineMap := [1], source := some "<%= x %>" } := by
      decide +kernel
    obtain ⟨last, -, -, htags⟩ := (output_tags_exact "<%= x %>" none).1 _ hgenerate
    obtain ⟨u, w, after, g, g', behind, hrest, -, hbefore, htag, hadded, -, htext⟩ :=
      htags [] ⟨.tag .openEscaped, "<%=", 1⟩ [⟨.text, " x ", 1⟩, ⟨.tag .close, "%>", 1⟩] .openEscaped
        appendEscaped (by decide +kernel) rfl rfl
    cases hrest
    exact ⟨g, g', hbefore, htag, hadded, (htext rfl).1⟩
  · refine ((output_tags_exact "<%- ; %>" none).2 [] ⟨.tag .openRaw, "<%-", 1⟩ ⟨.text, " ; ", 1⟩
      [⟨.tag .close, "%>", 1⟩] .openRaw appendRaw (by decide +kernel) rfl rfl rfl
      (by decide +kernel)).2 {} rfl ?_
    intro front v behind hfront
    -- the marker is followed by its text and a close marker
    rcases front with _ | ⟨a, front⟩
    · cases hfront
      rintro ⟨-, ⟨⟩⟩
    · cases front <;> cases hfront

/-- A tag with nothing but a comment in it, and one with nothing at all in it, are accepted; neither
appends an expression. -/
theorem comment_taken_for_expression :
    (generate "<%= # note %>" none = .ok
        { code := "_append(escape( # note \n))\n", lineMap := [1, 1], source := some "<%= # note %>" } ∧
      isRemark (argument " # note ") = true) ∧
    generate "<%=%>%>" none = .ok { code := [], lineMap := [], source := some "<%=%>%>" } := by
  decide +kernel

end Generator
end ViewEngine

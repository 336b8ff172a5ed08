/-
# Text and code never mix

The mode is a single variable that ten markers switch in any order, and the only check is that a
close marker stands two tokens behind an open one.  The invariant that makes this check enough says
what the next tokens look like whenever the mode is one of code or of a comment: either the open
marker of this mode has just been read, and a close marker stands behind the next token, or the next
token is a close marker.  So the only text that is read in such a mode is the one token that stands
between the markers of a tag.

* `Poised.token`, `Poised.steps`: the invariant is kept by a token and by a run;
* `text_and_code_never_mix`: how each run of text is read, and what it adds.
-/
import Mathlib.Tactic.Common
import Mathlib.Tactic.Lemma
import ViewEngine.Proofs.Code.Steps

namespace ViewEngine

/-- The mode in which the text directly behind a token is read on account of the token: that of an
open marker other than `<%%`. -/
def Token.opens? (t : Token) : Option Mode :=
  match t.kind with
  | .text => none
  | .tag m => if m = .openLiteral then none else m.mode?

namespace Generator

/-! ## The mode behind a token -/

section

variable {g g' : Generator} {t : Token}

lemma mode_token_text (hkind : t.kind = .text) (h : g.token t = .ok g') : g'.mode = g.mode := by
  rw [token, hkind] at h
  exact (text_adds h).1

lemma mode_token_tag {m : Marker} (hkind : t.kind = .tag m) (h : g.token t = .ok g') :
    g'.mode = modeBehind g.mode m := by
  rw [token, hkind] at h
  exact (marker_adds hkind h).1

end

lemma modeBehind_of_isClose {m : Marker} (h : m.isClose = true) (mode : Mode) :
    modeBehind mode m = .plain := by
  cases m <;> simp_all [modeBehind, Marker.mode?, Marker.isClose]

/-- A marker that opens no tag leaves an inert mode inert. -/
lemma modeBehind_inert {m : Marker} {mode : Mode} (hmode : mode.Inert)
    (h : (if m = .openLiteral then none else m.mode?) = none) : (modeBehind mode m).Inert := by
  cases m
  case openLiteral => exact .inr rfl
  case closeLiteral =>
    rcases hmode with rfl | rfl
    · exact .inl rfl
    · exact .inl rfl
  case close | closeTrim | closeSlurp => exact .inl rfl
  all_goals cases h

/-- An open marker other than `<%%` needs a close marker, and its mode is the mode behind it. -/
lemma needsClose_of_opens? {t : Token} {mode : Mode} (h : t.opens? = some mode) :
    needsClose t = true ∧ ∃ m, t.kind = .tag m ∧ ∀ mode', modeBehind mode' m = mode := by
  unfold Token.opens? at h
  split at h
  · cases h
  next m hkind =>
  split at h
  · cases h
  next hm =>
  refine ⟨?_, m, hkind, fun mode' => ?_⟩
  · have hopen : m.isOpen = true := by cases m <;> simp_all [Marker.mode?, Marker.isOpen]
    simp [needsClose, hkind, TokenKind.isOpen, hopen, hm]
  · rw [modeBehind, h]

/-! ## The invariant -/

/-- What is known in a mode about the tokens in front, behind `prev`. -/
inductive Poised (prev : Option Token) (mode : Mode) : List Token → Prop
  /-- Outside of tags nothing is known. -/
  | outside {ts} (hmode : mode.Inert) (hprev : prev.bind Token.opens? = none) : Poised prev mode ts
  /-- Directly behind an open marker a close marker is in sight. -/
  | opened {ts} (hprev : prev.bind Token.opens? = some mode) (h : closesSecond ts = true) :
      Poised prev mode ts
  /-- Behind the inside of a tag its close marker comes next. -/
  | closing {t ts} (h : t.kind.isClose = true) : Poised prev mode (t :: ts)

namespace Poised

variable {prev : Option Token} {g g' : Generator} {t : Token} {ts us : List Token}

/-- Behind an open marker the invariant holds because the tag is closed. -/
lemma of_opens? {mode : Mode} (h : t.opens? = some mode)
    (hclosed : needsClose t = true → closesSecond ts = true) (htoken : g.token t = .ok g') :
    Poised (some t) g'.mode ts := by
  obtain ⟨hneeds, m, hkind, hbehind⟩ := needsClose_of_opens? h
  refine .opened ?_ (hclosed hneeds)
  rw [mode_token_tag hkind htoken, hbehind]
  exact h

/-- Behind a close marker the mode is that of text. -/
lemma of_isClose (h : t.kind.isClose = true) (htoken : g.token t = .ok g') :
    Poised (some t) g'.mode ts := by
  rcases hkind : t.kind with _ | m
  · rw [hkind] at h
    cases h
  rw [hkind] at h
  refine .outside ?_ ?_
  · rw [mode_token_tag hkind htoken, modeBehind_of_isClose h]
    exact .inl rfl
  · cases m <;> simp_all [Token.opens?, Marker.mode?, TokenKind.isClose, Marker.isClose]

/-- **A token keeps the invariant.** -/
lemma token (hp : Poised prev g.mode (t :: ts))
    (hclosed : needsClose t = true → closesSecond ts = true) (htoken : g.token t = .ok g') :
    Poised (some t) g'.mode ts := by
  rcases hopens : t.opens? with _ | mode
  case some => exact of_opens? hopens hclosed htoken
  cases hp with
  | outside hinert _ =>
    refine .outside ?_ hopens
    rcases hkind : t.kind with _ | m
    · rw [mode_token_text hkind htoken]
      exact hinert
    · rw [mode_token_tag hkind htoken]
      refine modeBehind_inert hinert ?_
      simpa [Token.opens?, hkind] using hopens
  | closing h => exact of_isClose h htoken
  | opened _ h =>
    -- the token is the inside of the tag, or else a marker that switches to a mode of text
    have hnext : ∃ u us, ts = u :: us ∧ u.kind.isClose = true := by
      cases ts with
      | nil => cases h
      | cons u us => exact ⟨u, us, rfl, h⟩
    obtain ⟨u, us, rfl, hclose⟩ := hnext
    exact .closing hclose

/-- **A run keeps the invariant.** -/
lemma steps (hp : Poised prev g.mode (ts ++ us)) (hclosed : Closed (ts ++ us))
    (hsteps : g.steps ts = .ok g') : Poised (ts.getLast?.or prev) g'.mode us := by
  induction ts generalizing prev g with
  | nil =>
    cases hsteps
    exact hp
  | cons t ts ih =>
    obtain ⟨g₁, htoken, hrest⟩ := steps_cons_ok hsteps
    have h := ih (hp.token hclosed.1 htoken) hclosed.2 hrest
    rwa [List.getLast?_cons, Option.some_or, ← Option.or_some]

/-- At the end no tag is open. -/
lemma inert_of_nil {mode : Mode} (hp : Poised prev mode []) : mode.Inert := by
  cases hp with
  | outside h _ => exact h
  | opened _ h => cases h

end Poised

/-- A run up to a token, the token, and the run behind it. -/
lemma exists_steps {last : Generator} {before after : List Token} {t : Token}
    (hrun : run {} (before ++ t :: after) = .ok last) :
    ∃ g g', steps {} before = .ok g ∧ g.token t = .ok g' ∧ g'.steps after = .ok last ∧
      Poised before.getLast? g.mode (t :: after) := by
  obtain ⟨hclosed, hsteps⟩ := run_eq_ok_iff.1 hrun
  obtain ⟨g, hbefore, hrest⟩ := steps_append_ok hsteps
  obtain ⟨g', htoken, hafter⟩ := steps_cons_ok hrest
  -- the invariant holds at the front, where no token has been read
  have hp : Poised (before.getLast?.or none) g.mode (t :: after) :=
    Poised.steps (.outside (.inl rfl) rfl) hclosed hbefore
  rw [Option.or_none] at hp
  exact ⟨g, g', hbefore, htoken, hafter, hp⟩

/-! ## Runs of text -/

/-- Text outside of tags changes neither the depth nor the brackets. -/
lemma token_inert {g g' : Generator} {t : Token} (hkind : t.kind = .text) (hmode : g.mode.Inert)
    (h : g.token t = .ok g') :
    g'.listing.depth = g.listing.depth ∧ g'.pending = g.pending := by
  have hout : g' = g.output t.value t.line := by
    simp only [token, hkind, text] at h
    rcases hmode with hmode | hmode
    · rw [hmode] at h
      exact (Except.ok.inj h).symm
    · rw [hmode] at h
      exact (Except.ok.inj h).symm
  obtain ⟨ss, heq, -⟩ := output_eq g t.value t.line
  rw [hout, heq]
  exact ⟨rfl, rfl⟩

/-- **Text and code never mix.**  In a view for which code is generated, a run of text is read as
code, or dropped as a comment, if and only if an open marker other than `<%%` stands directly in
front of it; the marker says which of these, and a close marker stands directly behind the text.
Every other run of text adds the statement that appends it, at most a line break shorter, or nothing
if nothing is left of it.  What is added stands behind all that the tokens in front added and in
front of all that the tokens behind add, and at the end the mode is one of text. -/
theorem text_and_code_never_mix {source : Text} {name : Option Text} {code : Generated}
    (h : generate source name = .ok code) :
    ∃ last, run {} (tokens source) = .ok last ∧ code = last.listing.toGenerated name source ∧
      last.mode.Inert ∧
      ∀ before t after, tokens source = before ++ t :: after → t.kind = .text →
        ∃ g g' new rest, steps {} before = .ok g ∧ g.token t = .ok g' ∧
          g'.steps after = .ok last ∧
          g'.listing.statements = g.listing.statements ++ new ∧
          last.listing.statements = g'.listing.statements ++ rest ∧
          Added t.line t.value g.mode new ∧
          match before.getLast?.bind Token.opens? with
          | some mode => g.mode = mode ∧ ∃ u us, after = u :: us ∧ u.kind.isClose = true
          | none => g.mode.Inert ∧
              g'.listing.depth = g.listing.depth ∧ g'.pending = g.pending := by
  obtain ⟨last, hrun, rfl⟩ := run_of_generate h
  obtain ⟨hclosed, hsteps⟩ := run_eq_ok_iff.1 hrun
  have hfront : Poised none ({} : Generator).mode (tokens source ++ []) := .outside (.inl rfl) rfl
  have hend := hfront.steps (by rwa [List.append_nil]) hsteps
  refine ⟨last, hrun, rfl, hend.inert_of_nil, ?_⟩
  intro before t after hsplit hkind
  obtain ⟨g, g', hbefore, htoken, hafter, hp⟩ := exists_steps (hsplit ▸ hrun)
  obtain ⟨rest, hgrow⟩ := steps_grow hafter
  have htext : g.text t.value t.line = .ok g' := by
    simpa [token, hkind] using htoken
  obtain ⟨-, new, hnew, hadded⟩ := text_adds htext
  refine ⟨g, g', new, rest, hbefore, htoken, hafter, hnew, hgrow, hadded, ?_⟩
  cases hp with
  | outside hinert hprev =>
    rw [hprev]
    exact ⟨hinert, token_inert hkind hinert htoken⟩
  | opened hprev hclose =>
    rw [hprev]
    refine ⟨rfl, ?_⟩
    cases after with
    | nil => cases hclose
    | cons u us => exact ⟨u, us, rfl, hclose⟩
  | closing hclose =>
    -- the next token is a run of text, no marker
    rw [hkind] at hclose
    cases hclose

/-- In `a<%= x -%>⏎b` the text between the markers is read as an expression, and the text behind
them loses its line break. -/
theorem text_and_code_never_mix_output :
    let source : Text := "a<%= x -%>\nb"
    let code : Text := "_append(\"a\")\n_append(escape( x ))\n_append(\"b\")\n"
    generate source none = .ok { code, lineMap := [1, 1, 2], source := some source } ∧
      (∃ g g' new,
        steps {} [⟨.text, "a", 1⟩, ⟨.tag .openEscaped, "<%=", 1⟩] = .ok g ∧
        g.token ⟨.text, " x ", 1⟩ = .ok g' ∧ g.mode = .escaped ∧
        g'.listing.statements = g.listing.statements ++ new ∧ Added 1 " x " .escaped new) ∧
      ∃ g g' new,
        steps {} ((tokens source).take 4) = .ok g ∧ g.token ⟨.text, "\nb", 1⟩ = .ok g' ∧
        g.mode.Inert ∧
        g'.listing.statements = g.listing.statements ++ new ∧ Added 1 "\nb" g.mode new := by
  intro source code
  have hgenerate : generate source none =
      .ok { code, lineMap := [1, 1, 2], source := some source } := by
    decide +kernel
  obtain ⟨last, -, -, -, htexts⟩ := text_and_code_never_mix hgenerate
  refine ⟨hgenerate, ?_, ?_⟩
  · obtain ⟨g, g', new, -, hg, hg', -, hnew, -, hadded, hmode⟩ :=
      htexts [⟨.text, "a", 1⟩, ⟨.tag .openEscaped, "<%=", 1⟩] ⟨.text, " x ", 1⟩
        [⟨.tag .closeTrim, "-%>", 1⟩, ⟨.text, "\nb", 1⟩] (by decide +kernel) rfl
    have hescaped : g.mode = .escaped := hmode.1
    exact ⟨g, g', new, hg, hg', hescaped, hnew, hescaped ▸ hadded⟩
  · obtain ⟨g, g', new, -, hg, hg', -, hnew, -, hadded, hmode⟩ :=
      htexts ((tokens source).take 4) ⟨.text, "\nb", 1⟩ [] (by decide +kernel) rfl
    exact ⟨g, g', new, hg, hg', hmode.1, hnew, hadded⟩

end Generator
end ViewEngine

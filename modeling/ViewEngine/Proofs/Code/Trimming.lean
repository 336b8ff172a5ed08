/-
# Which line breaks are trimmed

A close marker with `-` or `_` sets a flag, and the next literal text that is appended by way of the
flag loses a line break at its front and clears the flag.  Between the two other tokens may stand.
Text in a tag is not literal, and its close marker sets the flag anew; but `<%%`, and the `%%>` that
ends a literal tag without text, append their own text without a look at the flag.  So the flag can
reach a text that does not stand directly behind the close marker.

* `trimsBehind`: the flag, read off the tokens in front;
* `Followed.token`, `Followed.steps`: a token and a run keep to it;
* `literal_text_trimmed`: what each run of literal text appends.
-/
import Mathlib.Tactic.Common
import Mathlib.Tactic.Lemma
import ViewEngine.Proofs.Code.Generator
import ViewEngine.Proofs.Code.Modes

namespace ViewEngine

/-- Is the token a close marker with `-` or `_`? -/
def Token.trims (t : Token) : Bool := t.kind = .tag .closeTrim || t.kind = .tag .closeSlurp

/-- Is the token the marker `<%%`? -/
def Token.opensLiteral (t : Token) : Bool := t.kind = .tag .openLiteral

/-- Is the line break at the front of a literal text trimmed behind these tokens, the last of which
comes first?  It is behind a close marker that says so, and `<%%` and an `%%>` directly behind it put
this off. -/
def trimsBehind : List Token → Bool
  | [] => false
  | t :: ts =>
    match t.kind with
    | .tag .openLiteral => trimsBehind ts
    | .tag .closeLiteral => ts.head?.any Token.opensLiteral && trimsBehind ts
    | _ => t.trims

/-- Behind a token that is neither `<%%` nor `%%>`, this token alone decides. -/
lemma trimsBehind_cons {t : Token} (ts : List Token) (hopen : t.kind ≠ .tag .openLiteral)
    (hclose : t.kind ≠ .tag .closeLiteral) : trimsBehind (t :: ts) = t.trims := by
  rw [trimsBehind]
  split
  · next h => exact absurd h hopen
  · next h => exact absurd h hclose
  · rfl

namespace Generator

variable {g g' : Generator} {t : Token} {before ts us : List Token}

/-! ## The flag -/

/-- The flag is that of the tokens in front, the last of which comes first.  In a literal tag it is
only set as long as nothing stands behind `<%%`. -/
structure Tracks (before : List Token) (g : Generator) : Prop where
  trim : g.trim = trimsBehind before
  literal : before.head?.any Token.opensLiteral = true → g.mode = .literal
  held : g.mode = .literal → g.trim = true → before.head?.any Token.opensLiteral = true

lemma trim_output (g : Generator) (u : Text) (n : Int) : (g.output u n).trim = false := by
  obtain ⟨ss, heq, -⟩ := output_eq g u n
  rw [heq]

/-- Text outside of tags is appended. -/
lemma text_inert {u : Text} {n : Int} (hmode : g.mode.Inert) : g.text u n = .ok (g.output u n) := by
  rw [text]
  rcases hmode with h | h
  · rw [h]
  · rw [h]

namespace Tracks

/-- Behind a token that is no `<%%`, with the flag cleared. -/
lemma of_cleared (htrim : g.trim = false) (hbehind : trimsBehind (t :: before) = false)
    (hopen : t.opensLiteral = false) : Tracks (t :: before) g where
  trim := by rw [htrim, hbehind]
  literal h := by
    rw [List.head?_cons, Option.any_some, hopen] at h
    cases h
  held _ h := by
    rw [htrim] at h
    cases h

/-- Behind a close marker the flag is the one that the marker says. -/
lemma of_isClose {m : Marker} (hkind : t.kind = .tag m) (hclose : m.isClose = true)
    (htoken : g.token t = .ok g') : Tracks (t :: before) g' ∧ g'.mode = .plain := by
  have hmode : g'.mode = .plain := by
    rw [mode_token_tag hkind htoken, modeBehind_of_isClose hclose]
  have hmarker : m.mode? = none ∧ m ≠ .closeLiteral ∧ m ≠ .openLiteral := by
    cases m <;> simp_all [Marker.mode?, Marker.isClose]
  have htrim : g'.trim = t.trims := by
    rw [token, hkind] at htoken
    simp only [marker, hmarker.1, hmarker.2.1, if_false] at htoken
    cases htoken
    cases m <;> simp_all [Token.trims, Marker.isClose]
  have hbehind : trimsBehind (t :: before) = t.trims :=
    trimsBehind_cons before (by simp [hkind, hmarker.2.2]) (by simp [hkind, hmarker.2.1])
  refine ⟨⟨by rw [htrim, hbehind], fun h => ?_, fun h => ?_⟩, hmode⟩
  · simp [Token.opensLiteral, hkind, hmarker.2.2] at h
  · rw [hmode] at h
    cases h

/-- **Outside of tags a token that opens none keeps the flag right.** -/
lemma token (h : Tracks before g) (hmode : g.mode.Inert) (hopens : t.opens? = none)
    (htoken : g.token t = .ok g') : Tracks (t :: before) g' := by
  rcases hkind : t.kind with _ | m
  · -- a text that is appended clears the flag
    have hout : g' = g.output t.value t.line := by
      rw [Generator.token, hkind] at htoken
      exact (Except.ok.inj ((text_inert hmode).symm.trans htoken)).symm
    refine of_cleared ?_ ?_ (by simp [Token.opensLiteral, hkind])
    · rw [hout, trim_output]
    · rw [trimsBehind_cons before (by simp [hkind]) (by simp [hkind])]
      simp [Token.trims, hkind]
  cases m
  case openLiteral =>
    rw [Generator.token, hkind] at htoken
    cases htoken
    have hbehind : trimsBehind (t :: before) = trimsBehind before := by rw [trimsBehind, hkind]
    refine ⟨by rw [hbehind]; exact h.trim, fun _ => rfl, fun _ _ => ?_⟩
    simp [Token.opensLiteral, hkind]
  case closeLiteral =>
    have hbehind : trimsBehind (t :: before) =
        (before.head?.any Token.opensLiteral && trimsBehind before) := by rw [trimsBehind, hkind]
    have hopen : t.opensLiteral = false := by simp [Token.opensLiteral, hkind]
    rw [Generator.token, hkind] at htoken
    simp only [marker, Marker.mode?, if_true] at htoken
    split at htoken
    · next hliteral =>
      -- the marker ends a literal tag, in which the flag is set directly behind `<%%` only
      cases htoken
      refine ⟨?_, fun hhead => ?_, fun hplain => by cases hplain⟩
      · rw [hbehind, ← h.trim]
        cases htrim : g.trim with
        | false => exact htrim.trans (Bool.and_false _).symm
        | true =>
          rw [h.held hliteral htrim]
          exact htrim
      · rw [List.head?_cons, Option.any_some, hopen] at hhead
        cases hhead
    · next hplain =>
      rw [text_inert hmode] at htoken
      cases htoken
      refine of_cleared (trim_output _ _ _) ?_ hopen
      rw [hbehind]
      cases hhead : before.head?.any Token.opensLiteral with
      | false => rfl
      | true => exact absurd (h.literal hhead) hplain
  case close => exact (of_isClose hkind rfl htoken).1
  case closeTrim => exact (of_isClose hkind rfl htoken).1
  case closeSlurp => exact (of_isClose hkind rfl htoken).1
  -- all other markers open a tag
  all_goals simp [Token.opens?, hkind, Marker.mode?] at hopens

end Tracks

/-! ## Tokens and runs -/

/-- What is known about the flag in front of some tokens: outside of tags it is that of the tokens
read, and inside of a tag the close marker is in sight that sets it anew. -/
inductive Followed (before : List Token) (g : Generator) : List Token → Prop
  | outside {ts : List Token} (hmode : g.mode.Inert) (h : Tracks before g) : Followed before g ts
  | opened {ts : List Token} {mode : Mode} (hprev : before.head?.bind Token.opens? = some mode)
      (h : closesSecond ts = true) : Followed before g ts
  | closing {t : Token} {ts : List Token} (h : t.kind.isClose = true) : Followed before g (t :: ts)

namespace Followed

/-- **A token keeps what is known about the flag.** -/
lemma token (h : Followed before g (t :: ts)) (hclosed : Closed (t :: ts))
    (htoken : g.token t = .ok g') : Followed (t :: before) g' ts := by
  rcases hopens : t.opens? with _ | mode
  case some =>
    obtain ⟨hneeds, -⟩ := needsClose_of_opens? hopens
    exact .opened hopens (hclosed.1 hneeds)
  cases h with
  | outside hmode h =>
    refine .outside ?_ (h.token hmode hopens htoken)
    rcases hkind : t.kind with _ | m
    · rw [mode_token_text hkind htoken]
      exact hmode
    · rw [mode_token_tag hkind htoken]
      refine modeBehind_inert hmode ?_
      simpa [Token.opens?, hkind] using hopens
  | opened hprev h =>
    rcases ts with _ | ⟨u, us⟩
    · cases h
    · exact .closing h
  | closing h =>
    rcases hkind : t.kind with _ | m
    · rw [hkind] at h
      cases h
    · rw [hkind] at h
      obtain ⟨htracks, hmode⟩ := Tracks.of_isClose hkind h htoken
      exact .outside (.inl hmode) htracks

/-- **A run keeps what is known about the flag.** -/
lemma steps (h : Followed before g (ts ++ us)) (hclosed : Closed (ts ++ us))
    (hsteps : g.steps ts = .ok g') : Followed (ts.reverse ++ before) g' us := by
  induction ts generalizing before g with
  | nil =>
    cases hsteps
    exact h
  | cons t ts ih =>
    obtain ⟨g₁, htoken, hrest⟩ := steps_cons_ok hsteps
    rw [List.reverse_cons, List.append_assoc]
    exact ih (h.token hclosed htoken) hclosed.2 hrest

end Followed

/-- What is appended for a text, when it is known whether its line break goes. -/
lemma statements_output {trim : Bool} (htrim : g.trim = trim) (u : Text) (n : Int) :
    (g.output u n).listing.statements = g.listing.statements ++
      literalStatements g.listing.depth (trimmed trim u) (trimmedLine trim u n) := by
  subst htrim
  unfold output literalStatements trimmed trimmedLine
  cases g.trim with
  | false => cases u <;> simp [emit, Listing.add]
  | true =>
    cases Text.afterLineBreak? u with
    | none => cases u <;> simp [emit, Listing.add]
    | some v => cases v <;> simp [emit, Listing.add]

/-! ## Literal text -/

/-- **Which line breaks are trimmed.**  In a view for which code is generated, a run of text that
does not stand directly behind an open marker other than `<%%` appends itself.  It loses a line break
at its front if and only if the tokens in front say so; and if the token directly in front is neither
`<%%` nor `%%>`, that is so if and only if this token is a close marker with `-` or `_`. -/
theorem literal_text_trimmed {source : Text} {name : Option Text} {code : Generated}
    (h : generate source name = .ok code) :
    ∃ last, run {} (tokens source) = .ok last ∧ code = last.listing.toGenerated name source ∧
      ∀ before t after, tokens source = before ++ t :: after → t.kind = .text →
        before.getLast?.bind Token.opens? = none →
        let trim := trimsBehind before.reverse
        (∃ g g' rest, Generator.steps {} before = .ok g ∧ g.token t = .ok g' ∧
          g'.steps after = .ok last ∧
          g'.listing.statements = g.listing.statements ++ literalStatements g.listing.depth
            (trimmed trim t.value) (trimmedLine trim t.value t.line) ∧
          last.listing.statements = g'.listing.statements ++ rest) ∧
        ((∀ u ∈ before.getLast?, u.kind ≠ .tag .openLiteral ∧ u.kind ≠ .tag .closeLiteral) →
          trim = before.getLast?.any Token.trims) := by
  obtain ⟨last, hrun, rfl⟩ := run_of_generate h
  refine ⟨last, hrun, rfl, fun before t after hsplit hkind hprev => ⟨?_, fun hlast => ?_⟩⟩
  · obtain ⟨hclosed, hsteps⟩ := run_eq_ok_iff.1 hrun
    rw [hsplit] at hclosed hsteps
    obtain ⟨g, hbefore, hrest⟩ := steps_append_ok hsteps
    obtain ⟨g', htoken, hafter⟩ := steps_cons_ok hrest
    obtain ⟨rest, hgrow⟩ := steps_grow hafter
    refine ⟨g, g', rest, hbefore, htoken, hafter, ?_, hgrow⟩
    -- at the front nothing has been read, and the flag is not set
    have hfront : Followed [] {} (before ++ t :: after) :=
      .outside (.inl rfl) ⟨rfl, (fun h => by cases h), (fun h => by cases h)⟩
    have hfollowed := hfront.steps hclosed hbefore
    rw [List.append_nil] at hfollowed
    cases hfollowed with
    | outside hmode htracks =>
      have hout : g' = g.output t.value t.line := by
        rw [Generator.token, hkind] at htoken
        exact (Except.ok.inj ((text_inert hmode).symm.trans htoken)).symm
      rw [hout]
      exact statements_output htracks.trim t.value t.line
    | opened hopens _ =>
      rw [List.head?_reverse, hprev] at hopens
      cases hopens
    | closing hclose =>
      rw [hkind] at hclose
      cases hclose
  · rw [← List.head?_reverse] at hlast ⊢
    generalize before.reverse = us at hlast ⊢
    cases us with
    | nil => rfl
    | cons u us =>
      obtain ⟨hopen, hclose⟩ := hlast u (by rw [List.head?_cons, Option.mem_some_iff])
      exact trimsBehind_cons us hopen hclose

/-- The line break behind a tag that ends in `-%>` goes: only the rest of the line is appended. -/
theorem literal_text_trimmed_line :
    ∃ code g g', generate "<% x = 1 -%>\nfoo" none = .ok code ∧
      Generator.steps {} ((tokens "<% x = 1 -%>\nfoo").take 3) = .ok g ∧
      g.token ⟨.text, "\nfoo", 1⟩ = .ok g' ∧
      g'.listing.statements = g.listing.statements ++
        literalStatements g.listing.depth "foo" 2 := by
  have htokens : tokens "<% x = 1 -%>\nfoo" =
      (tokens "<% x = 1 -%>\nfoo").take 3 ++ ⟨.text, "\nfoo", 1⟩ :: [] := by
    decide +kernel
  have hcode : generate "<% x = 1 -%>\nfoo" none =
      .ok ⟨"x = 1\n_append(\"foo\")\n", [1, 2], none, some "<% x = 1 -%>\nfoo"⟩ := by
    decide +kernel
  obtain ⟨last, -, -, htext⟩ := literal_text_trimmed hcode
  obtain ⟨⟨g, g', -, hbefore, htoken, -, hout, -⟩, -⟩ :=
    htext _ _ _ htokens rfl (by decide +kernel)
  refine ⟨_, g, g', hcode, hbefore, htoken, hout.trans ?_⟩
  have htrim : trimsBehind ((tokens "<% x = 1 -%>\nfoo").take 3).reverse = true := by
    decide +kernel
  rw [htrim]
  rfl

/-- Directly behind `<%%` a text loses its line break if a tag in front of the marker ended in
`-%>`. -/
theorem trimmed_behind_open_literal :
    tokens "<% x = 1 -%><%%\nfoo%>" = [⟨.tag .openEval, "<%", 1⟩, ⟨.text, " x = 1 ", 1⟩,
      ⟨.tag .closeTrim, "-%>", 1⟩, ⟨.tag .openLiteral, "<%%", 1⟩, ⟨.text, "\nfoo", 1⟩,
      ⟨.tag .close, "%>", 2⟩] ∧
    generate "<% x = 1 -%><%%\nfoo%>" none = .ok {
      code := "x = 1\n_append(\"<%\")\n_append(\"foo\")\n_append(\"%>\")\n"
      lineMap := [1, 1, 2, 2]
      source := some "<% x = 1 -%><%%\nfoo%>" } ∧
    appendLiteral "\nfoo" = "_append(\"\\nfoo\")" := by
  refine ⟨?_, ?_, ?_⟩ <;> decide +kernel

end Generator
end ViewEngine

/-
# Open markers without a close marker

Before the generator reads an open marker other than `<%%`, it looks two tokens ahead: a close marker
has to stand there.  Nothing else that the generator does complains about an unmatched tag, so this
look decides alone which views are refused on account of one, and the complaint is about the first
open marker that it refuses.

Two tokens ahead is where the next marker stands if there is text in the tag.  A tag without any text
has its close marker one token ahead, and what stands behind the tag is looked at in its place.

* `run_eq_unmatched_iff`: which runs end at an unmatched tag;
* `closesSecond_iff_next`: the look ahead, where an open marker has text behind it;
* `unmatched_tags_exact`: which views are refused, and for which marker.
-/
import Mathlib.Tactic.Common
import Mathlib.Tactic.Lemma
import ViewEngine.Proofs.Code.Steps
import ViewEngine.Proofs.Markup.Tokens

namespace ViewEngine

/-- The first marker among the tokens. -/
def nextMarker? : List Token → Option Marker
  | [] => none
  | t :: ts =>
    match t.kind with
    | .text => nextMarker? ts
    | .tag m => some m

namespace Generator

/-- The token opens a tag, and no close marker stands two tokens ahead. -/
def Unclosed (t : Token) (after : List Token) : Prop :=
  needsClose t = true ∧ closesSecond after = false

/-- Behind each open marker but `<%%` the next marker is a close marker. -/
def NextCloses : List Token → Prop
  | [] => True
  | t :: ts => (needsClose t = true → ∃ m, nextMarker? ts = some m ∧ m.isClose = true) ∧ NextCloses ts

lemma closed_iff {ts : List Token} :
    Closed ts ↔ ∀ before t after, ts = before ++ t :: after → ¬ Unclosed t after := by
  induction ts with
  | nil => simp [Closed]
  | cons u us ih =>
    rw [Closed, ih]
    constructor
    · rintro ⟨hu, hus⟩ before t after h
      cases before with
      | nil =>
        cases h
        rintro ⟨hneeds, hfalse⟩
        rw [hu hneeds] at hfalse
        cases hfalse
      | cons v before => exact hus before t after (List.cons.inj h).2
    · intro h
      refine ⟨fun hneeds => ?_, fun before t after hsplit => ?_⟩
      · simpa [Unclosed, hneeds] using h [] u us rfl
      · exact h (u :: before) t after (by rw [hsplit]; rfl)

/-! ## What the tokens themselves complain about -/

/-- The complaint is about the code in a tag, and not about the tag. -/
def AboutCode (f : GenerationFault) : Prop := ∀ tag n, f ≠ .unmatchedTag tag n

variable {g : Generator} {h : Halt}

lemma aboutCode_closeBlock {n : Int} (hfail : g.closeBlock n = .error h) : AboutCode h.fault := by
  unfold closeBlock at hfail
  split at hfail
  · cases hfail
  · cases hfail
    rintro tag m ⟨⟩

lemma aboutCode_codeLine {raw : Text} {n : Int} (hfail : g.codeLine raw n = .error h) :
    AboutCode h.fault := by
  unfold codeLine at hfail
  dsimp only at hfail
  split at hfail
  · cases hfail
  split at hfail
  · cases hfail
  split at hfail
  · exact aboutCode_closeBlock hfail
  split at hfail
  · rcases hclose : g.closeBlock n with e | g₁
    · rw [hclose] at hfail
      cases hfail
      exact aboutCode_closeBlock hclose
    · rw [hclose] at hfail
      cases hfail
  · cases hfail

lemma aboutCode_codeLines {ls : List Text} {n : Int} (hfail : g.codeLines ls n = .error h) :
    AboutCode h.fault := by
  induction ls generalizing g n with
  | nil => cases hfail
  | cons l ls ih =>
    rw [codeLines] at hfail
    rcases hline : g.codeLine l n with e | g₁
    · rw [hline] at hfail
      cases hfail
      exact aboutCode_codeLine hline
    · rw [hline] at hfail
      exact ih hfail

lemma aboutCode_text {t : Text} {n : Int} (hfail : g.text t n = .error h) : AboutCode h.fault := by
  unfold text at hfail
  split at hfail
  · cases hfail
  · cases hfail
  · cases hfail
  · exact aboutCode_codeLines hfail
  all_goals
    split at hfail
    · cases hfail
      rintro tag m ⟨⟩
    · cases hfail

lemma aboutCode_token {t : Token} (hfail : g.token t = .error h) : AboutCode h.fault := by
  unfold token at hfail
  split at hfail
  · exact aboutCode_text hfail
  -- of the markers only `%%>` can fail, where it is read as text
  · unfold marker at hfail
    split at hfail
    · dsimp only at hfail
      split at hfail <;> cases hfail
    · split at hfail
      · split at hfail
        · cases hfail
        · exact aboutCode_text hfail
      · cases hfail

/-! ## Where a run ends at an unmatched tag -/

/-- **A run ends at an unmatched tag if and only if the tokens in front of it can be read**, none of
them being an open marker that the look ahead refuses, and it is such a marker itself. -/
theorem run_eq_unmatched_iff {ts : List Token} {last : Generator} {tag : Text} {n : Int} :
    g.run ts = .error ⟨last, .unmatchedTag tag n⟩ ↔
      ∃ before t after, ts = before ++ t :: after ∧ g.steps before = .ok last ∧
        (∀ front u behind, before = front ++ u :: behind → ¬ Unclosed u (behind ++ t :: after)) ∧
        Unclosed t after ∧ tag = t.value ∧ n = t.line := by
  induction ts generalizing g with
  | nil => simp [run]
  | cons v vs ih =>
    rw [run]
    constructor
    · intro h
      split at h
      · next hopen =>
        cases h
        refine ⟨[], v, vs, rfl, rfl, ?_, by simpa [Unclosed] using hopen, rfl, rfl⟩
        intro front u behind hsplit
        cases front <;> cases hsplit
      next hopen =>
      rcases htoken : g.token v with e | g₁
      · rw [htoken] at h
        cases h
        exact absurd rfl (aboutCode_token htoken tag n)
      rw [htoken] at h
      obtain ⟨before, t, after, rfl, hsteps, hbefore, ht, htag, hn⟩ := ih.1 h
      refine ⟨v :: before, t, after, rfl, ?_, ?_, ht, htag, hn⟩
      · rw [steps, htoken]
        exact hsteps
      · intro front u behind hsplit
        cases front with
        | nil =>
          cases hsplit
          simpa [Unclosed] using hopen
        | cons w front => exact hbefore front u behind (List.cons.inj hsplit).2
    · rintro ⟨before, t, after, hsplit, hsteps, hbefore, ht, rfl, rfl⟩
      cases before with
      | nil =>
        cases hsplit
        cases hsteps
        rw [if_pos (by simpa [Unclosed] using ht)]
      | cons w before =>
        cases hsplit
        have hv := hbefore [] v before rfl
        rw [if_neg (by simpa [Unclosed] using hv)]
        obtain ⟨g₁, htoken, hrest⟩ := steps_cons_ok hsteps
        rw [htoken]
        exact ih.2 ⟨before, t, after, rfl, hrest,
          fun front u behind h => hbefore (v :: front) u behind (by rw [h]; rfl), ht, rfl, rfl⟩

/-- A view is refused on account of an unmatched tag where its run ends at one. -/
lemma generate_eq_unmatched_iff {source tag : Text} {name : Option Text} {place : Place} :
    generate source name = .error (.unmatchedTag tag place) ↔
      ∃ last n, run {} (tokens source) = .error ⟨last, .unmatchedTag tag n⟩ ∧
        place = { line := n, name, source } := by
  unfold generate
  rcases run {} (tokens source) with ⟨last, fault⟩ | g
  · cases fault <;> simp [GenerationFault.toError, eq_comm]
  · simp

/-! ## The next marker -/

/-- Where an open marker has text behind it, or nothing, the look two tokens ahead finds the next
marker. -/
lemma closesSecond_iff_next {source : Text} {before after : List Token} {t : Token}
    (h : tokens source = before ++ t :: after) (htext : ∀ u ∈ after.head?, u.kind = .text) :
    closesSecond after = true ↔ ∃ m, nextMarker? after = some m ∧ m.isClose = true := by
  rcases after with _ | ⟨u, after⟩
  · simp [closesSecond, nextMarker?]
  have hu : u.kind = .text := htext u rfl
  rcases after with _ | ⟨v, after⟩
  · simp [closesSecond, nextMarker?, hu]
  · have hsplit : tokens source = (before ++ [t]) ++ u :: v :: after := by simp [h]
    obtain ⟨m, hv⟩ := tag_of_tokens hsplit hu
    simp [closesSecond, nextMarker?, hu, hv, TokenKind.isClose]

/-- **Views are refused on account of unmatched tags exactly as the look ahead says.**  If a close
marker stands two tokens behind each open marker but `<%%`, no unmatched tag is reported; if code is
generated, one does; and an unmatched tag that is reported is the first open marker of which this is
not so, with its line, all that stands in front of it having been read.  Behind an open marker that
has text behind it, the token two tokens ahead is the next marker, so if all have, code is only
generated where each of them is followed by a close marker as the next marker, and where each is no
unmatched tag is reported. -/
theorem unmatched_tags_exact (source : Text) (name : Option Text) :
    (Closed (tokens source) → ∀ tag place,
      generate source name ≠ .error (.unmatchedTag tag place)) ∧
    (∀ code, generate source name = .ok code → Closed (tokens source)) ∧
    (∀ tag place, generate source name = .error (.unmatchedTag tag place) ↔
      ∃ before t after last, tokens source = before ++ t :: after ∧
        steps {} before = .ok last ∧
        (∀ front u behind, before = front ++ u :: behind → ¬ Unclosed u (behind ++ t :: after)) ∧
        Unclosed t after ∧ tag = t.value ∧ place = { line := t.line, name, source }) ∧
    ((∀ before t after, tokens source = before ++ t :: after → needsClose t = true →
        ∀ u ∈ after.head?, u.kind = .text) →
      (Closed (tokens source) ↔ NextCloses (tokens source))) := by
  have hreported : ∀ tag place, generate source name = .error (.unmatchedTag tag place) ↔
      ∃ before t after last, tokens source = before ++ t :: after ∧
        steps {} before = .ok last ∧
        (∀ front u behind, before = front ++ u :: behind → ¬ Unclosed u (behind ++ t :: after)) ∧
        Unclosed t after ∧ tag = t.value ∧ place = { line := t.line, name, source } := by
    intro tag place
    rw [generate_eq_unmatched_iff]
    constructor
    · rintro ⟨last, n, hrun, rfl⟩
      obtain ⟨before, t, after, hsplit, hsteps, hbefore, ht, htag, rfl⟩ :=
        run_eq_unmatched_iff.1 hrun
      exact ⟨before, t, after, last, hsplit, hsteps, hbefore, ht, htag, rfl⟩
    · rintro ⟨before, t, after, last, hsplit, hsteps, hbefore, ht, htag, rfl⟩
      exact ⟨last, t.line, run_eq_unmatched_iff.2
        ⟨before, t, after, hsplit, hsteps, hbefore, ht, htag, rfl⟩, rfl⟩
  refine ⟨?_, ?_, hreported, ?_⟩
  · intro hclosed tag place h
    obtain ⟨before, t, after, -, hsplit, -, -, ht, -, -⟩ := (hreported tag place).1 h
    exact closed_iff.1 hclosed before t after hsplit ht
  · intro code h
    obtain ⟨last, hrun, -⟩ := run_of_generate h
    exact (run_eq_ok_iff.1 hrun).1
  · intro htext
    -- along the tokens, with those in front of them
    suffices hall : ∀ before ts, tokens source = before ++ ts → (Closed ts ↔ NextCloses ts) from
      hall [] (tokens source) rfl
    intro before ts
    induction ts generalizing before with
    | nil => simp [Closed, NextCloses]
    | cons t ts ih =>
      intro hsplit
      have hrest := ih (before ++ [t]) (by simp [hsplit])
      rw [Closed, NextCloses, hrest]
      refine and_congr_left fun _ => forall_congr' fun hneeds => ?_
      exact closesSecond_iff_next hsplit (htext before t ts hsplit hneeds)

/-- An empty comment, whose close marker is the next marker, is refused; and two open markers
behind each other are accepted, although the next marker behind the first is none that closes. -/
theorem empty_tag_misjudged :
    (NextCloses (tokens "<%#%>") ∧
      generate "<%#%>" none =
        .error (.unmatchedTag "<%#" { line := some 1, source := some "<%#%>" })) ∧
    (¬ NextCloses (tokens "<%=<%=%>%>") ∧
      generate "<%=<%=%>%>" none =
        .ok { code := [], lineMap := [], source := some "<%=<%=%>%>" }) := by
  have hcomment : tokens "<%#%>" = [⟨.tag .openComment, "<%#", 1⟩, ⟨.tag .close, "%>", 1⟩] := by
    decide +kernel
  have hopens : tokens "<%=<%=%>%>" = [⟨.tag .openEscaped, "<%=", 1⟩, ⟨.tag .openEscaped, "<%=", 1⟩,
      ⟨.tag .close, "%>", 1⟩, ⟨.tag .close, "%>", 1⟩] := by
    decide +kernel
  refine ⟨⟨?_, by decide +kernel⟩, ⟨?_, by decide +kernel⟩⟩
  · rw [hcomment]
    refine ⟨fun _ => ⟨.close, rfl, rfl⟩, ?_, trivial⟩
    rintro ⟨⟩
  · rw [hopens]
    rintro ⟨hfirst, -⟩
    obtain ⟨m, hm, hclose⟩ := hfirst rfl
    cases hm
    cases hclose

end Generator
end ViewEngine

/-
# The lines that an error shows

An error about a view shows the line on which it was noted, marked, among the lines around it.  The
line was counted by line feeds.  The lines that are shown are cut at other characters too, so that the
two agree only up to the first of these.  If there is none up to the last line that is shown, the line
that is marked is the one in which the word stands that is to blame.

* `Snippet.lines_around`: the lines that are shown;
* `generate_error_snippet`: the errors of a view, with their lines.
-/
import ViewEngine.Proofs.Code.Faults

namespace ViewEngine

open Text (StandsOn endsLine feedLines)

/-! ## Snippets -/

/-- The lines of a text, which line feeds end, with their numbers. -/
def numberedLines (t : Text) : List (Int × Text) :=
  (feedLines t).zipIdx.map fun p => ((p.2 : Int) + 1, p.1)

section

variable {α : Type} (xs : List α) (i k : Nat)

lemma take_zipIdx : (xs.zipIdx i).take k = (xs.take k).zipIdx i := by
  induction xs generalizing i k with
  | nil => simp
  | cons x xs ih =>
    cases k with
    | zero => rfl
    | succ k => rw [List.zipIdx_cons, List.take_succ_cons, ih, List.take_succ_cons, List.zipIdx_cons]

lemma take_zipIdx_eq_filter :
    (xs.zipIdx i).take k = (xs.zipIdx i).filter fun p => p.2 < i + k := by
  induction xs generalizing i k with
  | nil => simp
  | cons x xs ih =>
    rw [List.zipIdx_cons]
    cases k with
    | zero =>
      symm
      rw [List.take_zero, List.filter_eq_nil_iff, ← List.zipIdx_cons]
      intro p hp
      have hle := List.le_snd_of_mem_zipIdx hp
      simpa using hle
    | succ k =>
      rw [List.take_succ_cons, ih, List.filter_cons_of_pos (by simp), Nat.add_right_comm,
        Nat.add_assoc]

lemma drop_zipIdx_eq_filter :
    (xs.zipIdx i).drop k = (xs.zipIdx i).filter fun p => i + k ≤ p.2 := by
  induction xs generalizing i k with
  | nil => simp
  | cons x xs ih =>
    cases k with
    | zero =>
      symm
      rw [List.drop_zero, List.filter_eq_self]
      intro p hp
      simpa using List.le_snd_of_mem_zipIdx hp
    | succ k =>
      rw [List.zipIdx_cons, List.drop_succ_cons, ih, List.filter_cons_of_neg (by simp),
        Nat.add_right_comm, Nat.add_assoc]

end

namespace Snippet

variable {source : Text} {n context : Int}

/-- **The lines that are shown are those around the error line**, in order, if nothing but line feeds
ends a line up to the last of them. -/
theorem lines_around
    (h : ∀ l ∈ (Text.cutAtLineFeeds source).take (n + context).toNat, ∀ c ∈ l, endsLine c = false) :
    (around source n context).lines =
      (numberedLines source).filter fun p => n - context ≤ p.1 ∧ p.1 ≤ n + context := by
  let all := Text.lines source
  let first := (n - 1 - context).toNat
  let last := (n + context).toNat
  have hcut : (all.zipIdx.drop first).take (min (all.length : Int) (n + context) - first).toNat =
      (all.zipIdx.drop first).take (last - first) := by
    have hlength : (all.zipIdx.drop first).length = all.length - first := by simp
    rcases Nat.lt_or_ge last all.length with hlt | hle
    · congr 1
      omega
    -- both take all that is there
    · rw [List.take_of_length_le (by omega), List.take_of_length_le (by omega)]
  have hsame : all.take last = (feedLines source).take last := Text.take_lines last h
  have hfilter : (all.zipIdx.drop first).take (last - first) =
      (feedLines source).zipIdx.filter fun p => first ≤ p.2 ∧ p.2 < last := by
    rw [← List.drop_take, take_zipIdx, hsame, drop_zipIdx_eq_filter, ← take_zipIdx,
      take_zipIdx_eq_filter, List.filter_filter]
    simp
  unfold around numberedLines
  dsimp only
  rw [hcut, hfilter, List.filter_map]
  congr 1
  refine List.filter_congr fun p _ => decide_eq_decide.2 ?_
  dsimp only [first, last]
  omega

end Snippet

/-! ## Errors -/

/-- The message of the error ends with the snippet. -/
def ViewError.Shows (e : ViewError) (s : Snippet) : Prop :=
  ∀ colour, ∃ header, e.message colour = header ++ "\n" ++ s.format colour

section

variable {source : Text} {fault : GenerationFault} (hsource : source ≠ []) (hline : fault.line ≠ 0)

include hsource hline

lemma snippet?_eq_around (name : Option Text) :
    Place.snippet? { line := some fault.line, name, source := some source } =
      some (.around source fault.line 2) := by
  have hknown : nonempty? (some source) = some source := by simp [nonempty?, hsource]
  have hnumber : nonzero? (some fault.line) = some fault.line := by simp [nonzero?, hline]
  rw [Place.snippet?, hknown, hnumber]

lemma shows_around (name : Option Text) :
    (fault.toError name source).Shows (.around source fault.line 2) := by
  have hformat : ∀ colour m, ∃ header,
      Place.format colour m { line := some fault.line, name, source := some source } =
        header ++ "\n" ++ (Snippet.around source fault.line 2).format colour := fun colour m => by
    rw [Place.format, snippet?_eq_around hsource hline]
    exact ⟨_, rfl⟩
  intro colour
  cases fault <;> exact hformat colour _

end

/-- The line with a number is among the numbered lines. -/
lemma mem_numberedLines {source u w l : Text} {n : Int} (h : StandsOn source u w n l) (hw : w ≠ []) :
    (n, l) ∈ numberedLines source := by
  obtain ⟨front, a, b, behind, -, hcut, hl, hn⟩ := h.line
  have hne : l ≠ [] := by
    rw [hl]
    simp [hw]
  refine List.mem_map.2 ⟨(l, front.length), ?_, by rw [hn]⟩
  exact List.mem_zipIdx_iff_getElem?.2 (Text.getElem?_feedLines hcut hne)

namespace Generator

/-- **An error shows the line that it is about.**  Each error about a view comes from a fault, for which
a word of the view is to blame: an open marker, or a line of code.  The fault is noted on the line in
which the word stands, by line feeds, and the message of the error ends with a snippet whose error line
is this one.  If only line feeds end a line up to two lines below, the line is among those of the
snippet, which are the lines of the view at most two lines away, in order and with their numbers. -/
theorem generate_error_snippet {source : Text} {name : Option Text} {e : ViewError}
    (h : generate source name = .error e) :
    ∃ fault u w l, e = fault.toError name source ∧
      Blamed source fault u w ∧ StandsOn source u w fault.line l ∧
      ∃ s, Place.snippet? { line := some fault.line, name, source := some source } = some s ∧
        e.Shows s ∧ s.errorLine = fault.line ∧
        ((∀ l' ∈ (Text.cutAtLineFeeds source).take (fault.line + 2).toNat,
            ∀ c ∈ l', endsLine c = false) →
          (fault.line, l) ∈ s.lines ∧
          s.lines = (numberedLines source).filter fun p =>
            fault.line - 2 ≤ p.1 ∧ p.1 ≤ fault.line + 2) := by
  obtain ⟨halt, hhalt, rfl⟩ := run_of_generate_error h
  obtain ⟨u, w, l, hblamed, hline, hne⟩ := exists_blamed hhalt
  have hsource : source ≠ [] := by
    obtain ⟨v, hv⟩ := hline.split
    rw [hv]
    simp [hne]
  have hnumber : halt.fault.line ≠ 0 := by
    have := hline.number
    omega
  refine ⟨halt.fault, u, w, l, rfl, hblamed, hline, .around source halt.fault.line 2,
    snippet?_eq_around hsource hnumber name, shows_around hsource hnumber name, rfl, fun hplain => ?_⟩
  have hlines := Snippet.lines_around hplain
  refine ⟨?_, hlines⟩
  rw [hlines, List.mem_filter]
  exact ⟨mem_numberedLines hline hne, decide_eq_true (by omega)⟩

/-- A code tag that closes a block too many on its second line, and a form feed far below. -/
theorem generate_error_snippet_end :
    let source : Text := "<p>\n<% if x: %>\n  a\n<% end\nend %>\nb\nc\nd\x0c"
    let e : ViewError := .uncompilable "'end' without an open block"
      { line := some 5, source := some source }
      (some "_append(\"<p>\\n\")\nif x:\n    pass\n    _append(\"\\n  a\\n\")\n") .unexpectedEnd
    generate source none = .error e ∧
      (∀ l ∈ (Text.cutAtLineFeeds source).take 7, ∀ c ∈ l, endsLine c = false) ∧
      ∃ u w s, StandsOn source u w 5 "end %>" ∧ e.Shows s ∧ s.errorLine = 5 ∧
        s.lines = [((3 : Int), ("  a" : Text)), (4, "<% end"), (5, "end %>"), (6, "b"), (7, "c")] := by
  intro source e
  have hgenerate : generate source none = .error e := by decide +kernel
  have hall : (((Text.cutAtLineFeeds source).take 7).all fun l => l.all fun c => !endsLine c) := by
    decide +kernel
  have hplain : ∀ l ∈ (Text.cutAtLineFeeds source).take 7, ∀ c ∈ l, endsLine c = false :=
    fun l hl c hc => by simpa using List.all_eq_true.1 (List.all_eq_true.1 hall l hl) c hc
  obtain ⟨fault, u, w, l, he, -, hline, s, -, hshows, herror, hsnippet⟩ :=
    generate_error_snippet hgenerate
  have hfive : fault.line = 5 := by
    have hlines := congrArg
      (fun | .uncompilable _ place _ _ => place.line | _ => none : ViewError → Option Int) he
    cases fault with
    | unmatchedTag tag n => cases hlines
    | noExpression n code => exact (Option.some.inj hlines).symm
    | unexpectedEnd n code => exact (Option.some.inj hlines).symm
  rw [hfive] at hline herror hsnippet
  obtain ⟨hmem, hlines⟩ := hsnippet hplain
  have haround : s.lines =
      [((3 : Int), ("  a" : Text)), (4, "<% end"), (5, "end %>"), (6, "b"), (7, "c")] :=
    hlines.trans (by decide +kernel)
  have hl : l = "end %>" := by
    rw [haround] at hmem
    simpa using hmem
  exact ⟨hgenerate, hplain, u, w, s, hl ▸ hline, hshows, herror, haround⟩

/-- A form feed does not end a line for the number of the error, but does so in the snippet: the line
that is marked is the rest of the line in front. -/
theorem form_feed_misplaces_error :
    let source : Text := "a\x0cb\n<%= "
    let place : Place := { line := some 2, source := some source }
    generate source none = .error (.unmatchedTag "<%=" place) ∧
      Text.cutAtLineFeeds source = ["a\x0cb", "<%= "] ∧
      place.snippet? = some { lines := [(1, "a"), (2, "b"), (3, "<%= ")], errorLine := 2 } := by
  decide +kernel

end Generator
end ViewEngine

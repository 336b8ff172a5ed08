/-
# Where a run stops

A run stops at an open marker that the look ahead refuses, at the text of an output tag that is blank
but for a semicolon, or at a line of code that closes a block where none is open.  Each time there is a
word of the view that is to blame: the open marker of the tag, or the line of code.  The line that is
noted for the error is the line of the view in which this word stands.

* `codeLines_fails`, `token_fails`: what lines of code and tokens complain about;
* `run_fails`: the token at which a run stops;
* `Blamed`, `exists_blamed`: the word, and its line.
-/
import ViewEngine.Proofs.Code.Correspondence
import ViewEngine.Proofs.Code.Lines
import ViewEngine.Proofs.Code.Validation
import ViewEngine.Proofs.Text.Numbering

namespace ViewEngine

open Text (StandsOn)

/-- The line on which a fault is noted. -/
def GenerationFault.line : GenerationFault → Int
  | unmatchedTag _ n => n
  | noExpression n _ => n
  | unexpectedEnd n _ => n

/-- The line of code, without blanks at its ends, closes a block. -/
def ClosesBlock (l : Text) : Prop := isEndLine l = true ∨ isClauseLine l = true

lemma ClosesBlock.ne_nil {l : Text} (h : ClosesBlock l) : l ≠ [] := by
  rintro rfl
  rcases h with h | h <;> exact absurd h (by decide)

namespace Generator

variable {g : Generator} {halt : Halt} {t : Text} {n : Int}

/-! ## Text -/

lemma closeBlock_fails (h : g.closeBlock n = .error halt) :
    halt = ⟨g, .unexpectedEnd n g.listing.code⟩ := by
  unfold closeBlock at h
  split at h
  · cases h
  · exact (Except.error.inj h).symm

/-- A line of code only fails if it closes a block. -/
lemma codeLine_fails (h : g.codeLine t n = .error halt) :
    ClosesBlock (Text.strip t) ∧ halt = ⟨g, .unexpectedEnd n g.listing.code⟩ := by
  unfold codeLine at h
  dsimp only at h
  split at h
  · cases h
  split at h
  · cases h
  split at h
  · next hend => exact ⟨.inl hend, closeBlock_fails h⟩
  split at h
  · next hclause =>
    rcases hclose : g.closeBlock n with e | g₁
    · rw [hclose] at h
      cases h
      exact ⟨.inr hclause, closeBlock_fails hclose⟩
    · rw [hclose] at h
      cases h
  · cases h

/-- Of lines of code, one fails that closes a block. -/
lemma codeLines_fails {ls : List Text} (h : g.codeLines ls n = .error halt) :
    ∃ before l after code, ls = before ++ l :: after ∧ ClosesBlock (Text.strip l) ∧
      halt.fault = .unexpectedEnd (n + before.length) code := by
  induction ls generalizing g n with
  | nil => cases h
  | cons l ls ih =>
    rw [codeLines] at h
    rcases hline : g.codeLine l n with e | g₁
    · rw [hline] at h
      cases h
      obtain ⟨hcloses, rfl⟩ := codeLine_fails hline
      exact ⟨[], l, ls, g.listing.code, rfl, hcloses, by simp⟩
    · rw [hline] at h
      obtain ⟨before, l', after, code, rfl, hcloses, hfault⟩ := ih h
      have hnumber : n + 1 + (before.length : Int) = n + (l :: before).length := by
        rw [List.length_cons]
        omega
      exact ⟨l :: before, l', after, code, rfl, hcloses, hnumber ▸ hfault⟩

/-- The line is a line of the text, since the line that closes a comment is blank. -/
lemma exists_line_of_closeComment {l : Text} {before after : List Text}
    (h : Text.cutAtLineFeeds (closeComment t) = before ++ l :: after) (hl : l ≠ []) :
    ∃ after', Text.cutAtLineFeeds t = before ++ l :: after' := by
  unfold closeComment at h
  split at h
  · rw [cutAtLineFeeds_feed] at h
    rcases List.eq_nil_or_concat after with rfl | ⟨after', z, rfl⟩
    · exact absurd (List.cons.inj (List.append_inj' h rfl).2).1.symm hl
    · rw [List.concat_eq_append, ← List.cons_append, ← List.append_assoc] at h
      exact ⟨after', (List.append_inj' h rfl).1⟩
  · exact ⟨after, h⟩

/-- **A text fails as code that closes a block, or as an expression that is blank.** -/
lemma text_fails (h : g.text t n = .error halt) :
    (g.mode = .eval ∧ ∃ before l after code, Text.cutAtLineFeeds t = before ++ l :: after ∧
      ClosesBlock (Text.strip l) ∧ halt.fault = .unexpectedEnd (n + before.length) code) ∨
    ∃ shown code, g.mode.shows? = some shown ∧ Text.blank (stripSemicolon t) = true ∧
      halt.fault = .noExpression n code := by
  unfold text at h
  split at h
  · cases h
  · cases h
  · cases h
  · next hmode =>
    obtain ⟨before, l, after, code, hcut, hcloses, hfault⟩ := codeLines_fails h
    have hl : l ≠ [] := by
      rintro rfl
      exact hcloses.ne_nil rfl
    obtain ⟨after', hcut'⟩ := exists_line_of_closeComment hcut hl
    exact .inl ⟨hmode, before, l, after', code, hcut', hcloses, hfault⟩
  · next hmode =>
    split at h
    · next hblank =>
      cases h
      exact .inr ⟨_, _, by rw [hmode]; rfl, hblank, rfl⟩
    · cases h
  · next hmode =>
    split at h
    · next hblank =>
      cases h
      exact .inr ⟨_, _, by rw [hmode]; rfl, hblank, rfl⟩
    · cases h

/-! ## Tokens -/

/-- Of tokens, only runs of text fail. -/
lemma token_fails {u : Token} (h : g.token u = .error halt) :
    u.kind = .text ∧ g.text u.value u.line = .error halt := by
  unfold token at h
  split at h
  · next hkind => exact ⟨hkind, h⟩
  unfold marker at h
  split at h
  · dsimp only at h
    split at h <;> cases h
  split at h
  · split at h
    · cases h
    -- the text of the marker is no code that closes a block, and is not blank
    · rcases text_fails h with ⟨-, before, l, after, code, hcut, hcloses, -⟩ | ⟨-, -, -, hblank, -⟩
      · have hsingle : Text.cutAtLineFeeds "%>" = [("%>" : Text)] := by decide +kernel
        rw [hsingle] at hcut
        obtain ⟨rfl, rfl⟩ : before = [] ∧ l = "%>" := by
          cases before with
          | nil => exact ⟨rfl, (List.cons.inj hcut).1.symm⟩
          | cons _ before => simp at hcut
        rcases hcloses with hcloses | hcloses
        · exact absurd hcloses (by decide +kernel)
        · exact absurd hcloses (by decide +kernel)
      · exact absurd hblank (by decide +kernel)
  · cases h

/-- **The token at which a run stops.** -/
theorem run_fails {prev : Option Token} {ts : List Token} (h : g.run ts = .error halt)
    (hp : Poised prev g.mode ts) :
    ∃ before u after g₁, ts = before ++ u :: after ∧ g.steps before = .ok g₁ ∧
      Poised (before.getLast?.or prev) g₁.mode (u :: after) ∧
      (Unclosed u after ∧ halt.fault = .unmatchedTag u.value u.line ∨ g₁.token u = .error halt) := by
  induction ts generalizing g prev with
  | nil => cases h
  | cons u us ih =>
    rw [run] at h
    split at h
    · next hunclosed =>
      cases h
      refine ⟨[], u, us, g, rfl, rfl, hp, .inl ⟨?_, rfl⟩⟩
      simpa [Unclosed] using hunclosed
    next hclosed =>
    rcases htoken : g.token u with e | g₁
    · rw [htoken] at h
      cases h
      exact ⟨[], u, us, g, rfl, rfl, hp, .inr htoken⟩
    · rw [htoken] at h
      obtain ⟨before, v, after, g₂, rfl, hsteps, hpoised, hstop⟩ :=
        ih h (hp.token (by simpa using hclosed) htoken)
      refine ⟨u :: before, v, after, g₂, rfl, ?_, ?_, hstop⟩
      · rw [steps, htoken]
        exact hsteps
      · rwa [List.getLast?_cons, Option.some_or, ← Option.or_some]

/-! ## Words to blame -/

/-- The word `w` of the source, which stands behind `u`, is to blame for a fault: everything in front of
the tag has been read, and the word is the open marker of the tag, or a line of its code. -/
inductive Blamed (source : Text) : GenerationFault → Text → Text → Prop
  /-- An open marker that the look ahead refuses. -/
  | unmatchedTag {before t after g} (h : tokens source = before ++ t :: after)
      (hread : steps {} before = .ok g) (hopen : Unclosed t after) :
      Blamed source (.unmatchedTag t.value t.line) (spelled before) t.value
  /-- The open marker of an output tag that is blank. -/
  | noExpression {before u t after g m shown} (h : tokens source = before ++ u :: t :: after)
      (hread : steps {} (before ++ [u]) = .ok g) (hu : u.kind = .tag m) (hm : m.shows? = some shown)
      (ht : t.kind = .text) (hblank : Text.blank (stripSemicolon t.value) = true) (code : Text) :
      Blamed source (.noExpression t.line code) (spelled before) u.value
  /-- A line of a code tag that closes a block. -/
  | unexpectedEnd {before u t after g x l k} (h : tokens source = before ++ u :: t :: after)
      (hread : steps {} (before ++ [u]) = .ok g) (hu : u.opens? = some .eval) (ht : t.kind = .text)
      (hline : StandsOn t.value x (Text.strip l) (k + 1) l) (hcloses : ClosesBlock (Text.strip l))
      (code : Text) :
      Blamed source (.unexpectedEnd (t.line + k) code) (spelled (before ++ [u]) ++ x) (Text.strip l)

lemma shows?_of_mode? {m : Marker} {mode : Mode} {shown : Text → Text} (hm : m.mode? = some mode)
    (hmode : mode.shows? = some shown) : m.shows? = some shown := by
  cases m <;> cases hm <;> exact hmode

/-- Code and expressions are only read behind an open marker. -/
lemma opened_of_poised {before after : List Token} {u : Token} {mode : Mode}
    (hp : Poised before.getLast? mode (u :: after)) (hu : u.kind = .text) (hmode : ¬ mode.Inert) :
    before.getLast?.bind Token.opens? = some mode := by
  cases hp with
  | outside hinert _ => exact absurd hinert hmode
  | opened hprev _ => exact hprev
  | closing hclose =>
    rw [hu] at hclose
    cases hclose

section

variable {source : Text} {before after : List Token} {u t : Token} {g : Generator}

/-- A word in a token stands on the line of the token, if it is not further down in it. -/
lemma exists_line {x w v : Text} (h : tokens source = before ++ t :: after) (hw : '\n' ∉ w)
    (ht : t.value = x ++ (w ++ v)) :
    ∃ l, StandsOn source (spelled before ++ x) w (t.line + Text.lineFeeds x) l := by
  have hsource : source = (spelled before ++ x) ++ (w ++ (v ++ spelled after)) := by
    conv_lhs => rw [eq_of_tokens h, ht]
    simp
  have hnumber : t.line + Text.lineFeeds x = Text.lineFeeds (spelled before ++ x) + 1 := by
    rw [line_of_tokens h, Text.lineBehind, Text.lineFeeds_append]
    omega
  rw [hnumber]
  exact Text.exists_standsOn hw hsource

lemma exists_line_marker {m : Marker} (h : tokens source = before ++ t :: after)
    (hm : t.kind = .tag m) : t.value ≠ [] ∧ ∃ l, StandsOn source (spelled before) t.value t.line l := by
  have hvalue : t.value = m.text :=
    value_of_tokens (h ▸ List.mem_append_right _ List.mem_cons_self) hm
  have hfeed : '\n' ∉ m.text := List.count_eq_zero.1 m.lineFeeds_text
  obtain ⟨l, hl⟩ := exists_line (x := []) (v := []) h (hvalue ▸ hfeed) (by simp)
  have hline : t.line + Text.lineFeeds [] = t.line := Int.add_zero _
  rw [List.append_nil, hline] at hl
  exact ⟨hvalue ▸ m.text_ne_nil, l, hl⟩

/-- **Where a run stops, a word is to blame**, and the fault is noted on its line. -/
theorem exists_blamed (h : run {} (tokens source) = .error halt) :
    ∃ u w l, Blamed source halt.fault u w ∧ StandsOn source u w halt.fault.line l ∧ w ≠ [] := by
  have hbegin : Poised none ({} : Generator).mode (tokens source) := .outside (.inl rfl) rfl
  obtain ⟨before, t, after, g, hsplit, hread, hp, hstop⟩ := run_fails h hbegin
  rw [Option.or_none] at hp
  rcases hstop with ⟨hopen, hfault⟩ | hstop
  -- an open marker
  · obtain ⟨m, hm⟩ : ∃ m, t.kind = .tag m := by
      rcases hkind : t.kind with _ | m
      · have hneeds := hopen.1
        rw [needsClose, hkind] at hneeds
        cases hneeds
      · exact ⟨m, rfl⟩
    obtain ⟨hne, l, hl⟩ := exists_line_marker hsplit hm
    rw [hfault]
    exact ⟨_, _, l, .unmatchedTag hsplit hread hopen, hl, hne⟩
  obtain ⟨hkind, htext⟩ := token_fails hstop
  rcases text_fails htext with ⟨hmode, ls, l, ls', code, hcut, hcloses, hfault⟩ |
    ⟨shown, code, hshows, hblank, hfault⟩
  -- a line of code
  · have hprev := opened_of_poised hp hkind (by rw [hmode]; rintro (h | h) <;> cases h)
    obtain ⟨u, hu, hopens⟩ := Option.bind_eq_some_iff.1 hprev
    obtain ⟨front, rfl⟩ := List.getLast?_eq_some_iff.1 hu
    obtain ⟨x, hx⟩ := Text.exists_standsOn_strip hcut
    obtain ⟨v, hv⟩ := hx.split
    have hfeed : '\n' ∉ Text.strip l := fun hmem =>
      (Text.mem_cutAtLineFeeds (hcut ▸ List.mem_append_right _ List.mem_cons_self)).1
        (Text.mem_of_mem_strip hmem)
    obtain ⟨l', hl'⟩ := exists_line hsplit hfeed hv
    have hsplit' : tokens source = front ++ u :: t :: after := by rw [hsplit]; simp
    have hnumber : (ls.length : Int) = Text.lineFeeds x := by
      have := hx.number
      omega
    rw [hfault]
    refine ⟨_, _, l', .unexpectedEnd hsplit' hread (hmode ▸ hopens) hkind hx hcloses code, ?_,
      hcloses.ne_nil⟩
    rw [GenerationFault.line, hnumber]
    exact hl'
  -- an expression
  · have hprev := opened_of_poised hp hkind (by rintro (h | h) <;> rw [h] at hshows <;> cases hshows)
    obtain ⟨front, u, m, rfl, hu, -, hm, hline⟩ := exists_openMarker hprev fun v hv m hm =>
      value_of_tokens (hsplit ▸ List.mem_append_left _ hv) hm
    have hsplit' : tokens source = front ++ u :: t :: after := by rw [hsplit]; simp
    obtain ⟨hne, l, hl⟩ := exists_line_marker hsplit' hu
    have hsame : t.line = u.line := by
      rw [line_of_tokens hsplit, hline, line_of_tokens hsplit']
    rw [hfault]
    refine ⟨_, _, l, .noExpression hsplit' hread hu (shows?_of_mode? hm hshows) hkind hblank code,
      ?_, hne⟩
    rw [GenerationFault.line, hsame]
    exact hl

end

end Generator
end ViewEngine

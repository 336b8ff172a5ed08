/-
# What one token adds to the code

A token adds statements behind those that are there and never touches one of them.  Which statements
it adds is said by relations that follow the token, not the state of the generator: the state only
decides the mode in which a text is read and the depth at which a statement stands.

* `codeLine_cases`: what a line of a code tag can do;
* `text_adds`, `token_adds`: what a text, and what a token, adds in a mode;
* `run_eq_ok_iff`: a run is the steps of its tokens, if every tag is closed.
-/
import Mathlib.Tactic.Common
import Mathlib.Tactic.Lemma
import ViewEngine.Code.Generator

namespace ViewEngine

/-- Is text appended as it is in this mode? -/
def Mode.Inert (mode : Mode) : Prop := mode = .plain ∨ mode = .literal

/-! ## Added statements -/

/-- What the lines of a code tag add, the first of them standing on line `n`. -/
inductive AddedLines : Int → List Text → List Statement → Prop
  | nil {n} : AddedLines n [] []
  /-- A blank line, or one that closes a block. -/
  | silent {n l ls ss} (h : Text.strip l = [] ∨ isEndLine (Text.strip l) = true)
      (rest : AddedLines (n + 1) ls ss) : AddedLines n (l :: ls) ss
  /-- A line that stays in its block. -/
  | line {n l ls ss} (d : Nat) (h : Text.strip l ≠ []) (rest : AddedLines (n + 1) ls ss) :
      AddedLines n (l :: ls) (⟨d, Text.strip l, n⟩ :: ss)
  /-- A line whose code ends in a colon opens a block. -/
  | header {n l ls ss} (d : Nat) (pending : List Char)
      (h : opensBlock (Brackets.scan (Text.strip l) pending).code = true)
      (rest : AddedLines (n + 1) ls ss) :
      AddedLines n (l :: ls) (⟨d, Text.strip l, n⟩ :: ⟨d + 1, "pass", n⟩ :: ss)

/-- What the text `t`, which stands on line `n`, adds in a mode. -/
inductive Added (n : Int) (t : Text) : Mode → List Statement → Prop
  | comment : Added n t .comment []
  | eval {ss} (h : AddedLines n (Text.cutAtLineFeeds (closeComment t)) ss) : Added n t .eval ss
  | escaped (d : Nat) :
      Added n t .escaped [⟨d, appendEscaped (stripSemicolon (closeComment t)), n⟩]
  | raw (d : Nat) : Added n t .raw [⟨d, appendRaw (stripSemicolon (closeComment t)), n⟩]
  /-- Nothing is left of the text. -/
  | nothing {mode} (hmode : mode.Inert) (h : t = [] ∨ Text.afterLineBreak? t = some []) :
      Added n t mode []
  /-- The whole text. -/
  | whole {mode} (hmode : mode.Inert) (h : t ≠ []) (d : Nat) :
      Added n t mode [⟨d, appendLiteral t, n⟩]
  /-- The text without the line break at its front. -/
  | trimmed {mode v} (hmode : mode.Inert) (hv : Text.afterLineBreak? t = some v) (h : v ≠ [])
      (d : Nat) : Added n t mode [⟨d, appendLiteral v, n + 1⟩]

/-- What a token adds in a mode. -/
inductive AddedBy (t : Token) : Mode → List Statement → Prop
  | text {mode ss} (hkind : t.kind = .text) (h : Added t.line t.value mode ss) :
      AddedBy t mode ss
  | opening {mode m} (hkind : t.kind = .tag m) (hopen : m.isOpen = true) (h : m ≠ .openLiteral) :
      AddedBy t mode []
  | openLiteral {mode} (hkind : t.kind = .tag .openLiteral) (d : Nat) :
      AddedBy t mode [⟨d, appendLiteral "<%", t.line⟩]
  | closeLiteral (hkind : t.kind = .tag .closeLiteral) (d : Nat) :
      AddedBy t .literal [⟨d, appendLiteral "%>", t.line⟩]
  /-- Outside of literal mode the marker `%%>` is read as the text `%>`. -/
  | percent {mode ss} (hkind : t.kind = .tag .closeLiteral) (hmode : mode ≠ .literal)
      (h : Added t.line "%>" mode ss) : AddedBy t mode ss
  | closing {mode m} (hkind : t.kind = .tag m) (hclose : m.isClose = true) (hmode : mode ≠ .literal) :
      AddedBy t mode []
  /-- In literal mode a close marker is read as text. -/
  | closeAsText {m ss} (hkind : t.kind = .tag m) (hclose : m.isClose = true)
      (h : Added t.line t.value .literal ss) : AddedBy t .literal ss

namespace Generator

variable {g g' : Generator} {t : Text} {n : Int}

/-! ## Literal text -/

/-- Appending a text only adds to the listing. -/
lemma output_eq (g : Generator) (t : Text) (n : Int) :
    ∃ ss, g.output t n = { g with
      listing := { g.listing with statements := g.listing.statements ++ ss }, trim := false } ∧
      ∀ mode : Mode, mode.Inert → Added n t mode ss := by
  -- what is left of the text, and the line it stands on
  have hleft : ∀ v k, (v = t ∧ k = n) ∨ (Text.afterLineBreak? t = some v ∧ k = n + 1) →
      ∃ ss, (if v.isEmpty then ({ g with trim := false } : Generator)
          else ({ g with trim := false } : Generator).emit (appendLiteral v) k) = { g with
        listing := { g.listing with statements := g.listing.statements ++ ss }, trim := false } ∧
        ∀ mode : Mode, mode.Inert → Added n t mode ss := by
    intro v k hv
    cases v with
    | nil =>
      refine ⟨[], by simp, fun mode hmode => .nothing hmode ?_⟩
      rcases hv with ⟨h, -⟩ | ⟨h, -⟩
      · exact .inl h.symm
      · exact .inr h
    | cons c v =>
      refine ⟨[⟨g.listing.depth, appendLiteral (c :: v), k⟩], rfl, fun mode hmode => ?_⟩
      rcases hv with ⟨rfl, rfl⟩ | ⟨h, rfl⟩
      · exact .whole hmode (List.cons_ne_nil c v) _
      · exact .trimmed hmode h (List.cons_ne_nil c v) _
  unfold output
  cases g.trim with
  | false => exact hleft t n (.inl ⟨rfl, rfl⟩)
  | true =>
    cases hbreak : Text.afterLineBreak? t with
    | none => exact hleft t n (.inl ⟨rfl, rfl⟩)
    | some v => exact hleft v (n + 1) (.inr ⟨hbreak, rfl⟩)

/-! ## Lines of code -/

lemma closeBlock_eq (h : g.closeBlock n = .ok g') :
    0 < g.listing.depth ∧
      g' = { g with listing := { g.listing with depth := g.listing.depth - 1 } } := by
  unfold closeBlock Listing.dedent? at h
  cases hd : g.listing.depth with
  | zero =>
    rw [hd] at h
    cases h
  | succ d =>
    rw [hd] at h
    cases h
    exact ⟨Nat.succ_pos d, rfl⟩

/-- What a line of a code tag can do: nothing, close a block, or stand in the code, perhaps after a
block was closed on its account. -/
lemma codeLine_cases {raw : Text} (h : g.codeLine raw n = .ok g') :
    (Text.strip raw = [] ∧ g' = g) ∨
    (isEndLine (Text.strip raw) = true ∧ g.closeBlock n = .ok g') ∨
    (Text.strip raw ≠ [] ∧ ∃ d, g' =
      ({ g with listing := { g.listing with depth := d } } : Generator).addCode
        (Text.strip raw) n) := by
  unfold codeLine at h
  dsimp only at h
  split at h
  · next hempty =>
    cases h
    exact .inl ⟨List.isEmpty_iff.1 hempty, rfl⟩
  next hempty =>
  have hne : Text.strip raw ≠ [] := fun hnil => hempty (List.isEmpty_iff.2 hnil)
  split at h
  · cases h
    exact .inr (.inr ⟨hne, g.listing.depth, rfl⟩)
  split at h
  · next hend => exact .inr (.inl ⟨hend, h⟩)
  split at h
  · rcases hclosed : g.closeBlock n with _ | g₀
    · rw [hclosed] at h
      cases h
    · rw [hclosed] at h
      cases h
      obtain ⟨-, rfl⟩ := closeBlock_eq hclosed
      exact .inr (.inr ⟨hne, _, rfl⟩)
  · cases h
    exact .inr (.inr ⟨hne, g.listing.depth, rfl⟩)

/-- A line in the code, and the first line of the block if it opens one. -/
lemma addCode_eq (g : Generator) (code : Text) (n : Int) :
    (∃ pending, g.addCode code n = { g with
      listing := { g.listing with
        statements := g.listing.statements ++ [⟨g.listing.depth, code, n⟩] },
      pending := pending }) ∨
    (∃ pending, opensBlock (Brackets.scan code g.pending).code = true ∧
      g.addCode code n = { g with
        listing := {
          statements := g.listing.statements ++
            [⟨g.listing.depth, code, n⟩, ⟨g.listing.depth + 1, "pass", n⟩]
          depth := g.listing.depth + 1 },
        pending := pending }) := by
  unfold addCode
  dsimp only
  split
  · next h =>
    rw [Bool.and_eq_true] at h
    refine .inr ⟨(Brackets.scan code g.pending).pending, h.2, ?_⟩
    simp [emit, Listing.add, Listing.indent]
  · exact .inl ⟨_, rfl⟩

/-- The lines of a code tag add statements and keep the mode. -/
lemma codeLines_adds {ls : List Text} (h : g.codeLines ls n = .ok g') :
    g'.mode = g.mode ∧ ∃ ss, g'.listing.statements = g.listing.statements ++ ss ∧
      AddedLines n ls ss := by
  induction ls generalizing g n with
  | nil =>
    cases h
    exact ⟨rfl, [], (List.append_nil _).symm, .nil⟩
  | cons raw ls ih =>
    unfold codeLines at h
    rcases hline : g.codeLine raw n with _ | g₁
    · rw [hline] at h
      cases h
    rw [hline] at h
    obtain ⟨hmode, ss, hss, hrest⟩ := ih h
    rcases codeLine_cases hline with ⟨hblank, rfl⟩ | ⟨hend, hclosed⟩ | ⟨hne, d, rfl⟩
    · exact ⟨hmode, ss, hss, .silent (.inl hblank) hrest⟩
    · obtain ⟨-, rfl⟩ := closeBlock_eq hclosed
      exact ⟨hmode, ss, hss, .silent (.inr hend) hrest⟩
    · rcases addCode_eq { g with listing := { g.listing with depth := d } } (Text.strip raw) n with
        ⟨pending, heq⟩ | ⟨pending, hopens, heq⟩
      · rw [heq] at hss hmode
        exact ⟨hmode, _, by rw [hss, List.append_assoc]; rfl, .line d hne hrest⟩
      · rw [heq] at hss hmode
        exact ⟨hmode, _, by rw [hss, List.append_assoc]; rfl, .header d _ hopens hrest⟩

/-! ## Texts and tokens -/

/-- **What a text adds.** -/
theorem text_adds (h : g.text t n = .ok g') :
    g'.mode = g.mode ∧ ∃ ss, g'.listing.statements = g.listing.statements ++ ss ∧
      Added n t g.mode ss := by
  have hinert : g.mode.Inert → g' = g.output t n →
      g'.mode = g.mode ∧ ∃ ss, g'.listing.statements = g.listing.statements ++ ss ∧
        Added n t g.mode ss := by
    rintro hmode rfl
    obtain ⟨ss, heq, hadded⟩ := output_eq g t n
    rw [heq]
    exact ⟨rfl, ss, rfl, hadded _ hmode⟩
  unfold text at h
  split at h
  · next hmode =>
    cases h
    exact hinert (.inl hmode) rfl
  · next hmode =>
    cases h
    exact hinert (.inr hmode) rfl
  · next hmode =>
    cases h
    rw [hmode]
    exact ⟨rfl, [], (List.append_nil _).symm, .comment⟩
  · next hmode =>
    obtain ⟨hkeep, ss, hss, hadded⟩ := codeLines_adds h
    rw [hmode]
    exact ⟨by rw [hkeep, hmode], ss, hss, .eval hadded⟩
  · next hmode =>
    split at h
    · cases h
    · cases h
      rw [hmode]
      exact ⟨hmode, _, rfl, .escaped _⟩
  · next hmode =>
    split at h
    · cases h
    · cases h
      rw [hmode]
      exact ⟨hmode, _, rfl, .raw _⟩

/-- The mode behind a marker. -/
def modeBehind (mode : Mode) (m : Marker) : Mode :=
  match m.mode? with
  | some opened => opened
  | none => if m = .closeLiteral ∧ mode ≠ .literal then mode else .plain

lemma modeBehind_of_some {mode opened : Mode} {m : Marker} (h : m.mode? = some opened) :
    modeBehind mode m = opened := by
  rw [modeBehind, h]

lemma modeBehind_of_none {mode : Mode} {m : Marker} (h : m.mode? = none) :
    modeBehind mode m = if m = .closeLiteral ∧ mode ≠ .literal then mode else .plain := by
  rw [modeBehind, h]

/-- What a marker adds, and the mode behind it. -/
lemma marker_adds {m : Marker} {u : Token} (hkind : u.kind = .tag m) (h : g.marker m u = .ok g') :
    g'.mode = modeBehind g.mode m ∧ ∃ ss, g'.listing.statements = g.listing.statements ++ ss ∧
      AddedBy u g.mode ss := by
  unfold marker at h
  split at h
  -- markers that open a tag
  · next opened hopened =>
    rw [modeBehind_of_some hopened]
    have hopen : m.isOpen = true := by
      cases m <;> simp_all [Marker.mode?, Marker.isOpen]
    dsimp only at h
    split at h
    · next hm =>
      cases h
      subst hm
      exact ⟨rfl, _, rfl, .openLiteral hkind _⟩
    · next hm =>
      cases h
      exact ⟨rfl, [], (List.append_nil _).symm, .opening hkind hopen hm⟩
  next hnone =>
  rw [modeBehind_of_none hnone]
  split at h
  -- the marker `%%>`
  · next hm =>
    subst hm
    split at h
    · next hmode =>
      cases h
      rw [hmode]
      exact ⟨by simp, _, rfl, .closeLiteral hkind _⟩
    · next hmode =>
      obtain ⟨hkeep, ss, hss, hadded⟩ := text_adds h
      exact ⟨by simp [hkeep, hmode], ss, hss, .percent hkind hmode hadded⟩
  -- markers that close a tag
  · next hm =>
    have hclose : m.isClose = true := by
      cases m <;> simp_all [Marker.mode?, Marker.isClose]
    dsimp only at h
    split at h
    · next hmode =>
      cases h
      obtain ⟨ss, heq, hadded⟩ := output_eq g u.value u.line
      rw [hmode]
      refine ⟨by simp, ss, by rw [heq], .closeAsText hkind hclose (hadded _ (.inr rfl))⟩
    · next hmode =>
      cases h
      exact ⟨by simp [hm], [], (List.append_nil _).symm, .closing hkind hclose hmode⟩

/-- **What a token adds.** -/
theorem token_adds {u : Token} (h : g.token u = .ok g') :
    ∃ ss, g'.listing.statements = g.listing.statements ++ ss ∧ AddedBy u g.mode ss := by
  unfold token at h
  split at h
  · next hkind =>
    obtain ⟨-, ss, hss, hadded⟩ := text_adds h
    exact ⟨ss, hss, .text hkind hadded⟩
  · next m hkind => exact (marker_adds hkind h).2

/-! ## Several tokens -/

/-- Several tokens, one after the other. -/
def steps (g : Generator) : List Token → Except Halt Generator
  | [] => .ok g
  | t :: ts => do
    let g ← g.token t
    steps g ts

/-- Behind each open marker but `<%%` stand one token and a close marker. -/
def Closed : List Token → Prop
  | [] => True
  | t :: ts => (needsClose t = true → closesSecond ts = true) ∧ Closed ts

lemma steps_cons_ok {u : Token} {us : List Token} (h : g.steps (u :: us) = .ok g') :
    ∃ g₁, g.token u = .ok g₁ ∧ g₁.steps us = .ok g' := by
  unfold steps at h
  rcases htoken : g.token u with _ | g₁
  · rw [htoken] at h
    cases h
  · rw [htoken] at h
    exact ⟨g₁, rfl, h⟩

lemma steps_append_ok {us vs : List Token} (h : g.steps (us ++ vs) = .ok g') :
    ∃ g₁, g.steps us = .ok g₁ ∧ g₁.steps vs = .ok g' := by
  induction us generalizing g with
  | nil => exact ⟨g, rfl, h⟩
  | cons u us ih =>
    obtain ⟨g₁, htoken, hrest⟩ := steps_cons_ok h
    obtain ⟨g₂, hus, hvs⟩ := ih hrest
    refine ⟨g₂, ?_, hvs⟩
    rw [steps, htoken]
    exact hus

/-- **A run is the steps of its tokens, if every tag is closed.** -/
theorem run_eq_ok_iff {ts : List Token} : g.run ts = .ok g' ↔ Closed ts ∧ g.steps ts = .ok g' := by
  induction ts generalizing g with
  | nil => simp [run, steps, Closed]
  | cons t ts ih =>
    unfold run steps Closed
    cases hclose : needsClose t && !closesSecond ts with
    | true =>
      rw [Bool.and_eq_true, Bool.not_eq_true'] at hclose
      simp [hclose.1, hclose.2]
    | false =>
      have hpresent : needsClose t = true → closesSecond ts = true := by
        intro hneeds
        simpa [hneeds] using hclose
      cases g.token t with
      | error e => simp [bind, Except.bind]
      | ok g₁ =>
        rw [if_neg Bool.false_ne_true, and_assoc, and_iff_right hpresent]
        exact ih

/-- Tokens add statements behind those that are there. -/
lemma steps_grow {us : List Token} (h : g.steps us = .ok g') :
    ∃ ss, g'.listing.statements = g.listing.statements ++ ss := by
  induction us generalizing g with
  | nil =>
    cases h
    exact ⟨[], (List.append_nil _).symm⟩
  | cons u us ih =>
    obtain ⟨g₁, htoken, hrest⟩ := steps_cons_ok h
    obtain ⟨ss, hss, -⟩ := token_adds htoken
    obtain ⟨ss', hss'⟩ := ih hrest
    exact ⟨ss ++ ss', by rw [hss', hss, List.append_assoc]⟩

/-- Generated code is the listing that a run leaves. -/
lemma run_of_generate {source : Text} {name : Option Text} {code : Generated}
    (h : generate source name = .ok code) :
    ∃ last, run {} (tokens source) = .ok last ∧ code = last.listing.toGenerated name source := by
  unfold generate at h
  rcases hrun : run {} (tokens source) with _ | last
  · rw [hrun] at h
    cases h
  · rw [hrun] at h
    exact ⟨last, rfl, (Except.ok.inj h).symm⟩

/-- An error is the fault at which a run stops. -/
lemma run_of_generate_error {source : Text} {name : Option Text} {e : ViewError}
    (h : generate source name = .error e) :
    ∃ halt, run {} (tokens source) = .error halt ∧ e = halt.fault.toError name source := by
  unfold generate at h
  rcases hrun : run {} (tokens source) with halt | last
  · rw [hrun] at h
    exact ⟨halt, rfl, (Except.error.inj h).symm⟩
  · rw [hrun] at h
    cases h

end Generator
end ViewEngine

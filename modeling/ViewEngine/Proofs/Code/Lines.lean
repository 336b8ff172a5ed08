/-
# Every line of the code knows where it comes from

Generated code and its line map are two lists that grow side by side.  For a view in which a
carriage return only occurs in front of a line feed, this file shows that they stay in step, whatever
line breaks the view has in its expressions, and that the line that is noted for a statement is the
line of the view where the source of the statement begins.

* `Listing.lineBreaks_code`, `Listing.getElem_lineMap`: the map has an entry for each line of the
  code, which is the line of its statement;
* `Attributed`: from which place of the view each statement of a token comes;
* `generated_lines_attributed`: both together, for all generated code.
-/
import Mathlib.Tactic.Common
import Mathlib.Tactic.Lemma
import ViewEngine.Proofs.Code.Literal
import ViewEngine.Proofs.Code.Modes
import ViewEngine.Proofs.Markup.Tokens
import ViewEngine.Proofs.Text.Lines

namespace ViewEngine

open Text (Paired lineBehind)

/-! ## Listings -/

/-- No statement of the list has a carriage return without a line feed. -/
def AllPaired (ss : List Statement) : Prop := ∀ s ∈ ss, Paired s.text

lemma Statement.paired_code {s : Statement} (h : Paired s.text) : Paired s.code := by
  have hindent : Paired (List.replicate (4 * s.depth) ' ') :=
    Text.paired_of_not_mem fun hmem => absurd (List.eq_of_mem_replicate hmem) (by decide)
  exact (hindent.append h).append (by decide)

lemma Statement.lineFeeds_code (s : Statement) :
    Text.lineFeeds s.code = s.lineMap.length := by
  have hindent : Text.lineFeeds (List.replicate (4 * s.depth) ' ') = 0 :=
    List.count_eq_zero.2 fun hmem => absurd (List.eq_of_mem_replicate hmem) (by decide)
  rw [Statement.code, Text.lineFeeds_append, Text.lineFeeds_append, hindent, Statement.lineMap,
    List.length_replicate, Nat.zero_add]
  rfl

lemma lineBreaks_flatMap_code {ss : List Statement} (h : AllPaired ss) :
    Text.lineBreaks (ss.flatMap Statement.code) = (ss.flatMap Statement.lineMap).length := by
  have hpaired : Paired (ss.flatMap Statement.code) := by
    induction ss with
    | nil => exact Text.paired_nil
    | cons s ss ih =>
      rw [List.flatMap_cons]
      exact (Statement.paired_code (h s List.mem_cons_self)).append
        (ih fun u hu => h u (List.mem_cons_of_mem s hu))
  rw [Text.lineBreaks_of_paired hpaired]
  clear h hpaired
  induction ss with
  | nil => rfl
  | cons s ss ih =>
    rw [List.flatMap_cons, List.flatMap_cons, Text.lineFeeds_append, List.length_append, ih,
      Statement.lineFeeds_code]

namespace Listing

/-- **The line map has an entry for each line of the code.** -/
theorem lineBreaks_code {l : Listing} (h : AllPaired l.statements) :
    Text.lineBreaks l.code = l.lineMap.length :=
  lineBreaks_flatMap_code h

/-- **The entry for a line of the code is the line of its statement.** -/
theorem getElem_lineMap {l : Listing} (h : AllPaired l.statements) {pre post : List Statement}
    {s : Statement} (hl : l.statements = pre ++ s :: post) {k : Nat}
    (hk : k ≤ Text.lineBreaks s.text) :
    l.lineMap[Text.lineBreaks (pre.flatMap Statement.code) + k]? = some s.line := by
  rw [AllPaired, hl, List.forall_mem_append, List.forall_mem_cons] at h
  rw [lineMap, hl, lineBreaks_flatMap_code h.1, List.flatMap_append,
    List.getElem?_append_right (Nat.le_add_right _ k), Nat.add_sub_cancel_left, List.flatMap_cons]
  rw [Text.lineBreaks_of_paired h.2.1] at hk
  have hlength : k < s.lineMap.length := by
    rw [Statement.lineMap, List.length_replicate]
    omega
  rw [List.getElem?_append_left hlength, List.getElem?_eq_getElem hlength]
  simp [Statement.lineMap]

end Listing

/-! ## Line breaks in statements -/

lemma paired_closeComment {t : Text} (h : Paired t) : Paired (closeComment t) := by
  unfold closeComment
  split
  · exact h.append (by decide)
  · exact h

lemma paired_stripSemicolon {t : Text} (h : Paired t) : Paired (stripSemicolon t) := by
  unfold stripSemicolon
  split
  · next front hfront =>
    -- the text is `front`, the semicolon and the blanks behind it
    have hsplit : t = front.reverse ++ ';' :: (t.reverse.takeWhile Text.isBlank).reverse := by
      have hrev : t.reverse = t.reverse.takeWhile Text.isBlank ++ ';' :: front := by
        rw [← hfront]
        exact List.takeWhile_append_dropWhile.symm
      have := congrArg List.reverse hrev
      simpa using this
    rw [hsplit] at h
    have hfront : Paired front.reverse := h.left (by simp)
    have htail : Paired (t.reverse.takeWhile Text.isBlank).reverse :=
      (Text.paired_cons_iff.1 h.right).2
    exact hfront.append htail
  · exact h

lemma paired_wrap {u t v : Text} (hu : Paired u) (ht : Paired t) (hv : Paired v) :
    Paired (u ++ t ++ v) :=
  (hu.append ht).append hv

lemma paired_appendLiteral (t : Text) : Paired (appendLiteral t) :=
  paired_wrap (by decide)
    (Text.paired_of_not_mem (Literal.not_mem_escape (.inr (.inl rfl)) t)) (by decide)

lemma AddedLines.allPaired {t : Text} (ht : Paired t) {n : Int} {ls : List Text}
    {ss : List Statement} (h : AddedLines n ls ss) (hls : ∀ l ∈ ls, l ∈ Text.cutAtLineFeeds t) :
    AllPaired ss := by
  have hstrip : ∀ l ∈ Text.cutAtLineFeeds t, Paired (Text.strip l) := fun l hl =>
    Text.paired_of_not_mem (Text.not_mem_strip_line ht hl)
  induction h with
  | nil => exact List.forall_mem_nil _
  | silent _ _ ih => exact ih (List.forall_mem_cons.1 hls).2
  | line d _ _ ih =>
    obtain ⟨hl, hls⟩ := List.forall_mem_cons.1 hls
    exact List.forall_mem_cons.2 ⟨hstrip _ hl, ih hls⟩
  | header d _ _ _ ih =>
    obtain ⟨hl, hls⟩ := List.forall_mem_cons.1 hls
    have hpass : Paired "pass" := by decide
    exact List.forall_mem_cons.2 ⟨hstrip _ hl, List.forall_mem_cons.2 ⟨hpass, ih hls⟩⟩

lemma Added.allPaired {n : Int} {t : Text} {mode : Mode} {ss : List Statement} (ht : Paired t)
    (h : Added n t mode ss) : AllPaired ss := by
  have hexpression : Paired (stripSemicolon (closeComment t)) :=
    paired_stripSemicolon (paired_closeComment ht)
  cases h with
  | comment => exact List.forall_mem_nil _
  | eval h => exact h.allPaired (paired_closeComment ht) fun l hl => hl
  | escaped d =>
    exact List.forall_mem_singleton.2 (paired_wrap (by decide) hexpression (by decide))
  | raw d => exact List.forall_mem_singleton.2 (paired_wrap (by decide) hexpression (by decide))
  | nothing _ _ => exact List.forall_mem_nil _
  | whole _ _ d => exact List.forall_mem_singleton.2 (paired_appendLiteral t)
  | trimmed _ _ _ d => exact List.forall_mem_singleton.2 (paired_appendLiteral _)

/-- No marker has a carriage return. -/
lemma Marker.paired_text (m : Marker) : Paired m.text := by
  cases m <;> decide

section

variable {source : Text} (hsource : Paired source)

include hsource

/-- A token has no carriage return without a line feed, because the line feed cannot stand in the
next token. -/
lemma paired_of_tokens {before after : List Token} {t : Token}
    (h : tokens source = before ++ t :: after) : Paired t.value := by
  have hspelled := eq_of_tokens h
  rcases hkind : t.kind with _ | m
  · refine Paired.left (t := spelled after) (hspelled ▸ hsource).right ?_
    cases after with
    | nil => simp
    | cons u after =>
      obtain ⟨m, hm⟩ := tag_of_tokens h hkind
      have hu : u ∈ tokens source := by rw [h]; simp
      rw [spelled_cons, value_of_tokens hu hm]
      cases m <;> simp [Marker.text]
  · have ht : t ∈ tokens source := by rw [h]; simp
    rw [value_of_tokens ht hkind]
    exact m.paired_text

lemma AddedBy.allPaired {before after : List Token} {t : Token} {mode : Mode} {ss : List Statement}
    (h : tokens source = before ++ t :: after) (hadded : AddedBy t mode ss) : AllPaired ss := by
  have ht := paired_of_tokens hsource h
  cases hadded with
  | text _ h => exact h.allPaired ht
  | opening _ _ _ => exact List.forall_mem_nil _
  | openLiteral _ d => exact List.forall_mem_singleton.2 (paired_appendLiteral _)
  | closeLiteral _ d => exact List.forall_mem_singleton.2 (paired_appendLiteral _)
  | percent _ _ h => exact h.allPaired (by decide)
  | closing _ _ _ => exact List.forall_mem_nil _
  | closeAsText _ _ h => exact h.allPaired ht

end

/-! ## Where statements come from -/

/-- What the lines of a code tag add, with `front` in front of the first of them: each statement
stands on the line of the code that it was made from, and so does the first line of a block. -/
inductive LinesBehind : Text → List Text → List Statement → Prop
  | nil {front} : LinesBehind front [] []
  | silent {front l ls ss} (h : Text.strip l = [] ∨ isEndLine (Text.strip l) = true)
      (rest : LinesBehind (front ++ (l ++ ['\n'])) ls ss) : LinesBehind front (l :: ls) ss
  | line {front l ls ss} (d : Nat) (rest : LinesBehind (front ++ (l ++ ['\n'])) ls ss) :
      LinesBehind front (l :: ls) (⟨d, Text.strip l, lineBehind front⟩ :: ss)
  | header {front l ls ss} (d : Nat) (pending : List Char)
      (h : opensBlock (Brackets.scan (Text.strip l) pending).code = true)
      (rest : LinesBehind (front ++ (l ++ ['\n'])) ls ss) :
      LinesBehind front (l :: ls)
        (⟨d, Text.strip l, lineBehind front⟩ :: ⟨d + 1, "pass", lineBehind front⟩ :: ss)

/-- From which place of the view each statement comes that the token `t` adds in a mode, behind the
tokens `before`. -/
inductive Attributed (before : List Token) (t : Token) : Mode → List Statement → Prop
  | nothing {mode} : Attributed before t mode []
  /-- Text outside of tags: from its first character, behind a line break that was trimmed. -/
  | literal {mode lead v} (hkind : t.kind = .text) (hmode : mode.Inert) (h : t.value = lead ++ v)
      (hlead : lead ∈ [[], ['\n'], ['\r', '\n']]) (hv : v ≠ []) (d : Nat) :
      Attributed before t mode [⟨d, appendLiteral v, lineBehind (spelled before ++ lead)⟩]
  /-- An expression: from the open marker of its tag. -/
  | escaped {front u} (hkind : t.kind = .text) (h : before = front ++ [u])
      (hu : u.kind = .tag .openEscaped) (d : Nat) :
      Attributed before t .escaped
        [⟨d, appendEscaped (stripSemicolon (closeComment t.value)), lineBehind (spelled front)⟩]
  | raw {front u} (hkind : t.kind = .text) (h : before = front ++ [u])
      (hu : u.kind = .tag .openRaw) (d : Nat) :
      Attributed before t .raw
        [⟨d, appendRaw (stripSemicolon (closeComment t.value)), lineBehind (spelled front)⟩]
  /-- Code: line by line. -/
  | code {ss} (hkind : t.kind = .text)
      (h : LinesBehind (spelled before) (Text.cutAtLineFeeds (closeComment t.value)) ss) :
      Attributed before t .eval ss
  /-- Markers that stand for a text: from the marker. -/
  | openLiteral {mode} (hkind : t.kind = .tag .openLiteral) (d : Nat) :
      Attributed before t mode [⟨d, appendLiteral "<%", lineBehind (spelled before)⟩]
  | closeLiteral {mode x} (hkind : t.kind = .tag .closeLiteral)
      (hx : x ∈ [appendLiteral "%>", "%>", appendEscaped "%>", appendRaw "%>"]) (d : Nat) :
      Attributed before t mode [⟨d, x, lineBehind (spelled before)⟩]
  | closeAsText {m} (hkind : t.kind = .tag m) (hclose : m.isClose = true) (d : Nat) :
      Attributed before t .literal [⟨d, appendLiteral m.text, lineBehind (spelled before)⟩]

/-- Behind a line of code comes the next line. -/
lemma lineBehind_line (front : Text) {l : Text} (hl : '\n' ∉ l) :
    lineBehind front + 1 = lineBehind (front ++ (l ++ ['\n'])) := by
  have hfeeds : Text.lineFeeds (l ++ ['\n']) = 1 := by
    rw [Text.lineFeeds_append, Text.lineFeeds, List.count_eq_zero.2 hl]
    rfl
  rw [lineBehind_append, hfeeds]
  rfl

lemma AddedLines.behind {n : Int} {ls : List Text} {ss : List Statement} (h : AddedLines n ls ss)
    (hls : ∀ l ∈ ls, '\n' ∉ l) {front : Text} (hn : n = lineBehind front) :
    LinesBehind front ls ss := by
  induction h generalizing front with
  | nil => exact .nil
  | silent h _ ih =>
    obtain ⟨hl, hls⟩ := List.forall_mem_cons.1 hls
    subst hn
    exact .silent h (ih hls (lineBehind_line front hl))
  | line d _ _ ih =>
    obtain ⟨hl, hls⟩ := List.forall_mem_cons.1 hls
    subst hn
    exact .line d (ih hls (lineBehind_line front hl))
  | header d pending h _ ih =>
    obtain ⟨hl, hls⟩ := List.forall_mem_cons.1 hls
    subst hn
    exact .header d pending h (ih hls (lineBehind_line front hl))

/-- What is trimmed from a text, if it has no carriage return without a line feed. -/
lemma lead_of_afterLineBreak? {t v : Text} (ht : Paired t)
    (h : Text.afterLineBreak? t = some v) :
    ∃ lead, t = lead ++ v ∧ lead ∈ [['\n'], ['\r', '\n']] := by
  unfold Text.afterLineBreak? at h
  split at h
  · cases h
    exact ⟨['\r', '\n'], rfl, by simp⟩
  · next cs hcs =>
    -- behind the carriage return stands the line feed of the case above
    have hhead := (Text.paired_cons_iff.1 ht).1 rfl
    cases cs with
    | nil => cases hhead
    | cons c cs =>
      rw [List.head?_cons, Option.some.injEq] at hhead
      exact absurd (hhead ▸ rfl) (hcs cs)
  · cases h
    exact ⟨['\n'], rfl, by simp⟩
  · cases h

section

variable {before : List Token} {t : Token} {mode : Mode} {ss : List Statement}

/-- The open marker of a tag is the last token in front of its inside, on the same line. -/
lemma exists_openMarker (hprev : before.getLast?.bind Token.opens? = some mode)
    (hvalue : ∀ u ∈ before, ∀ m, u.kind = .tag m → u.value = m.text) :
    ∃ front u m, before = front ++ [u] ∧ u.kind = .tag m ∧ m ≠ .openLiteral ∧
      m.mode? = some mode ∧ lineBehind (spelled before) = lineBehind (spelled front) := by
  obtain ⟨u, hu, hopens⟩ := Option.bind_eq_some_iff.1 hprev
  obtain ⟨front, rfl⟩ := List.getLast?_eq_some_iff.1 hu
  unfold Token.opens? at hopens
  split at hopens
  · cases hopens
  next m hkind =>
  split at hopens
  · cases hopens
  next hm =>
  refine ⟨front, u, m, rfl, hkind, hm, hopens, ?_⟩
  rw [spelled_append, lineBehind_append, spelled_cons, spelled_nil, List.append_nil,
    hvalue u (by simp) m hkind, Marker.lineFeeds_text]
  simp

/-- **The statements of a text come from its place.** -/
lemma Added.attributed (hkind : t.kind = .text) (hline : t.line = lineBehind (spelled before))
    (ht : Paired t.value) (hprev : mode.Inert ∨ before.getLast?.bind Token.opens? = some mode)
    (hvalue : ∀ u ∈ before, ∀ m, u.kind = .tag m → u.value = m.text)
    (h : Added t.line t.value mode ss) : Attributed before t mode ss := by
  cases h with
  | comment => exact .nothing
  | eval h =>
    exact .code hkind (h.behind (fun l hl => (Text.mem_cutAtLineFeeds hl).1) hline)
  | escaped d =>
    rcases hprev with hinert | hprev
    · rcases hinert with hinert | hinert <;> cases hinert
    obtain ⟨front, u, m, hbefore, hu, -, hmode, hfront⟩ := exists_openMarker hprev hvalue
    rw [hline, hfront]
    refine .escaped hkind hbefore ?_ d
    cases m <;> first | exact hu | cases hmode
  | raw d =>
    rcases hprev with hinert | hprev
    · rcases hinert with hinert | hinert <;> cases hinert
    obtain ⟨front, u, m, hbefore, hu, -, hmode, hfront⟩ := exists_openMarker hprev hvalue
    rw [hline, hfront]
    refine .raw hkind hbefore ?_ d
    cases m <;> first | exact hu | cases hmode
  | nothing _ _ => exact .nothing
  | whole hmode h d =>
    have hwhole : Attributed before t mode
        [⟨d, appendLiteral t.value, lineBehind (spelled before ++ [])⟩] :=
      .literal hkind hmode rfl (by simp) h d
    rwa [List.append_nil, ← hline] at hwhole
  | @trimmed _ v hmode hv h d =>
    obtain ⟨lead, hlead, hbreak⟩ := lead_of_afterLineBreak? ht hv
    have hfeeds : (Text.lineFeeds lead : Int) = 1 := by
      have hcases : lead = ['\n'] ∨ lead = ['\r', '\n'] := by simpa using hbreak
      rcases hcases with rfl | rfl <;> rfl
    have htrimmed : Attributed before t mode
        [⟨d, appendLiteral v, lineBehind (spelled before ++ lead)⟩] :=
      .literal hkind hmode hlead (List.mem_cons_of_mem _ hbreak) h d
    rwa [lineBehind_append, ← hline, hfeeds] at htrimmed

/-- What the text `%>` adds. -/
lemma Added.percent {n : Int} (h : Added n "%>" mode ss) :
    ss = [] ∨ ∃ d, ∃ x ∈ [appendLiteral "%>", "%>", appendEscaped "%>", appendRaw "%>"],
      ss = [⟨d, x, n⟩] := by
  cases h with
  | comment => exact .inl rfl
  | eval h =>
    have hcut : Text.cutAtLineFeeds (closeComment "%>") = [("%>" : Text)] := by decide +kernel
    have hstrip : Text.strip "%>" = "%>" := by decide +kernel
    rw [hcut] at h
    cases h with
    | silent _ rest =>
      cases rest
      exact .inl rfl
    | line d _ rest =>
      cases rest
      exact .inr ⟨d, "%>", by simp, by rw [hstrip]⟩
    | header d pending h _ =>
      have hscan : (Brackets.scan (Text.strip "%>") pending).code = "%>" := by
        rw [hstrip]
        cases pending <;> rfl
      rw [hscan] at h
      exact absurd h (by decide +kernel)
  | escaped d => exact .inr ⟨d, appendEscaped "%>", by simp, rfl⟩
  | raw d => exact .inr ⟨d, appendRaw "%>", by simp, rfl⟩
  | nothing _ h => exact .inl rfl
  | whole _ _ d => exact .inr ⟨d, _, by simp, rfl⟩
  | trimmed _ hv _ _ => cases hv

/-- **The statements of a token come from its place.** -/
theorem AddedBy.attributed (hline : t.line = lineBehind (spelled before)) (ht : Paired t.value)
    (hprev : t.kind = .text → mode.Inert ∨ before.getLast?.bind Token.opens? = some mode)
    (hvalue : ∀ u ∈ before ++ [t], ∀ m, u.kind = .tag m → u.value = m.text)
    (h : AddedBy t mode ss) : Attributed before t mode ss := by
  have hbefore : ∀ u ∈ before, ∀ m, u.kind = .tag m → u.value = m.text := fun u hu =>
    hvalue u (List.mem_append_left [t] hu)
  cases h with
  | text hkind h => exact h.attributed hkind hline ht (hprev hkind) hbefore
  | opening _ _ _ => exact .nothing
  | openLiteral hkind d =>
    rw [hline]
    exact .openLiteral hkind d
  | closeLiteral hkind d =>
    rw [hline]
    exact .closeLiteral hkind (by simp) d
  | percent hkind _ h =>
    rcases h.percent with rfl | ⟨d, x, hx, rfl⟩
    · exact .nothing
    · rw [hline]
      exact .closeLiteral hkind hx d
  | closing _ _ _ => exact .nothing
  | @closeAsText m _ hkind hclose h =>
    rw [hvalue t (by simp) m hkind] at h
    cases h with
    | nothing _ _ => exact .nothing
    | whole _ _ d =>
      rw [hline]
      exact .closeAsText hkind hclose d
    | trimmed _ hv _ _ =>
      -- a close marker does not begin with a line break
      cases m <;> cases hv

end

/-! ## All generated code -/

namespace Generator

/-- What holds of all that tokens add holds of all statements behind them. -/
lemma steps_all {P : Statement → Prop} {g g' : Generator} {ts : List Token}
    (hsteps : g.steps ts = .ok g') (hg : ∀ s ∈ g.listing.statements, P s)
    (h : ∀ before t after mode ss, ts = before ++ t :: after → AddedBy t mode ss → ∀ s ∈ ss, P s) :
    ∀ s ∈ g'.listing.statements, P s := by
  induction ts generalizing g with
  | nil =>
    cases hsteps
    exact hg
  | cons t ts ih =>
    obtain ⟨g₁, htoken, hrest⟩ := steps_cons_ok hsteps
    obtain ⟨ss, hss, hadded⟩ := token_adds htoken
    refine ih hrest ?_ fun before u after mode ss hsplit =>
      h (t :: before) u after mode ss (by rw [hsplit]; rfl)
    rw [hss, List.forall_mem_append]
    exact ⟨hg, h [] t ts _ ss rfl hadded⟩

/-- **Every line of generated code knows where it comes from.**  Take a view in which a carriage
return only occurs in front of a line feed, and the code that is generated for it.  The code has as
many lines as its map has entries; each line of a statement is mapped to the line of the statement;
and the statements that a token adds stand on the lines where their source begins, counted by the line
feeds in the part of the view in front of it. -/
theorem generated_lines_attributed {source : Text} {name : Option Text} {code : Generated}
    (hsource : Paired source) (h : generate source name = .ok code) :
    Text.lineBreaks code.code = code.lineMap.length ∧
    ∃ last, run {} (tokens source) = .ok last ∧ code = last.listing.toGenerated name source ∧
      (∀ pre s post k, last.listing.statements = pre ++ s :: post → k ≤ Text.lineBreaks s.text →
        code.templateLine (Text.lineBreaks (pre.flatMap Statement.code) + k + 1) = some s.line) ∧
      ∀ before t after, tokens source = before ++ t :: after →
        source = spelled before ++ (t.value ++ spelled after) ∧
        ∃ g g' new rest, steps {} before = .ok g ∧ g.token t = .ok g' ∧
          g'.listing.statements = g.listing.statements ++ new ∧
          last.listing.statements = g'.listing.statements ++ rest ∧
          Attributed before t g.mode new := by
  obtain ⟨last, hrun, rfl⟩ := run_of_generate h
  have hpaired : AllPaired last.listing.statements :=
    steps_all (run_eq_ok_iff.1 hrun).2 (List.forall_mem_nil _)
      fun before t after mode ss hsplit hadded => hadded.allPaired hsource hsplit
  refine ⟨last.listing.lineBreaks_code hpaired, last, hrun, rfl, ?_, ?_⟩
  · intro pre s post k hstatements hk
    have hget := Listing.getElem_lineMap hpaired hstatements hk
    unfold Generated.templateLine
    rw [if_pos (by omega), ← hget]
    congr 1
    omega
  · intro before t after hsplit
    refine ⟨by rw [← spelled_tokens source, hsplit, spelled_append, spelled_cons], ?_⟩
    obtain ⟨g, g', hbefore, htoken, hafter, hp⟩ := exists_steps (hsplit ▸ hrun)
    obtain ⟨new, hnew, hadded⟩ := token_adds htoken
    obtain ⟨rest, hgrow⟩ := steps_grow hafter
    refine ⟨g, g', new, rest, hbefore, htoken, hnew, hgrow, ?_⟩
    refine hadded.attributed (line_of_tokens hsplit) (paired_of_tokens hsource hsplit) ?_ ?_
    · intro hkind
      cases hp with
      | outside hmode _ => exact .inl hmode
      | opened hprev _ => exact .inr hprev
      | closing hclose =>
        rw [hkind] at hclose
        cases hclose
    · intro u hu m hm
      have hmem : u ∈ tokens source := by
        rw [hsplit]
        simp only [List.mem_append, List.mem_cons, List.not_mem_nil, or_false] at hu ⊢
        tauto
      exact value_of_tokens hmem hm

/-- An expression on two lines, a trimmed line break, and a block that is opened on the second line of
its tag. -/
theorem generated_lines_attributed_trimmed :
    let source : Text := "<%= (x,\r\n y) -%>\r\nb<%\n if c: %>t<% end %>"
    let code : Text :=
      "_append(escape( (x,\r\n y) ))\n_append(\"b\")\nif c:\n    pass\n    _append(\"t\")\n"
    Paired source ∧
      generate source none =
        .ok { code, lineMap := [1, 1, 3, 4, 4, 4], source := some source } ∧
      Text.lineBreaks code = 6 ∧
      ∃ g g' new, steps {} ((tokens source).take 3) = .ok g ∧
        g.token ⟨.text, "\r\nb", 2⟩ = .ok g' ∧
        g'.listing.statements = g.listing.statements ++ new ∧
        Attributed ((tokens source).take 3) ⟨.text, "\r\nb", 2⟩ g.mode new := by
  intro source code
  have hsource : Paired source := by decide +kernel
  have hgenerate : generate source none =
      .ok { code, lineMap := [1, 1, 3, 4, 4, 4], source := some source } := by
    decide +kernel
  obtain ⟨hlines, last, -, -, -, htokens⟩ := generated_lines_attributed hsource hgenerate
  obtain ⟨-, g, g', new, -, hg, hg', hnew, -, hadded⟩ :=
    htokens ((tokens source).take 3) ⟨.text, "\r\nb", 2⟩ ((tokens source).drop 4)
      (by decide +kernel)
  exact ⟨hsource, hgenerate, hlines, g, g', new, hg, hg', hnew, hadded⟩

end Generator
end ViewEngine

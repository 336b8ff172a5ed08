/-
# Generating code for a view that is put together

The generator carries a mode, a flag, brackets and a depth from one token to the next, and looks two
tokens ahead.  If a view is cut between two of its fragments, and the generator is at rest there, the
part behind the border is read as it would be by itself: it stands on later lines, and the statements
of the first part stand in front of its own.  This is so whether code can be generated for it or not.

* `Correspondence.shift`: the likeness of a view with the same view on other lines;
* `tokens_append`: the tokens of a view that is put together;
* `generate_append`: the code of the whole, or the fault, from that of the parts.
-/
import ViewEngine.Proofs.Code.Correspondence
import ViewEngine.Proofs.Markup.Decomposition

namespace ViewEngine

/-! ## On other lines -/

/-- The statement, if its view begins `k` lines further down. -/
def Statement.shift (k : Int) (s : Statement) : Statement := { s with line := s.line + k }

/-- The token, if its view begins `k` lines further down. -/
def Token.shift (k : Int) (t : Token) : Token := { t with line := t.line + k }

lemma code_shift (k : Int) (ss : List Statement) :
    (ss.map (Statement.shift k)).flatMap Statement.code = ss.flatMap Statement.code := by
  rw [List.flatMap_map]
  rfl

lemma lineMap_shift (k : Int) (ss : List Statement) :
    (ss.map (Statement.shift k)).flatMap Statement.lineMap =
      (ss.flatMap Statement.lineMap).map (· + k) := by
  rw [List.flatMap_map, List.map_flatMap]
  refine List.flatMap_congr fun s _ => ?_
  rw [Statement.lineMap, Statement.lineMap, List.map_replicate]
  rfl

lemma numbered_shift (n k : Int) (ls : List Text) :
    Generator.numbered (n + k) ls = (Generator.numbered n ls).map fun l => (l.1, l.2 + k) := by
  induction ls generalizing n with
  | nil => rfl
  | cons l ls ih =>
    rw [Generator.numbered, Generator.numbered, List.map_cons, ← ih, Int.add_right_comm]

lemma codeRows_shift (t : Text) (n k : Int) :
    codeRows t (n + k) = (codeRows t n).map fun l => (l.1, l.2 + k) := by
  rw [codeRows, numbered_shift, List.filter_map]
  rfl

lemma literalStatements_shift (trim : Bool) (d : Nat) (t : Text) (n k : Int) :
    literalStatements d (trimmed trim t) (trimmedLine trim t (n + k)) =
      (literalStatements d (trimmed trim t) (trimmedLine trim t n)).map (Statement.shift k) := by
  have hline : trimmedLine trim t (n + k) = trimmedLine trim t n + k := by
    unfold trimmedLine
    split
    · exact Int.add_right_comm n k 1
    · rfl
  rw [hline, literalStatements, literalStatements]
  split
  · rfl
  · rfl

/-- A view and the same view `k` lines further down. -/
def Correspondence.shift (k : Int) : Correspondence where
  text _ t t' := t' = t
  line n n' := n' = n + k
  statement s s' := s' = s.shift k
  marker _ _ := rfl
  single := by
    rintro n _ d x rfl _
    rfl
  literal := by
    rintro mode t _ n _ _ rfl rfl trim d
    rw [literalStatements_shift]
    exact List.forall₂_map_right_iff.2 (List.forall₂_same.2 fun _ _ => rfl)
  blank := by
    rintro mode shown t _ _ rfl
    rfl
  shown := by
    rintro mode shown t _ n _ d _ rfl rfl
    rfl
  code := by
    rintro t _ n _ rfl rfl
    rw [codeRows_shift]
    exact List.forall₂_map_right_iff.2 (List.forall₂_same.2 fun _ _ => ⟨rfl, rfl⟩)

lemma tokens_shift {k : Int} {ts : List Token}
    (h : ∀ t ∈ ts, ∀ m, t.kind = .tag m → t.value = m.text) (prev : Option Token) :
    (Correspondence.shift k).Tokens prev ts (ts.map (Token.shift k)) := by
  refine Correspondence.tokens_map (Token.shift k) fun before t after hsplit => ?_
  have ht := h t (hsplit ▸ List.mem_append_right _ List.mem_cons_self)
  exact ⟨rfl, rfl, fun m hm => ⟨ht m hm, ht m hm⟩, fun _ _ _ => rfl⟩

/-! ## The tokens of both parts -/

lemma ofPieces_shift (n k : Int) (ps : List (Text.Piece Marker)) :
    Token.ofPieces (n + k) ps = (Token.ofPieces n ps).map (Token.shift k) := by
  induction ps generalizing n with
  | nil => rfl
  | cons p ps ih =>
    rw [Token.ofPieces, Token.ofPieces, List.map_cons, Int.add_right_comm, ih]
    cases p <;> rfl

lemma ofPieces_append (n : Int) (ps qs : List (Text.Piece Marker)) :
    Token.ofPieces n (ps ++ qs) =
      Token.ofPieces n ps ++ Token.ofPieces (n + Text.lineFeeds (piecesText ps)) qs := by
  induction ps generalizing n with
  | nil =>
    have hnone : n + (Text.lineFeeds (piecesText []) : Int) = n := Int.add_zero n
    rw [hnone]
    rfl
  | cons p ps ih =>
    have hfeeds : n + (Text.lineFeeds (piecesText (p :: ps)) : Int) =
        n + Text.lineFeeds p.text + Text.lineFeeds (piecesText ps) := by
      rw [piecesText, List.flatMap_cons, Text.lineFeeds_append, ← piecesText]
      omega
    rw [List.cons_append, Token.ofPieces, Token.ofPieces, ih, hfeeds]
    rfl

/-- The tokens of a view that is cut between two of its fragments. -/
lemma tokens_append {a b : Text} (hcut : fragments (a ++ b) = fragments a ++ fragments b) :
    tokens (a ++ b) = tokens a ++ (tokens b).map (Token.shift (Text.lineFeeds a)) := by
  have hpieces : Text.pieces Marker.first? (a ++ b) =
      Text.pieces Marker.first? a ++ Text.pieces Marker.first? b := by
    rw [pieces_eq_map, hcut, List.map_append, ← pieces_eq_map, ← pieces_eq_map]
  have hspelled : piecesText (Text.pieces Marker.first? a) = a :=
    Text.spelled_pieces Marker.first?_sound a
  rw [tokens, hpieces, ofPieces_append, hspelled, ofPieces_shift]
  rfl

/-! ## The main result -/

/-- An error about a view in front of which the text `front` is put, for which the code `code` was
generated: it is on a later line, and the code that was generated up to it begins with `code`. -/
def ViewError.behind (front code source : Text) : ViewError → ViewError
  | .unmatchedTag tag place =>
    .unmatchedTag tag { place with
      line := place.line.map (· + Text.lineFeeds front), source }
  | .uncompilable message place generated c =>
    .uncompilable message { place with
      line := place.line.map (· + Text.lineFeeds front), source } (generated.map (code ++ ·)) c
  | e => e

namespace Generator

/-- The generator is as it begins, but for the statements that it has added. -/
structure AtRest (g : Generator) : Prop where
  mode : g.mode = .plain
  trim : g.trim = false
  pending : g.pending = []
  depth : g.listing.depth = 0

/-- Where the statements of `last` stand behind those of `g`, on lines further down. -/
lemma listing_shift {k : Int} {g last whole : Generator}
    (h : (Correspondence.shift k).States g.listing.statements last whole) :
    whole.listing.code = g.listing.code ++ last.listing.code ∧
      whole.listing.lineMap = g.listing.lineMap ++ last.listing.lineMap.map (· + k) := by
  obtain ⟨ss, heq, hforall⟩ := h.statements
  have hshift : last.listing.statements.map (Statement.shift k) = ss := by
    rw [← List.forall₂_eq_eq_eq, List.forall₂_map_left_iff]
    exact hforall.imp fun _ _ h => h.symm
  constructor
  · rw [Listing.code, heq, List.flatMap_append, ← hshift, code_shift, Listing.code, Listing.code]
  · rw [Listing.lineMap, heq, List.flatMap_append, ← hshift, lineMap_shift, Listing.lineMap,
      Listing.lineMap]

/-- A fault further down is the same error about the whole. -/
lemma toError_shift {k : Int} {h h' : Halt} {a b code : Text} (name : Option Text)
    (hk : k = Text.lineFeeds a) (hfaults : (Correspondence.shift k).Faults h h')
    (hcode : h'.state.listing.code = code ++ h.state.listing.code) :
    h'.fault.toError name (some (a ++ b)) =
      (h.fault.toError name (some b)).behind a code (a ++ b) := by
  subst hk
  cases hfaults with
  | unmatchedTag hn =>
    cases hn
    rfl
  | noExpression hn =>
    cases hn
    rw [GenerationFault.toError, hcode]
    rfl
  | unexpectedEnd hn =>
    cases hn
    rw [GenerationFault.toError, hcode]
    rfl

/-- The second part is read as it is read by itself. -/
lemma outcomes_append {a b : Text} {g : Generator}
    (hcut : fragments (a ++ b) = fragments a ++ fragments b)
    (hrun : run {} (tokens a) = .ok g) (hrest : g.AtRest) :
    (Correspondence.shift (Text.lineFeeds a)).Outcomes g.listing.statements
      (run {} (tokens b)) (run {} (tokens (a ++ b))) := by
  obtain ⟨hclosed, hsteps⟩ := run_eq_ok_iff.1 hrun
  -- the look ahead does not reach beyond the close marker of a tag
  have hopen : ∀ front u behind, tokens a = front ++ u :: behind →
      ¬ Unclosed u (behind ++ (tokens b).map (Token.shift (Text.lineFeeds a))) := by
    rintro front u behind hsplit ⟨hneeds, hsecond⟩
    refine closed_iff.1 hclosed front u behind hsplit ⟨hneeds, ?_⟩
    rcases behind with _ | ⟨v, _ | ⟨w, behind⟩⟩
    · rfl
    · rfl
    · exact hsecond
  rw [tokens_append hcut, run_append hsteps hopen]
  refine Correspondence.run (tokens_shift (fun t ht m => value_of_tokens ht) none) ?_
    (.outside (.inl rfl) rfl)
  exact ⟨⟨[], (List.append_nil _).symm, .nil⟩, hrest.depth, hrest.mode, hrest.trim, hrest.pending⟩

/-- **Generation goes part by part.**  Take a view that is cut between two of its fragments, such that
code is generated for the first part and leaves the generator at rest.  Code is generated for the
whole if and only if it is for the second part.  It is then the code of the first part and behind it
that of the second, and so is the line map, with the second part's lines further down by the line
feeds of the first.  Otherwise the error is that about the second part: of the same kind and code, about
the same tag if it is about a tag, on a line so much further down, and what was generated up to it has
the code of the first part in front. -/
theorem generate_append {a b : Text} (name : Option Text) {g : Generator}
    (hcut : fragments (a ++ b) = fragments a ++ fragments b)
    (hrun : run {} (tokens a) = .ok g) (hrest : g.AtRest) :
    ∃ first, generate a name = .ok first ∧
      ((∃ code, generate (a ++ b) name = .ok code) ↔ ∃ code, generate b name = .ok code) ∧
      (∀ second, generate b name = .ok second → generate (a ++ b) name = .ok {
        code := first.code ++ second.code
        lineMap := first.lineMap ++ second.lineMap.map (· + (Text.lineFeeds a : Int))
        name, source := some (a ++ b) }) ∧
      ∀ e, generate b name = .error e →
        generate (a ++ b) name = .error (e.behind a first.code (a ++ b)) := by
  have hfirst : generate a name = .ok (g.listing.toGenerated name a) := by
    rw [generate, hrun]
  have houtcomes := outcomes_append hcut hrun hrest
  generalize hwhole : run {} (tokens (a ++ b)) = whole at houtcomes
  have hsecond : ∀ second, generate b name = .ok second → generate (a ++ b) name = .ok {
      code := (g.listing.toGenerated name a).code ++ second.code
      lineMap := (g.listing.toGenerated name a).lineMap ++
        second.lineMap.map (· + (Text.lineFeeds a : Int))
      name, source := some (a ++ b) } := by
    intro second h
    obtain ⟨last, hlast, rfl⟩ := run_of_generate h
    rw [hlast] at houtcomes
    obtain ⟨hstates⟩ := houtcomes
    obtain ⟨hcode, hlines⟩ := listing_shift hstates
    rw [generate, hwhole]
    dsimp only [Listing.toGenerated]
    rw [hcode, hlines]
  have hfails : ∀ e, generate b name = .error e → generate (a ++ b) name =
      .error (e.behind a (g.listing.toGenerated name a).code (a ++ b)) := by
    intro e h
    obtain ⟨halt, hhalt, rfl⟩ := run_of_generate_error h
    rw [hhalt] at houtcomes
    obtain - | ⟨hstates, hfaults⟩ := houtcomes
    rw [generate, hwhole]
    exact congrArg Except.error (toError_shift name rfl hfaults (listing_shift hstates).1)
  refine ⟨_, hfirst, ⟨?_, ?_⟩, hsecond, hfails⟩
  · rintro ⟨code, hcode⟩
    rcases hb : generate b name with e | second
    · rw [hfails e hb] at hcode
      cases hcode
    · exact ⟨second, rfl⟩
  · rintro ⟨second, hb⟩
    exact ⟨_, hsecond second hb⟩

/-- A finished block, and behind it a part that shows an expression or closes a block too many. -/
theorem generate_append_block :
    let a : Text := "x\n<% if c: %><% end %>"
    generate (a ++ "\n<%= z %>") none = .ok {
      code := "_append(\"x\\n\")\nif c:\n    pass\n_append(\"\\n\")\n_append(escape( z ))\n"
      lineMap := [1, 2, 2, 2, 3], source := some (a ++ "\n<%= z %>") } ∧
    generate (a ++ "\n<% end %>") none = .error (.uncompilable "'end' without an open block"
      { line := some 3, source := some (a ++ "\n<% end %>") }
      (some "_append(\"x\\n\")\nif c:\n    pass\n_append(\"\\n\")\n") .unexpectedEnd) := by
  intro a
  obtain ⟨g, hrun, hrest⟩ : ∃ g, run {} (tokens a) = .ok g ∧ g.AtRest :=
    ⟨_, by with_unfolding_all rfl, rfl, rfl, rfl, rfl⟩
  have hcode : generate a none = .ok {
      code := "_append(\"x\\n\")\nif c:\n    pass\n", lineMap := [1, 2, 2], source := some a } := by
    decide +kernel
  constructor
  · obtain ⟨first, hfirst, -, hsecond, -⟩ :=
      generate_append (b := "\n<%= z %>") none (by decide +kernel) hrun hrest
    cases hcode.symm.trans hfirst
    exact hsecond
      { code := "_append(\"\\n\")\n_append(escape( z ))\n", lineMap := [1, 2]
        source := some "\n<%= z %>" } (by decide +kernel)
  · obtain ⟨first, hfirst, -, -, hfails⟩ :=
      generate_append (b := "\n<% end %>") none (by decide +kernel) hrun hrest
    cases hcode.symm.trans hfirst
    exact hfails
      (.uncompilable "'end' without an open block"
        { line := some 2, source := some "\n<% end %>" } (some "_append(\"\\n\")\n")
        .unexpectedEnd)
      (by decide +kernel)

end Generator
end ViewEngine

/-
# The decomposition of a view

A view can be cut into markers and runs of text in many ways, since markers overlap.  Its tokens are
the leftmost cut: a marker is taken wherever one begins outside the markers in front, and a longer
marker is preferred to one that it begins with.  There is only one cut of this kind, so that a part of
it that is read by itself is cut in the same way.

* `Leftmost`: the leftmost cuts;
* `Leftmost.fragments_flatten`, `leftmost_fragments`: the fragments of a text are its only one;
* `Leftmost.exists_markerAt_iff`: where the markers of a leftmost cut stand;
* `tokens_leftmost`: the tokens of a view.
-/
import ViewEngine.Proofs.Markup.Pieces
import ViewEngine.Proofs.Markup.Tokens

namespace ViewEngine

/-! ## Which marker is taken -/

namespace Marker

/-- No marker is found in front of a longer one that it begins. -/
lemma pairwise_all : all.Pairwise fun m m' => ¬ m.text <+: m'.text := by
  decide

lemma text_injective {m m' : Marker} (h : m.text = m'.text) : m = m' := by
  revert h
  cases m <;> cases m' <;> decide

/-- Where a marker begins, one is found. -/
lemma first?_ne_none {t : Text} {m : Marker} (hm : m.text <+: t) : first? t ≠ none := by
  intro h
  obtain ⟨r, rfl⟩ := hm
  have hnone := List.find?_eq_none.1 (Option.map_eq_none_iff.1 h) m m.mem_all
  rw [Text.startsWith, Text.after?_eq_some_iff.2 rfl] at hnone
  exact hnone rfl

/-- What is found is a marker as it is written. -/
lemma text_of_mem_pieces {source u : Text} {m : Marker}
    (h : Text.Piece.found m u ∈ Text.pieces first? source) : u = m.text := by
  obtain ⟨r, hr⟩ := Text.match_of_mem_pieces first?_sound source h
  obtain ⟨hstart, hlength⟩ := first?_eq_some hr
  exact (List.prefix_of_prefix_length_le (List.prefix_append u r) hstart
    (Nat.le_of_eq hlength)).eq_of_length hlength

/-- The marker that is found at the front of a text is the longest one there. -/
lemma longest_of_first? {t : Text} {m : Marker} {n : Nat} (h : first? t = some (m, n)) {m' : Marker}
    (hm' : m'.text <+: t) : m'.text <+: m.text := by
  obtain ⟨hm, -⟩ := first?_eq_some h
  obtain ⟨k, hfind, heq⟩ := Option.map_eq_some_iff.1 h
  obtain rfl : k = m := congrArg Prod.fst heq
  obtain ⟨-, earlier, later, hall, hearlier⟩ := List.find?_eq_some_iff_append.1 hfind
  have hmem : m' ∈ earlier ++ k :: later := hall ▸ m'.mem_all
  rcases List.mem_append.1 hmem with hmem | hmem
  -- a marker that is tried earlier does not begin here
  · obtain ⟨r, rfl⟩ := hm'
    have hstarts : Text.startsWith m'.text (m'.text ++ r) = true := by
      rw [Text.startsWith, Text.after?_eq_some_iff.2 rfl]
      rfl
    simpa [hstarts] using hearlier m' hmem
  rcases List.mem_cons.1 hmem with rfl | hmem
  · exact List.prefix_refl _
  -- one that is tried later is not longer
  · have hpairwise := (List.pairwise_append.1 (hall ▸ pairwise_all)).2.1
    have hshort := (List.pairwise_cons.1 hpairwise).1 m' hmem
    exact (List.prefix_or_prefix_of_prefix hm' hm).resolve_right hshort

/-- The longest marker at the front of a text is found there. -/
lemma first?_of_longest {t : Text} {m : Marker} (hm : m.text <+: t)
    (hlongest : ∀ {m' : Marker}, m'.text <+: t → m'.text <+: m.text) :
    first? t = some (m, m.text.length) := by
  rcases h : first? t with _ | ⟨k, n⟩
  · exact absurd h (first?_ne_none hm)
  · obtain ⟨hk, rfl⟩ := first?_eq_some h
    have hlength := (longest_of_first? h hm).length_le
    obtain rfl : k = m :=
      text_injective ((hlongest hk).eq_of_length (Nat.le_antisymm (hlongest hk).length_le hlength))
    rfl

/-- Only `<%` begins another marker. -/
lemma eq_or_of_prefix {m m' : Marker} (h : m'.text <+: m.text) :
    m' = m ∨ m' = openEval ∧
      m ∈ [openLiteral, openEscaped, openRaw, openEvalSlurp, openComment] := by
  revert h
  cases m <;> cases m' <;> decide

end Marker

/-! ## Leftmost cuts -/

/-- The text is written like a marker. -/
def IsMarker (t : Text) : Prop := ∃ m : Marker, t = m.text

/-- The parts of a text that was cut into markers and runs of text, where a marker was taken as soon
as one began, and the longest one that began there. -/
structure Leftmost (parts : List Text) : Prop where
  /-- No part is empty. -/
  ne_nil : ∀ p ∈ parts, p ≠ []
  /-- Of two parts beside each other, one is a marker. -/
  apart : ∀ {before p q after}, parts = before ++ p :: q :: after → IsMarker p ∨ IsMarker q
  /-- Where a marker stands, no longer one begins. -/
  longest : ∀ {before after} {m m' : Marker}, parts = before ++ m.text :: after →
    m'.text <+: m.text ++ after.flatten → m'.text <+: m.text
  /-- No marker begins in a run of text, not even one that would end behind the run. -/
  unmarked : ∀ {before p after}, parts = before ++ p :: after → ¬ IsMarker p →
    ∀ {s}, s <:+ p → s ≠ [] → ∀ m : Marker, ¬ m.text <+: s ++ after.flatten

namespace Leftmost

variable {parts front back : List Text} {m : Marker}

/-- The first parts of a leftmost cut are a leftmost cut: behind them, less can begin. -/
lemma left (h : Leftmost (front ++ back)) : Leftmost front where
  ne_nil p hp := h.ne_nil p (List.mem_append_left back hp)
  apart {before p q after} heq := by
    rw [heq, List.append_assoc] at h
    exact h.apart rfl
  longest {before after m m'} heq hm' := by
    rw [heq, List.append_assoc, List.cons_append] at h
    refine h.longest rfl ?_
    rw [List.flatten_append, ← List.append_assoc]
    exact hm'.trans (List.prefix_append _ _)
  unmarked {before p after} heq hp s hs hne m hm := by
    rw [heq, List.append_assoc, List.cons_append] at h
    refine h.unmarked rfl hp hs hne m ?_
    rw [List.flatten_append, ← List.append_assoc]
    exact hm.trans (List.prefix_append _ _)

/-- The last parts of a leftmost cut are a leftmost cut. -/
lemma right (h : Leftmost (front ++ back)) : Leftmost back where
  ne_nil p hp := h.ne_nil p (List.mem_append_right front hp)
  apart {before p q after} heq := by
    rw [heq, ← List.append_assoc] at h
    exact h.apart rfl
  longest {before after m m'} heq := by
    rw [heq, ← List.append_assoc] at h
    exact h.longest rfl
  unmarked {before p after} heq := by
    rw [heq, ← List.append_assoc] at h
    exact h.unmarked rfl

lemma tail {p : Text} (h : Leftmost (p :: parts)) : Leftmost parts :=
  Leftmost.right ((List.singleton_append ..).symm ▸ h)

lemma pieces_marker (h : Leftmost (m.text :: parts)) :
    Text.pieces Marker.first? (m.text ++ parts.flatten) =
      .found m m.text :: Text.pieces Marker.first? parts.flatten :=
  Text.pieces_found m.text_ne_nil
    (Marker.first?_of_longest (List.prefix_append _ _) fun hm' => h.longest (List.nil_append _).symm hm')

lemma pieces_run {p : Text} (h : Leftmost (p :: parts)) (hp : ¬ IsMarker p) :
    Text.pieces Marker.first? (p ++ parts.flatten) =
      .plain p :: Text.pieces Marker.first? parts.flatten := by
  have hbegins : ∀ s, s <:+ p → s ≠ [] → Marker.first? (s ++ parts.flatten) = none :=
    fun s hs hne => Marker.first?_eq_none fun m => h.unmarked (List.nil_append _).symm hp hs hne m
  refine Text.pieces_plain_append (h.ne_nil p List.mem_cons_self) hbegins ?_
  intro t ps heq
  rcases parts with _ | ⟨q, parts⟩
  · cases heq
  -- the next part is a marker, so that the run ends in front of it
  · obtain ⟨m, rfl⟩ := (h.apart (List.nil_append _).symm).resolve_left hp
    rw [List.flatten_cons, h.tail.pieces_marker] at heq
    cases heq

/-- **There is no other leftmost cut of a text than the one into its fragments.** -/
theorem fragments_flatten (h : Leftmost parts) : fragments parts.flatten = parts := by
  induction parts with
  | nil => rfl
  | cons p parts ih =>
    have hrest : fragments parts.flatten = parts := ih h.tail
    rw [List.flatten_cons, fragments]
    by_cases hp : IsMarker p
    · obtain ⟨m, rfl⟩ := hp
      rw [h.pieces_marker]
      exact congrArg (m.text :: ·) hrest
    · rw [h.pieces_run hp]
      exact congrArg (p :: ·) hrest

end Leftmost

/-- The fragments put together are the text. -/
lemma flatten_fragments (source : Text) : (fragments source).flatten = source := by
  rw [fragments, ← List.flatMap_def, Text.spelled_pieces Marker.first?_sound]

/-- A fragment comes from a piece, behind which the pieces are those of the rest. -/
lemma exists_piece {source p : Text} {before after : List Text}
    (h : fragments source = before ++ p :: after) :
    ∃ q qs, q.text = p ∧ qs.map Text.Piece.text = after ∧
      Text.pieces Marker.first? (p ++ after.flatten) = q :: qs := by
  obtain ⟨front, back, hpieces, -, hback⟩ := List.map_eq_append_iff.1 h
  obtain ⟨q, qs, rfl, rfl, rfl⟩ := List.map_eq_cons_iff.1 hback
  refine ⟨q, qs, rfl, rfl, ?_⟩
  rw [← List.flatMap_def, ← List.flatMap_cons]
  exact Text.pieces_behind Marker.first?_sound source hpieces

/-- **The fragments of a text are a leftmost cut.** -/
theorem leftmost_fragments (source : Text) : Leftmost (fragments source) where
  ne_nil p hp := by
    obtain ⟨q, hq, rfl⟩ := List.mem_map.1 hp
    exact Text.text_ne_nil_of_mem_pieces Marker.first?_sound source hq
  apart {before p q after} h := by
    obtain ⟨x, xs, rfl, hxs, hpieces⟩ := exists_piece h
    obtain ⟨y, ys, rfl, rfl, -⟩ := List.map_eq_cons_iff.1 hxs
    cases x with
    | found m u => exact .inl ⟨m, Marker.text_of_mem_pieces (hpieces ▸ List.mem_cons_self)⟩
    | plain u =>
      obtain ⟨m, w, rfl⟩ := Text.pieces_apart Marker.first?_sound _
        (hpieces.trans (List.nil_append _).symm)
      exact .inr ⟨m, Marker.text_of_mem_pieces
        (hpieces ▸ List.mem_cons_of_mem _ List.mem_cons_self)⟩
  longest {before after m m'} h hm' := by
    obtain ⟨x, xs, hx, rfl, hpieces⟩ := exists_piece h
    cases x with
    | found k u =>
      have hu : u = k.text := Marker.text_of_mem_pieces (hpieces ▸ List.mem_cons_self)
      obtain rfl : k = m := Marker.text_injective (hu.symm.trans hx)
      exact Marker.longest_of_first? (Text.match_of_pieces Marker.first?_sound hpieces) hm'
    | plain u =>
      obtain rfl : u = m.text := hx
      have hnone := Text.none_of_pieces Marker.first?_sound _ hpieces _ (List.suffix_refl _)
        m.text_ne_nil
      exact absurd hnone (Marker.first?_ne_none (List.prefix_append _ _))
  unmarked {before p after} h hp s hs hne m hm := by
    obtain ⟨x, xs, rfl, rfl, hpieces⟩ := exists_piece h
    cases x with
    | found k u => exact hp ⟨k, Marker.text_of_mem_pieces (hpieces ▸ List.mem_cons_self)⟩
    | plain u =>
      have hnone := Text.none_of_pieces Marker.first?_sound _ hpieces s hs hne
      rw [List.flatMap_def] at hnone
      exact Marker.first?_ne_none hm hnone

/-! ## Places of markers -/

/-- The part that begins behind `i` characters is the marker `m`. -/
def MarkerAt (parts : List Text) (m : Marker) (i : Nat) : Prop :=
  ∃ before after, parts = before ++ m.text :: after ∧ before.flatten.length = i

/-- The place behind `i` characters lies inside a part that is a marker. -/
def Covered (parts : List Text) (i : Nat) : Prop :=
  ∃ m k, MarkerAt parts m k ∧ k < i ∧ i < k + m.text.length

/-- Every place of a text that was cut lies in one of the parts. -/
lemma exists_part {parts : List Text} {i : Nat} (h : i < parts.flatten.length) :
    ∃ before p after k, parts = before ++ p :: after ∧ k < p.length ∧
      i = before.flatten.length + k := by
  induction parts generalizing i with
  | nil => cases h
  | cons p parts ih =>
    by_cases hi : i < p.length
    · exact ⟨[], p, parts, i, rfl, hi, (Nat.zero_add i).symm⟩
    · rw [List.flatten_cons, List.length_append] at h
      obtain ⟨before, q, after, k, rfl, hk, heq⟩ := ih (i := i - p.length) (by omega)
      refine ⟨p :: before, q, after, k, rfl, hk, ?_⟩
      rw [List.flatten_cons, List.length_append]
      omega

/-- What stands behind a place in one of the parts. -/
lemma drop_flatten {before after : List Text} {p : Text} {k : Nat} (hk : k ≤ p.length) :
    (before ++ p :: after).flatten.drop (before.flatten.length + k) = p.drop k ++ after.flatten := by
  rw [List.flatten_append, List.flatten_cons, List.drop_length_add_append,
    List.drop_append_of_le_length hk]

lemma drop_front (before : List Text) (p : Text) (after : List Text) :
    (before ++ p :: after).flatten.drop before.flatten.length = p ++ after.flatten :=
  drop_flatten (Nat.zero_le p.length)

namespace Leftmost

variable {parts : List Text} {m : Marker} {i : Nat}

/-- **Outside the markers in front, a marker begins exactly where a part is one.** -/
theorem exists_markerAt_iff (h : Leftmost parts) (hi : ¬ Covered parts i) :
    (∃ m, MarkerAt parts m i) ↔ ∃ m : Marker, m.text <+: parts.flatten.drop i := by
  constructor
  · rintro ⟨m, before, after, rfl, rfl⟩
    refine ⟨m, ?_⟩
    rw [drop_front]
    exact List.prefix_append _ _
  · rintro ⟨m, hm⟩
    have hlt : i < parts.flatten.length := by
      have hpos := List.length_pos_iff.2 m.text_ne_nil
      have hle := hm.length_le
      rw [List.length_drop] at hle
      omega
    obtain ⟨before, p, after, k, rfl, hk, rfl⟩ := exists_part hlt
    by_cases hp : IsMarker p
    · obtain ⟨m', rfl⟩ := hp
      have hmarker : MarkerAt (before ++ m'.text :: after) m' before.flatten.length :=
        ⟨before, after, rfl, rfl⟩
      -- inside the marker the place would be covered
      rcases Nat.eq_zero_or_pos k with rfl | hpos
      · exact ⟨m', hmarker⟩
      · exact absurd ⟨m', _, hmarker, by omega, by omega⟩ hi
    · rw [drop_flatten (Nat.le_of_lt hk)] at hm
      have hne : p.drop k ≠ [] := by
        rw [Ne, List.drop_eq_nil_iff]
        omega
      exact absurd hm (h.unmarked rfl hp (List.drop_suffix k p) hne m)

/-- A longer marker is preferred to `<%`. -/
lemma preferred (h : Leftmost parts) (hm : MarkerAt parts m i) {m' : Marker}
    (hm' : m'.text <+: parts.flatten.drop i) :
    m' = m ∨ m' = .openEval ∧
      m ∈ [.openLiteral, .openEscaped, .openRaw, .openEvalSlurp, .openComment] := by
  obtain ⟨before, after, rfl, rfl⟩ := hm
  rw [drop_front] at hm'
  exact Marker.eq_or_of_prefix (h.longest rfl hm')

end Leftmost

/-! ## Tokens -/

lemma map_value_ofPieces (n : Int) (ps : List (Text.Piece Marker)) :
    (Token.ofPieces n ps).map Token.value = ps.map Text.Piece.text := by
  induction ps generalizing n with
  | nil => rfl
  | cons p ps ih => rw [Token.ofPieces, List.map_cons, List.map_cons, ih, Token.value_ofPiece]

/-- The values of the tokens are the fragments. -/
lemma map_value_tokens (source : Text) : (tokens source).map Token.value = fragments source :=
  map_value_ofPieces 1 _

lemma exists_ofPiece {n : Int} {ps : List (Text.Piece Marker)} {t : Token}
    (h : t ∈ Token.ofPieces n ps) : ∃ p ∈ ps, ∃ k, t = Token.ofPiece k p := by
  induction ps generalizing n with
  | nil => cases h
  | cons p ps ih =>
    rcases List.mem_cons.1 h with rfl | h
    · exact ⟨p, List.mem_cons_self, n, rfl⟩
    · obtain ⟨q, hq, hk⟩ := ih h
      exact ⟨q, List.mem_cons_of_mem p hq, hk⟩

/-- A run of text is not written like a marker. -/
lemma not_isMarker_of_plain {source u : Text}
    (h : .plain u ∈ Text.pieces Marker.first? source) : ¬ IsMarker u := by
  rintro ⟨m, rfl⟩
  obtain ⟨before, after, hpieces⟩ := List.append_of_mem h
  have hbehind := Text.pieces_behind Marker.first?_sound source hpieces
  have hnone := Text.none_of_pieces Marker.first?_sound _ hbehind _ (List.suffix_refl _)
    m.text_ne_nil
  exact Marker.first?_ne_none (List.prefix_append _ _) hnone

/-- The piece that is written in this way: a marker, or else a run of text. -/
def ofFragment (t : Text) : Text.Piece Marker :=
  match Marker.all.find? fun m => m.text = t with
  | some m => .found m t
  | none => .plain t

lemma ofFragment_text (m : Marker) : ofFragment m.text = .found m m.text := by
  cases m <;> rfl

lemma ofFragment_of_not {u : Text} (h : ¬ IsMarker u) : ofFragment u = .plain u := by
  have hfind : (Marker.all.find? fun m => m.text = u) = none :=
    List.find?_eq_none.2 fun m _ hm => h ⟨m, (of_decide_eq_true hm).symm⟩
  rw [ofFragment, hfind]

/-- A piece of a view is known by its text. -/
lemma ofFragment_of_mem {source : Text} {p : Text.Piece Marker}
    (h : p ∈ Text.pieces Marker.first? source) : ofFragment p.text = p := by
  cases p with
  | plain u => exact ofFragment_of_not (not_isMarker_of_plain h)
  | found m u =>
    obtain rfl : u = m.text := Marker.text_of_mem_pieces h
    exact ofFragment_text m

/-- The pieces of a view are what its fragments are written like. -/
lemma pieces_eq_map (source : Text) :
    Text.pieces Marker.first? source = (fragments source).map ofFragment := by
  rw [fragments, List.map_map]
  exact (List.map_id _).symm.trans
    (List.map_congr_left fun p hp => (ofFragment_of_mem hp).symm)

/-- A token is a marker if and only if it is written like one. -/
lemma kind_eq_tag_iff {source : Text} {t : Token} (h : t ∈ tokens source) (m : Marker) :
    t.kind = .tag m ↔ t.value = m.text := by
  refine ⟨value_of_tokens h, fun hvalue => ?_⟩
  obtain ⟨p, hp, k, rfl⟩ := exists_ofPiece h
  cases p with
  | plain u => exact absurd ⟨m, hvalue⟩ (not_isMarker_of_plain hp)
  | found k' u =>
    obtain rfl : k' = m := Marker.text_injective ((Marker.text_of_mem_pieces hp).symm.trans hvalue)
    rfl

/-! ## The main result -/

/-- **The tokens of a view are its leftmost cut.**  The fragments are the one leftmost cut of the
view, outside the markers in front a marker begins exactly where a fragment is one, and this is a
longer one rather than `<%`.  The tokens are the fragments in order; each is the marker as which it is
written, or else text, and is on the line that the line feeds in front of it give.  The fragments in
front of a border between two of them and those behind it are each the fragments of their text. -/
theorem tokens_leftmost (source : Text) :
    (∀ parts, parts.flatten = source ∧ Leftmost parts ↔ parts = fragments source) ∧
    (∀ i, ¬ Covered (fragments source) i →
      ((∃ m, MarkerAt (fragments source) m i) ↔ ∃ m : Marker, m.text <+: source.drop i)) ∧
    (∀ m i, MarkerAt (fragments source) m i → ∀ m' : Marker, m'.text <+: source.drop i →
      m' = m ∨ m' = .openEval ∧
        m ∈ [.openLiteral, .openEscaped, .openRaw, .openEvalSlurp, .openComment]) ∧
    (tokens source).map Token.value = fragments source ∧
    (∀ before t after, tokens source = before ++ t :: after →
      (∀ m, t.kind = .tag m ↔ t.value = m.text) ∧
        t.line = Text.lineBehind (source.take (spelled before).length)) ∧
    (∀ before after, fragments source = before ++ after →
      fragments before.flatten = before ∧ fragments after.flatten = after) := by
  have hcut := leftmost_fragments source
  have hsource := flatten_fragments source
  refine ⟨fun parts => ⟨?_, ?_⟩, fun i hi => ?_, fun m i hm m' hm' => ?_, map_value_tokens source,
    fun before t after h => ⟨kind_eq_tag_iff (h ▸ List.mem_append_right _ List.mem_cons_self), ?_⟩,
    fun before after h => ?_⟩
  -- there is no other leftmost cut, and the fragments are one
  · rintro ⟨rfl, hparts⟩
    exact hparts.fragments_flatten.symm
  · rintro rfl
    exact ⟨hsource, hcut⟩
  -- the places of markers
  · have hplaces := hcut.exists_markerAt_iff hi
    rwa [hsource] at hplaces
  · rw [← hsource] at hm'
    exact hcut.preferred hm hm'
  -- the lines of the tokens
  · have hspelled := spelled_tokens source
    rw [h, spelled_append] at hspelled
    rw [line_of_tokens h, ← hspelled]
    exact congrArg Text.lineBehind (List.take_left ..).symm
  -- the fragments in front of a border and behind it
  · rw [h] at hcut
    exact ⟨hcut.left.fragments_flatten, hcut.right.fragments_flatten⟩

/-- A view of markers that overlap: two begin in the percent signs at its end. -/
theorem tokens_leftmost_overlapping :
    let source : Text := "<%-%>\n%%%>"
    let front : List Text := ["<%-", "%>"]
    let back : List Text := ["\n%", "%%>"]
    fragments source = front ++ back ∧
      (∃ m : Marker, m.text <+: source) ∧
      (∀ m : Marker, m.text <+: source → m = .openRaw ∨ m = .openEval) ∧
      (∃ t ∈ tokens source, t.kind = .tag .closeLiteral ∧ t.line = 2) ∧
      fragments front.flatten = front ∧ fragments back.flatten = back := by
  intro source front back
  have hfragments : fragments source = front ++ back := by decide
  have htokens : tokens source = [⟨.tag .openRaw, "<%-", 1⟩, ⟨.tag .close, "%>", 1⟩,
    ⟨.text, "\n%", 1⟩] ++ ⟨.tag .closeLiteral, "%%>", 2⟩ :: [] := by decide
  obtain ⟨-, hbegins, hprefers, -, hmarked, hborders⟩ := tokens_leftmost source
  have hmarker : MarkerAt (fragments source) .openRaw 0 := ⟨[], _, hfragments, rfl⟩
  have hcovered : ¬ Covered (fragments source) 0 := fun ⟨_, _, _, hlt, _⟩ => Nat.not_lt_zero _ hlt
  refine ⟨hfragments, (hbegins 0 hcovered).1 ⟨_, hmarker⟩, fun m hm => ?_, ?_,
    hborders front back hfragments⟩
  · rcases hprefers _ 0 hmarker m hm with rfl | ⟨rfl, -⟩
    · exact .inl rfl
    · exact .inr rfl
  · obtain ⟨hkind, hline⟩ := hmarked _ _ _ htokens
    exact ⟨_, by simp [htokens], (hkind .closeLiteral).2 rfl, hline.trans (by decide)⟩

end ViewEngine

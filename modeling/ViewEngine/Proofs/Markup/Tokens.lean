/-
# What the tokens of a view say about the view

The values of the tokens put together are the view, so a token stands behind the part of the view
that the tokens in front of it spell, and its line is counted in that part.

* `spelled_tokens`: the tokens spell the view;
* `line_of_tokens`: the line of a token;
* `value_of_tokens`: a marker is written as markers of its kind are.
-/
import Mathlib.Tactic.Common
import Mathlib.Tactic.Lemma
import ViewEngine.Markup.Token
import ViewEngine.Proofs.Text.Pieces

namespace ViewEngine

/-! ## Markers -/

namespace Marker

/-- What begins at the front of a text is the marker with these characters. -/
lemma first?_eq_some {t : Text} {m : Marker} {n : Nat} (h : first? t = some (m, n)) :
    m.text <+: t ∧ n = m.text.length := by
  obtain ⟨m', hfind, heq⟩ := Option.map_eq_some_iff.1 h
  cases heq
  have hstarts : Text.startsWith m.text t = true := by simpa using List.find?_some hfind
  obtain ⟨r, hr⟩ := Option.isSome_iff_exists.1 hstarts
  exact ⟨⟨r, (Text.after?_eq_some_iff.1 hr).symm⟩, rfl⟩

lemma first?_sound : Text.Matcher.Sound first? where
  pos h := by
    obtain ⟨-, rfl⟩ := first?_eq_some h
    exact List.length_pos_iff.2 (text_ne_nil _)
  le h := by
    obtain ⟨hstart, rfl⟩ := first?_eq_some h
    exact hstart.length_le

/-- No marker holds a line break. -/
lemma lineFeeds_text (m : Marker) : Text.lineFeeds m.text = 0 := by
  cases m <;> rfl

end Marker

/-! ## Tokens -/

/-- The line on which a text stands that has `front` in front of it. -/
def Text.lineBehind (front : Text) : Int := 1 + Text.lineFeeds front

lemma lineBehind_append (front s : Text) :
    Text.lineBehind (front ++ s) = Text.lineBehind front + Text.lineFeeds s := by
  simp only [Text.lineBehind, Text.lineFeeds_append]
  omega

/-- The part of a view that tokens spell. -/
def spelled (ts : List Token) : Text := ts.flatMap Token.value

@[simp] lemma spelled_nil : spelled [] = [] := rfl

@[simp] lemma spelled_cons (t : Token) (ts : List Token) :
    spelled (t :: ts) = t.value ++ spelled ts := rfl

@[simp] lemma spelled_append (ts us : List Token) :
    spelled (ts ++ us) = spelled ts ++ spelled us :=
  List.flatMap_append

namespace Token

lemma value_ofPiece (n : Int) (p : Text.Piece Marker) : (ofPiece n p).value = p.text := by
  cases p <;> rfl

lemma line_ofPiece (n : Int) (p : Text.Piece Marker) : (ofPiece n p).line = n := by
  cases p <;> rfl

lemma spelled_ofPieces (n : Int) (ps : List (Text.Piece Marker)) :
    spelled (ofPieces n ps) = ps.flatMap Text.Piece.text := by
  induction ps generalizing n with
  | nil => rfl
  | cons p ps ih => rw [ofPieces, spelled_cons, ih, value_ofPiece, List.flatMap_cons]

lemma line_of_ofPieces {n : Int} {ps : List (Text.Piece Marker)} {before after : List Token}
    {t : Token} (h : ofPieces n ps = before ++ t :: after) :
    t.line = n + Text.lineFeeds (spelled before) := by
  induction before generalizing n ps with
  | nil =>
    cases ps with
    | nil => cases h
    | cons p ps =>
      rw [← (List.cons.inj h).1, line_ofPiece]
      simp
  | cons u before ih =>
    cases ps with
    | nil => cases h
    | cons p ps =>
      obtain ⟨hu, hrest⟩ := List.cons.inj h
      rw [ih hrest, ← hu, spelled_cons, value_ofPiece, Text.lineFeeds_append]
      omega

lemma mem_ofPieces {n : Int} {ps : List (Text.Piece Marker)} {t : Token} {m : Marker}
    (h : t ∈ ofPieces n ps) (hm : t.kind = .tag m) : .found m t.value ∈ ps := by
  induction ps generalizing n with
  | nil => cases h
  | cons p ps ih =>
    rw [ofPieces, List.mem_cons] at h
    rcases h with rfl | h
    · cases p with
      | plain u => cases hm
      | found a u =>
        cases hm
        exact List.mem_cons_self
    · exact List.mem_cons_of_mem p (ih h)

lemma ofPieces_eq_append {n : Int} {ps : List (Text.Piece Marker)} {before after : List Token}
    (h : ofPieces n ps = before ++ after) : ∃ qs rs k, ps = qs ++ rs ∧ ofPieces k rs = after := by
  induction before generalizing n ps with
  | nil => exact ⟨[], ps, n, rfl, h⟩
  | cons t before ih =>
    cases ps with
    | nil => cases h
    | cons p ps =>
      obtain ⟨qs, rs, k, rfl, hrs⟩ := ih (List.cons.inj h).2
      exact ⟨p :: qs, rs, k, rfl, hrs⟩

end Token

/-- **The tokens spell the view.** -/
theorem spelled_tokens (source : Text) : spelled (tokens source) = source := by
  rw [tokens, Token.spelled_ofPieces, Text.spelled_pieces Marker.first?_sound]

/-- A view around one of its tokens. -/
lemma eq_of_tokens {source : Text} {before after : List Token} {t : Token}
    (h : tokens source = before ++ t :: after) :
    source = spelled before ++ (t.value ++ spelled after) := by
  rw [← spelled_tokens source, h, spelled_append, spelled_cons]

/-- **The line of a token is counted in the part of the view in front of it.** -/
theorem line_of_tokens {source : Text} {before after : List Token} {t : Token}
    (h : tokens source = before ++ t :: after) : t.line = Text.lineBehind (spelled before) :=
  Token.line_of_ofPieces h

/-- A marker is written as markers of its kind are. -/
theorem value_of_tokens {source : Text} {t : Token} {m : Marker} (h : t ∈ tokens source)
    (hm : t.kind = .tag m) : t.value = m.text := by
  obtain ⟨r, hr⟩ :=
    Text.match_of_mem_pieces Marker.first?_sound source (Token.mem_ofPieces h hm)
  obtain ⟨hstart, hlength⟩ := Marker.first?_eq_some hr
  exact (List.prefix_of_prefix_length_le (List.prefix_append _ _) hstart
    (by omega)).eq_of_length hlength

/-- Behind a run of text stands a marker or the end of the view. -/
theorem tag_of_tokens {source : Text} {before after : List Token} {t u : Token}
    (h : tokens source = before ++ t :: u :: after) (hkind : t.kind = .text) :
    ∃ m, u.kind = .tag m := by
  obtain ⟨qs, rs, k, hpieces, hrs⟩ := Token.ofPieces_eq_append h
  rcases rs with _ | ⟨p, _ | ⟨q, rs⟩⟩
  · cases hrs
  · cases hrs
  · cases hrs
    cases p with
    | found m v => cases hkind
    | plain v =>
      obtain ⟨m, w, rfl⟩ := Text.pieces_apart Marker.first?_sound source hpieces
      exact ⟨m, rfl⟩

end ViewEngine

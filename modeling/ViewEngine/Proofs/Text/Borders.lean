/-
# Cutting a text that is put together from two parts

A text that is put together is cut part by part, unless a match lies across the border between the
parts.  Only the matches that are taken count here: inside a match another one may begin that would
cross the border, and it is passed over.  Where a run of characters ends at the border and another one
begins there, the two runs are one in the whole text.

* `Matcher.Local`: matchers that look at no more than what they take;
* `Straddled`: a match lies across the border;
* `pieces_append`: if none does, the pieces of both parts are joined.
-/
import ViewEngine.Proofs.Text.Pieces

namespace ViewEngine.Text

variable {α : Type}

/-- What a matcher finds depends on the characters that it takes, and on no others. -/
structure Matcher.Local (m : Matcher α) : Prop where
  /-- The characters behind a match do not matter. -/
  append : ∀ {t a n}, m t = some (a, n) → ∀ v, m (t ++ v) = some (a, n)
  /-- A match that ends in the front part of a text is found in that part. -/
  left : ∀ {t v a n}, m (t ++ v) = some (a, n) → n ≤ t.length → m t = some (a, n)

/-- A match that is taken in the two texts together begins in the first and ends in the second. -/
def Straddled (m : Matcher α) (u v : Text) : Prop :=
  ∃ before a w after, pieces m (u ++ v) = before ++ .found a w :: after ∧
    (before.flatMap Piece.text).length < u.length ∧
    u.length < (before.flatMap Piece.text).length + w.length

/-- Pieces in front of others; two runs that meet are one. -/
def Piece.join : List (Piece α) → List (Piece α) → List (Piece α)
  | [], qs => qs
  | [.plain t], .plain s :: qs => .plain (t ++ s) :: qs
  | p :: ps, qs => p :: join ps qs

namespace Piece

lemma join_found (a : α) (t : Text) (ps qs : List (Piece α)) :
    join (.found a t :: ps) qs = .found a t :: join ps qs := by
  cases ps <;> rfl

/-- A character in front of the first pieces is in front of all. -/
lemma join_cons (c : Char) (ps qs : List (Piece α)) : join (cons c ps) qs = cons c (join ps qs) := by
  rcases ps with _ | ⟨⟨t⟩ | ⟨a, t⟩, _ | ⟨p, ps⟩⟩
  -- there are no pieces in front, or a single run: the character meets what begins the others
  · rcases qs with _ | ⟨⟨s⟩ | ⟨b, s⟩, qs⟩ <;> rfl
  · rcases qs with _ | ⟨⟨s⟩ | ⟨b, s⟩, qs⟩ <;> rfl
  · rfl
  · rfl
  · rfl

end Piece

variable {m : Matcher α} {v : Text}

lemma Straddled.cons {c : Char} {t : Text} (hc : m (c :: (t ++ v)) = none) (h : Straddled m t v) :
    Straddled m (c :: t) v := by
  obtain ⟨before, a, w, after, hpieces, hbegin, hend⟩ := h
  obtain ⟨before', hpieces', hspelled⟩ := exists_split_cons hc hpieces
  refine ⟨before', a, w, after, hpieces', ?_, ?_⟩
  · rw [hspelled, List.length_cons, List.length_cons]
    omega
  · rw [hspelled, List.length_cons, List.length_cons]
    omega

lemma Straddled.behind {a : α} {u t : Text} (hu : u ≠ [])
    (hfound : m (u ++ (t ++ v)) = some (a, u.length)) (h : Straddled m t v) :
    Straddled m (u ++ t) v := by
  obtain ⟨before, b, w, after, hpieces, hbegin, hend⟩ := h
  refine ⟨.found a u :: before, b, w, after, ?_, ?_, ?_⟩
  · rw [List.append_assoc, pieces_found hu hfound, hpieces]
    rfl
  · rw [List.flatMap_cons, List.length_append, List.length_append, Piece.text]
    omega
  · rw [List.flatMap_cons, List.length_append, List.length_append, Piece.text]
    omega

/-- Where nothing begins in the first part, nothing begins in the whole text, as it would end in the
second part. -/
lemma none_of_not_straddled (hm : m.Sound) (hlocal : m.Local) {c : Char} {t : Text}
    (hc : m (c :: t) = none) (h : ¬ Straddled m (c :: t) v) : m (c :: (t ++ v)) = none := by
  rcases hfound : m (c :: (t ++ v)) with _ | ⟨a, n⟩
  · rfl
  obtain ⟨w, r, hwr, hw, rfl⟩ := hm.split hfound
  by_cases hlength : w.length ≤ (c :: t).length
  · have hleft : m (c :: t) = some (a, w.length) := hlocal.left hfound hlength
    rw [hc] at hleft
    cases hleft
  · refine absurd ⟨[], a, w, pieces m r, ?_, ?_, ?_⟩ h
    · rw [hwr] at hfound
      rw [List.cons_append, hwr, pieces_found hw hfound]
      rfl
    · simp
    · simpa using hlength

/-- **A text that is put together is cut part by part**, if no match that is taken lies across the
border. -/
theorem pieces_append (hm : m.Sound) (hlocal : m.Local) : ∀ u, ¬ Straddled m u v →
    pieces m (u ++ v) = Piece.join (pieces m u) (pieces m v) := by
  refine hm.induction ?_ ?_ ?_
  · intro _
    rfl
  · intro c t hc ih h
    have hcv := none_of_not_straddled hm hlocal hc h
    rw [List.cons_append, pieces_cons hcv, pieces_cons hc, ih fun ht => h (ht.cons hcv),
      Piece.join_cons]
  · intro a u t hu hfound ih h
    have hbehind : m (u ++ (t ++ v)) = some (a, u.length) := by
      rw [← List.append_assoc]
      exact hlocal.append hfound v
    rw [List.append_assoc, pieces_found hu hbehind, pieces_found hu hfound,
      ih fun ht => h (ht.behind hu hbehind), Piece.join_found]

end ViewEngine.Text

/-
# What a matcher finds

A text is cut at what a matcher finds, from left to right.  This file turns the cutting into
reasoning about the text itself: what happens at a place where nothing begins, what happens at a
match, an induction that follows the cutting, cases in which the pieces of a text that is put together
are known from its parts, and what the pieces say about the text that was cut.

* `Matcher.Sound.induction`: the induction along the pieces of a text;
* `pieces_of_free`: a text in which nothing begins is a single run;
* `replaceAll_append`: replacing goes part by part if no match sees the border between the parts;
* `spelled_pieces`: the pieces put together are the text;
* `pieces_behind`: the last pieces of a text are the pieces of their own text;
* `Matcher.OnlyBehind.single`: what a text with a single match gives.
-/
import Mathlib.Tactic.Common
import Mathlib.Tactic.Lemma
import ViewEngine.Text.Pieces

namespace ViewEngine.Text

variable {α : Type}

namespace Matcher

/-- A matcher takes some characters of the text, and no more than there are. -/
structure Sound (m : Matcher α) : Prop where
  /-- Every match has a character. -/
  pos : ∀ {t a n}, m t = some (a, n) → 0 < n
  /-- Every match lies in the text. -/
  le : ∀ {t a n}, m t = some (a, n) → n ≤ t.length

/-- Nothing begins anywhere in the text. -/
def Free (m : Matcher α) (t : Text) : Prop := ∀ s, s <:+ t → m s = none

variable {m : Matcher α}

lemma Free.tail {c : Char} {t : Text} (h : m.Free (c :: t)) : m.Free t :=
  fun s hs => h s (hs.trans (List.suffix_cons c t))

lemma Sound.nil (hm : m.Sound) : m [] = none := by
  rcases h : m [] with _ | ⟨a, n⟩
  · rfl
  · have hpos : 0 < n := hm.pos h
    have hle : n ≤ 0 := hm.le h
    omega

/-- A match splits the text into the characters that it takes and the others. -/
lemma Sound.split (hm : m.Sound) {t : Text} {a : α} {n : Nat} (h : m t = some (a, n)) :
    ∃ u r, t = u ++ r ∧ u ≠ [] ∧ n = u.length := by
  have hpos := hm.pos h
  have hle := hm.le h
  refine ⟨t.take n, t.drop n, (List.take_append_drop n t).symm, ?_, by simp; omega⟩
  intro hnil
  have hlen := congrArg List.length hnil
  rw [List.length_take, List.length_nil] at hlen
  omega

/-- The induction along the pieces of a text. -/
theorem Sound.induction (hm : m.Sound) {P : Text → Prop} (nil : P [])
    (plain : ∀ c t, m (c :: t) = none → P t → P (c :: t))
    (found : ∀ a u t, u ≠ [] → m (u ++ t) = some (a, u.length) → P t → P (u ++ t)) :
    ∀ t, P t := by
  -- a match takes many characters at once, so the induction is on the length
  intro t
  induction hn : t.length using Nat.strongRecOn generalizing t with
  | _ n ih =>
    cases t with
    | nil => exact nil
    | cons c t =>
      rcases h : m (c :: t) with _ | ⟨a, k⟩
      · exact plain c t h (ih t.length (by simp at hn; omega) t rfl)
      · obtain ⟨u, r, hur, hu, rfl⟩ := hm.split h
        rw [hur] at h hn ⊢
        have hlen : 0 < u.length := List.length_pos_iff.mpr hu
        exact found a u r hu h (ih r.length (by simp at hn; omega) r rfl)

end Matcher

/-! ## The pieces, place by place -/

variable {m : Matcher α}

@[simp] lemma pieces_nil : pieces m [] = [] := rfl

lemma piecesFrom_length (m : Matcher α) (u t : Text) :
    piecesFrom m u.length (u ++ t) = pieces m t := by
  induction u with
  | nil => rfl
  | cons c u ih => simpa [piecesFrom] using ih

lemma pieces_cons {c : Char} {t : Text} (h : m (c :: t) = none) :
    pieces m (c :: t) = Piece.cons c (pieces m t) := by
  simp only [pieces, piecesFrom, h]

lemma pieces_found {a : α} {u t : Text} (hu : u ≠ []) (h : m (u ++ t) = some (a, u.length)) :
    pieces m (u ++ t) = .found a u :: pieces m t := by
  cases u with
  | nil => exact absurd rfl hu
  | cons c u =>
    rw [List.cons_append] at h
    simp only [List.cons_append, pieces, piecesFrom, h]
    have hlen : (c :: u).length - 1 = u.length := by simp
    rw [hlen, piecesFrom_length]
    simp [pieces]

/-- A run of characters at which nothing begins is one piece, if a match follows it. -/
lemma pieces_plain_append {u v : Text} (hu : u ≠ [])
    (h : ∀ s, s <:+ u → s ≠ [] → m (s ++ v) = none)
    (hv : ∀ t ps, pieces m v ≠ .plain t :: ps) :
    pieces m (u ++ v) = .plain u :: pieces m v := by
  induction u with
  | nil => exact absurd rfl hu
  | cons c u ih =>
    have hc : m (c :: (u ++ v)) = none := h (c :: u) (List.suffix_refl _) (by simp)
    rw [List.cons_append, pieces_cons hc]
    rcases u with _ | ⟨d, u⟩
    -- the last character of the run: no run may follow that it would be joined to
    · rw [List.nil_append]
      cases hp : pieces m v with
      | nil => rfl
      | cons p ps =>
        cases p with
        | plain t => exact absurd hp (hv t ps)
        | found a t => rfl
    · rw [ih (by simp) (fun s hs => h s (hs.trans (List.suffix_cons _ _)))]
      rfl

/-- A run of characters at which nothing begins is joined to the run that follows it. -/
lemma pieces_plain_join {u v t : Text} {ps : List (Piece α)}
    (h : ∀ s, s <:+ u → s ≠ [] → m (s ++ v) = none) (hv : pieces m v = .plain t :: ps) :
    pieces m (u ++ v) = .plain (u ++ t) :: ps := by
  induction u with
  | nil => exact hv
  | cons c u ih =>
    have hc : m (c :: (u ++ v)) = none := h (c :: u) (List.suffix_refl _) (by simp)
    rw [List.cons_append, pieces_cons hc, ih fun s hs => h s (hs.trans (List.suffix_cons _ _))]
    rfl

/-- A text in which nothing begins is a single run. -/
lemma pieces_of_free {t : Text} (h : m.Free t) (ht : t ≠ []) : pieces m t = [.plain t] := by
  have := pieces_plain_append (v := []) (m := m) ht
    (fun s hs _ => by simpa using h s hs) (by simp)
  simpa using this

/-! ## Replacing -/

/-- What stands for a piece when matches are replaced. -/
def Piece.fill (f : α → Text → Text) : Piece α → Text
  | plain t => t
  | found a t => f a t

/-- What a piece holds. -/
def Piece.held? : Piece α → Option α
  | plain _ => none
  | found a _ => some a

variable {f : α → Text → Text}

lemma replaceAll_eq_flatMap (t : Text) : replaceAll m f t = (pieces m t).flatMap (Piece.fill f) :=
  rfl

lemma findAll_eq_filterMap (t : Text) : findAll m t = (pieces m t).filterMap Piece.held? := rfl

@[simp] lemma replaceAll_nil : replaceAll m f [] = [] := rfl

lemma flatMap_cons_piece {g : Piece α → Text} (hg : ∀ t, g (.plain t) = t) (c : Char)
    (ps : List (Piece α)) : (Piece.cons c ps).flatMap g = c :: ps.flatMap g := by
  unfold Piece.cons
  split <;> simp [hg]

lemma replaceAll_cons {c : Char} {t : Text} (h : m (c :: t) = none) :
    replaceAll m f (c :: t) = c :: replaceAll m f t := by
  rw [replaceAll, pieces_cons h, flatMap_cons_piece (fun _ => rfl)]
  rfl

lemma replaceAll_found {a : α} {u t : Text} (hu : u ≠ []) (h : m (u ++ t) = some (a, u.length)) :
    replaceAll m f (u ++ t) = f a u ++ replaceAll m f t := by
  rw [replaceAll, pieces_found hu h, List.flatMap_cons]
  rfl

lemma replaceAll_of_free {t : Text} (h : m.Free t) : replaceAll m f t = t := by
  induction t with
  | nil => rfl
  | cons c t ih =>
    rw [replaceAll_cons (h (c :: t) (List.suffix_refl _)), ih h.tail]

/-- Replacing goes part by part if what begins in the first part does not depend on the second. -/
theorem replaceAll_append (hm : m.Sound) {v : Text} :
    ∀ u, (∀ s, s <:+ u → s ≠ [] → m (s ++ v) = m s) →
      replaceAll m f (u ++ v) = replaceAll m f u ++ replaceAll m f v := by
  refine hm.induction ?_ ?_ ?_
  · intro _
    rfl
  · intro c t hc ih h
    have hcv : m (c :: (t ++ v)) = none := by
      have := h (c :: t) (List.suffix_refl _) (by simp)
      rwa [hc] at this
    rw [List.cons_append, replaceAll_cons hcv, replaceAll_cons hc,
      ih (fun s hs => h s (hs.trans (List.suffix_cons _ _)))]
    rfl
  · intro a w t hw hfound ih h
    -- the match is the same with `v` behind it, so it takes no more than `w`
    have hwv : m (w ++ (t ++ v)) = some (a, w.length) := by
      have := h (w ++ t) (List.suffix_refl _) (by simp [hw])
      rwa [hfound, List.append_assoc] at this
    rw [List.append_assoc, replaceAll_found hw hwv, replaceAll_found hw hfound,
      ih (fun s hs => h s (hs.trans (List.suffix_append _ _))), List.append_assoc]

/-! ## Finding -/

@[simp] lemma findAll_nil : findAll m [] = [] := rfl

/-- What is found in a text is what its pieces hold. -/
lemma mem_findAll_iff {a : α} {t : Text} :
    a ∈ findAll m t ↔ ∃ u, Piece.found a u ∈ pieces m t := by
  rw [findAll, List.mem_filterMap]
  constructor
  · rintro ⟨p, hp, ha⟩
    cases p with
    | plain _ => cases ha
    | found b u =>
      cases ha
      exact ⟨u, hp⟩
  · rintro ⟨u, hu⟩
    exact ⟨_, hu, rfl⟩

lemma findAll_cons {c : Char} {t : Text} (h : m (c :: t) = none) :
    findAll m (c :: t) = findAll m t := by
  rw [findAll, pieces_cons h, findAll]
  unfold Piece.cons
  split <;> simp_all

lemma findAll_found {a : α} {u t : Text} (hu : u ≠ []) (h : m (u ++ t) = some (a, u.length)) :
    findAll m (u ++ t) = a :: findAll m t := by
  rw [findAll, pieces_found hu h]
  rfl

/-- What is found in a text begins somewhere in it. -/
lemma match_of_mem_findAll (hm : m.Sound) {a : α} :
    ∀ t, a ∈ findAll m t → ∃ s n, s <:+ t ∧ m s = some (a, n) := by
  refine hm.induction ?_ ?_ ?_
  · intro h
    cases h
  · intro c t hc ih h
    rw [findAll_cons hc] at h
    obtain ⟨s, n, hs, hfound⟩ := ih h
    exact ⟨s, n, hs.trans (List.suffix_cons c t), hfound⟩
  · intro b u t hu hfound ih h
    rw [findAll_found hu hfound, List.mem_cons] at h
    rcases h with rfl | h
    · exact ⟨u ++ t, u.length, List.suffix_refl _, hfound⟩
    · obtain ⟨s, n, hs, hfound⟩ := ih h
      exact ⟨s, n, hs.trans (List.suffix_append u t), hfound⟩

lemma findAll_of_free {t : Text} (h : m.Free t) : findAll m t = [] := by
  induction t with
  | nil => rfl
  | cons c t ih =>
    rw [findAll_cons (h (c :: t) (List.suffix_refl _)), ih h.tail]

/-- Nothing begins anywhere in a text in which nothing is found. -/
lemma free_of_findAll_eq_nil (hm : m.Sound) : ∀ t, findAll m t = [] → m.Free t := by
  refine hm.induction ?_ ?_ ?_
  · intro _ s hs
    rw [List.suffix_nil.1 hs, hm.nil]
  · intro c t hc ih h s hs
    rw [findAll_cons hc] at h
    rcases List.suffix_cons_iff.1 hs with rfl | hs
    · exact hc
    · exact ih h s hs
  · intro a u t hu hfound _ h
    rw [findAll_found hu hfound] at h
    cases h

/-! ## Runs and matches in front of a text -/

section

variable {u v : Text}

lemma findAll_append_of_none (h : ∀ s, s <:+ u → s ≠ [] → m (s ++ v) = none) :
    findAll m (u ++ v) = findAll m v := by
  induction u with
  | nil => rfl
  | cons c u ih =>
    have hc : m (c :: (u ++ v)) = none := h (c :: u) (List.suffix_refl _) (by simp)
    rw [List.cons_append, findAll_cons hc, ih fun s hs => h s (hs.trans (List.suffix_cons _ _))]

lemma replaceAll_append_of_none (h : ∀ s, s <:+ u → s ≠ [] → m (s ++ v) = none) :
    replaceAll m f (u ++ v) = u ++ replaceAll m f v := by
  induction u with
  | nil => rfl
  | cons c u ih =>
    have hc : m (c :: (u ++ v)) = none := h (c :: u) (List.suffix_refl _) (by simp)
    rw [List.cons_append, replaceAll_cons hc, ih fun s hs => h s (hs.trans (List.suffix_cons _ _)),
      List.cons_append]

end

/-! ## What the pieces of a text say about the text -/

lemma spelled_cons (c : Char) (ps : List (Piece α)) :
    (Piece.cons c ps).flatMap Piece.text = c :: ps.flatMap Piece.text :=
  flatMap_cons_piece (fun _ => rfl) c ps

/-- The pieces of a text put together are the text. -/
theorem spelled_pieces (hm : m.Sound) : ∀ t, (pieces m t).flatMap Piece.text = t := by
  refine hm.induction rfl ?_ ?_
  · intro c t hc ih
    rw [pieces_cons hc, spelled_cons, ih]
  · intro a u t hu hfound ih
    rw [pieces_found hu hfound, List.flatMap_cons, ih]
    rfl

/-- What is found at a place is found in the pieces with the characters that it takes there. -/
lemma match_of_mem_pieces (hm : m.Sound) {a : α} {u : Text} :
    ∀ t, Piece.found a u ∈ pieces m t → ∃ r, m (u ++ r) = some (a, u.length) := by
  refine hm.induction ?_ ?_ ?_
  · intro h
    cases h
  · intro c t hc ih h
    rw [pieces_cons hc] at h
    refine ih ?_
    unfold Piece.cons at h
    split at h <;> simp_all
  · intro b v t hv hfound ih h
    rw [pieces_found hv hfound, List.mem_cons] at h
    rcases h with heq | h
    · cases heq
      exact ⟨t, hfound⟩
    · exact ih h

/-- Behind a run of characters stands a match, no other run. -/
lemma pieces_apart (hm : m.Sound) : ∀ t {before after : List (Piece α)} {u : Text} {p : Piece α},
    pieces m t = before ++ .plain u :: p :: after → ∃ a w, p = .found a w := by
  refine hm.induction ?_ ?_ ?_
  · intro before after u p h
    rw [pieces_nil] at h
    cases before <;> cases h
  · intro c t hc ih before after u p h
    rw [pieces_cons hc] at h
    rcases hp : pieces m t with _ | ⟨⟨v⟩ | ⟨b, v⟩, ps⟩
    · rw [hp] at h
      rcases before with _ | ⟨q, before⟩
      · cases h
      · cases before <;> cases h
    -- the character joins the run in front of which it stands
    · rw [hp] at h ih
      rcases before with _ | ⟨q, before⟩
      · cases h
        exact @ih [] _ _ _ rfl
      · cases h
        exact @ih (.plain v :: before) _ _ _ rfl
    · rw [hp] at h ih
      rcases before with _ | ⟨q, before⟩
      · cases h
        exact ⟨b, v, rfl⟩
      · obtain ⟨-, hrest⟩ := List.cons.inj h
        exact ih hrest
  · intro a v t hv hfound ih before after u p h
    rw [pieces_found hv hfound] at h
    rcases before with _ | ⟨q, before⟩
    · cases h
    · exact ih (List.cons.inj h).2

/-- Nothing is remembered from one piece to the next. -/
lemma pieces_behind (hm : m.Sound) : ∀ t {before after : List (Piece α)},
    pieces m t = before ++ after → pieces m (after.flatMap Piece.text) = after := by
  have whole : ∀ {t} {after : List (Piece α)}, pieces m t = after →
      pieces m (after.flatMap Piece.text) = after := by
    rintro t _ rfl
    rw [spelled_pieces hm]
  refine hm.induction ?_ ?_ ?_
  · intro before after h
    obtain ⟨-, rfl⟩ := List.append_eq_nil_iff.1 h.symm
    rfl
  · intro c t hc ih before after h
    rcases before with _ | ⟨q, before⟩
    · exact whole h
    rw [pieces_cons hc] at h
    rcases hp : pieces m t with _ | ⟨⟨v⟩ | ⟨b, v⟩, ps⟩
    · rw [hp] at h ih
      exact @ih before _ (List.cons.inj h).2
    -- the character belongs to the run that is the first piece behind it
    · rw [hp] at h ih
      exact @ih (.plain v :: before) _ (congrArg (Piece.plain v :: ·) (List.cons.inj h).2)
    · rw [hp] at h ih
      exact ih (List.cons.inj h).2
  · intro a u t hu hfound ih before after h
    rcases before with _ | ⟨q, before⟩
    · exact whole h
    rw [pieces_found hu hfound] at h
    exact ih (List.cons.inj h).2

/-- No piece is empty. -/
lemma text_ne_nil_of_mem_pieces (hm : m.Sound) : ∀ t {p : Piece α}, p ∈ pieces m t → p.text ≠ [] := by
  refine hm.induction ?_ ?_ ?_
  · intro p hp
    cases hp
  · intro c t hc ih p hp
    rw [pieces_cons hc] at hp
    unfold Piece.cons at hp
    split at hp
    · next v ps heq =>
      rcases List.mem_cons.1 hp with rfl | hp
      · exact List.cons_ne_nil c v
      · exact ih (heq ▸ List.mem_cons_of_mem _ hp)
    · rcases List.mem_cons.1 hp with rfl | hp
      · exact List.cons_ne_nil c []
      · exact ih hp
  · intro a u t hu hfound ih p hp
    rw [pieces_found hu hfound] at hp
    rcases List.mem_cons.1 hp with rfl | hp
    · exact hu
    · exact ih hp

/-- A match that is the first piece begins at the front. -/
lemma match_of_pieces (hm : m.Sound) {t u : Text} {a : α} {ps : List (Piece α)}
    (h : pieces m t = .found a u :: ps) : m t = some (a, u.length) := by
  rcases t with _ | ⟨c, t⟩
  · cases h
  rcases hfound : m (c :: t) with _ | ⟨b, n⟩
  · rw [pieces_cons hfound] at h
    unfold Piece.cons at h
    split at h <;> cases h
  · obtain ⟨v, r, hvr, hv, rfl⟩ := hm.split hfound
    rw [hvr] at hfound h
    rw [pieces_found hv hfound] at h
    cases h
    rfl

/-- Nothing begins in a run that is the first piece, whatever stands behind the run. -/
lemma none_of_pieces (hm : m.Sound) : ∀ t {u : Text} {ps : List (Piece α)},
    pieces m t = .plain u :: ps → ∀ s, s <:+ u → s ≠ [] →
      m (s ++ ps.flatMap Piece.text) = none := by
  refine hm.induction ?_ ?_ ?_
  · intro u ps h
    cases h
  · intro c t hc ih u ps h s hs hne
    have hspelled := spelled_pieces hm (c :: t)
    rw [h, List.flatMap_cons] at hspelled
    -- the whole run begins with the character at the front
    have hfront : m (u ++ ps.flatMap Piece.text) = none := by
      rw [← hc, ← hspelled]
      rfl
    rw [pieces_cons hc] at h
    rcases hp : pieces m t with _ | ⟨⟨v⟩ | ⟨b, v⟩, qs⟩
    · rw [hp] at h
      cases h
      rcases List.suffix_cons_iff.1 hs with rfl | hs
      · exact hfront
      · exact absurd (List.suffix_nil.1 hs) hne
    · rw [hp] at h ih
      cases h
      rcases List.suffix_cons_iff.1 hs with rfl | hs
      · exact hfront
      · exact ih rfl s hs hne
    · rw [hp] at h
      cases h
      rcases List.suffix_cons_iff.1 hs with rfl | hs
      · exact hfront
      · exact absurd (List.suffix_nil.1 hs) hne
  · intro a v t hv hfound _ u ps h
    rw [pieces_found hv hfound] at h
    cases h

/-- In front of a match, a character where nothing begins belongs to the pieces in front of it. -/
lemma exists_split_cons {c : Char} {t u : Text} {a : α} {ps qs : List (Piece α)}
    (hc : m (c :: t) = none) (h : pieces m t = ps ++ .found a u :: qs) :
    ∃ ps', pieces m (c :: t) = ps' ++ .found a u :: qs ∧
      ps'.flatMap Piece.text = c :: ps.flatMap Piece.text := by
  rw [pieces_cons hc, h]
  rcases ps with _ | ⟨⟨v⟩ | ⟨b, v⟩, ps⟩
  · exact ⟨[.plain [c]], rfl, rfl⟩
  · exact ⟨.plain (c :: v) :: ps, rfl, rfl⟩
  · exact ⟨.plain [c] :: .found b v :: ps, rfl, rfl⟩

/-! ## A single match -/

/-- Every match that is taken in the text stands behind `front`. -/
def Matcher.OnlyBehind (m : Matcher α) (front t : Text) : Prop :=
  ∀ ps a u qs, pieces m t = ps ++ .found a u :: qs → ps.flatMap Piece.text = front

namespace Matcher.OnlyBehind

/-- One character is taken off the front. -/
lemma tail {c : Char} {front t : Text} (h : m.OnlyBehind (c :: front) (c :: t))
    (hc : m (c :: t) = none) : m.OnlyBehind front t := by
  intro ps a u qs hps
  obtain ⟨ps', hps', htext⟩ := exists_split_cons hc hps
  exact (List.cons.inj (htext.symm.trans (h ps' a u qs hps'))).2

/-- Behind a match that is the only one nothing is found. -/
lemma free_behind (hm : m.Sound) {front u t : Text} {a : α} (hu : u ≠ [])
    (hfound : m (u ++ t) = some (a, u.length)) (h : m.OnlyBehind front (u ++ t)) :
    front = [] ∧ m.Free t := by
  rw [OnlyBehind, pieces_found hu hfound] at h
  have hfront : front = [] := (h [] a u _ rfl).symm
  refine ⟨hfront, free_of_findAll_eq_nil hm t (List.eq_nil_iff_forall_not_mem.2 fun b hb => ?_)⟩
  obtain ⟨w, hw⟩ := mem_findAll_iff.1 hb
  obtain ⟨ps, qs, hps⟩ := List.append_of_mem hw
  have hnil := h (.found a u :: ps) b w qs (by rw [hps]; rfl)
  rw [hfront, List.flatMap_cons] at hnil
  exact hu (List.append_eq_nil_iff.1 hnil).1

/-- The only match is the one that begins behind `front`. -/
theorem single (hm : m.Sound) {u v : Text} {a : α} (hu : u ≠ [])
    (hfound : m (u ++ v) = some (a, u.length)) : ∀ t {front : Text}, t = front ++ (u ++ v) →
      m.OnlyBehind front t → findAll m t = [a] ∧ replaceAll m f t = front ++ (f a u ++ v) := by
  refine hm.induction ?_ ?_ ?_
  · intro front ht _
    simp [hu] at ht
  · intro c t hc ih front ht h
    rcases front with _ | ⟨d, front⟩
    · rw [ht, List.nil_append, hfound] at hc
      cases hc
    · obtain ⟨rfl, htail⟩ := List.cons.inj ht
      obtain ⟨hfind, hreplace⟩ := ih htail (h.tail hc)
      rw [findAll_cons hc, replaceAll_cons hc, hfind, hreplace]
      exact ⟨rfl, rfl⟩
  · intro b w t hw hfound' _ front ht h
    obtain ⟨rfl, hfree⟩ := h.free_behind hm hw hfound'
    -- both matches begin at the front, so they are one
    rw [List.nil_append] at ht
    rw [ht, hfound] at hfound'
    simp only [Option.some.injEq, Prod.mk.injEq] at hfound'
    obtain ⟨rfl, hlen⟩ := hfound'
    obtain ⟨rfl, rfl⟩ := List.append_inj ht hlen.symm
    rw [findAll_found hu hfound, replaceAll_found hu hfound, findAll_of_free hfree,
      replaceAll_of_free hfree]
    exact ⟨rfl, rfl⟩

end Matcher.OnlyBehind

end ViewEngine.Text

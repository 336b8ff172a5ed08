/-
# Directives as they are written

A directive is found by its head, a name and the two characters behind the name.  This file says
what is found by how it is written, and which directives a piece of text can disturb: a directive
whose name does not begin with a closing parenthesis is found wherever it stands, whatever stands
in front of it, because a directive that begins earlier would have to end inside its head.

* `named?_eq_some_iff`: what is found is what is written;
* `named?_append_written`: the border in front of such a directive is not crossed by another one;
* `section?_eq_some`: a section has a head and an end.
-/
import ViewEngine.Layout.Directive
import ViewEngine.Proofs.Text.Pieces

namespace ViewEngine.Layout

/-- A name that a directive can hold. -/
def IsName (s : Text) : Prop := s ≠ [] ∧ '\'' ∉ s

/-- A directive with a name, as it is written. -/
def written (head name : Text) : Text := head ++ name ++ ['\'', ')']

/-- The common form of all heads: an at sign, a word, an opening parenthesis and a quote. -/
def IsHead (head : Text) : Prop := ∃ w, head = '@' :: w ++ ['(', '\''] ∧ '@' ∉ w ∧ '\'' ∉ w

lemma isHead_yieldHead : IsHead yieldHead := ⟨"yield".toList, by decide⟩

lemma isHead_particleHead : IsHead particleHead := ⟨"particle".toList, by decide⟩

lemma written_ne_nil (head name : Text) : written head name ≠ [] := by
  simp [written]

/-! ## What is found -/

lemma takeWhile_append_quote {s r : Text} (hs : '\'' ∉ s) :
    (s ++ '\'' :: r).takeWhile (· ≠ '\'') = s := by
  induction s with
  | nil => rfl
  | cons c s ih =>
    rw [List.mem_cons, not_or] at hs
    rw [List.cons_append, List.takeWhile_cons_of_pos (by simpa using Ne.symm hs.1), ih hs.2]

/-- Texts are cut at their first quote in one way only. -/
lemma quote_split_unique {a b r s : Text} (ha : '\'' ∉ a) (hb : '\'' ∉ b)
    (h : a ++ '\'' :: r = b ++ '\'' :: s) : a = b ∧ r = s := by
  have hab : a = b := by
    rw [← takeWhile_append_quote (r := r) ha, h, takeWhile_append_quote hb]
  subst hab
  exact ⟨rfl, by simpa using h⟩

lemma named?_written {head s : Text} (hs : IsName s) (r : Text) :
    named? head (written head s ++ r) = some (s, (written head s).length) := by
  have hfront : Text.after? head (written head s ++ r) = some (s ++ '\'' :: ')' :: r) :=
    Text.after?_eq_some_iff.2 (by simp [written])
  have hback : Text.after? ['\'', ')'] ('\'' :: ')' :: r) = some r :=
    Text.after?_eq_some_iff.2 rfl
  have hempty : s.isEmpty = false := by simp [hs.1]
  simp only [named?, hfront, Option.bind_eq_bind, Option.bind_some, takeWhile_append_quote hs.2,
    hempty, List.drop_left, hback]
  simp [written]
  omega

/-- **What is found is what is written**: a directive begins where its head, a name and the two
characters behind the name stand. -/
theorem named?_eq_some_iff {head t s : Text} {n : Nat} :
    named? head t = some (s, n) ↔ IsName s ∧ n = (written head s).length ∧ written head s <+: t := by
  constructor
  · intro h
    simp only [named?, Option.bind_eq_bind, Option.bind_eq_some_iff] at h
    obtain ⟨r, hr, h⟩ := h
    rw [Text.after?_eq_some_iff] at hr
    split at h
    · simp at h
    · rename_i hne
      simp only [Option.bind_eq_some_iff, Option.some.injEq, Prod.mk.injEq] at h
      obtain ⟨r', hr', rfl, hn⟩ := h
      rw [Text.after?_eq_some_iff] at hr'
      have hcut : r.takeWhile (· ≠ '\'') ++ r.drop (r.takeWhile (· ≠ '\'')).length = r :=
        List.prefix_iff_eq_append.1 (List.takeWhile_prefix _)
      have ht : t = written head (r.takeWhile (· ≠ '\'')) ++ r' := by
        rw [hr, written]
        conv_lhs => rw [← hcut, hr']
        simp
      refine ⟨⟨by simpa using hne, ?_⟩, ?_, ⟨r', ht.symm⟩⟩
      · intro hmem
        have hall := List.all_eq_true.1 (List.all_takeWhile (l := r) (p := (· ≠ '\''))) _ hmem
        simp at hall
      · have hlen := congrArg List.length ht
        rw [List.length_append] at hlen
        omega
  · rintro ⟨hs, rfl, r, rfl⟩
    exact named?_written hs r

lemma named?_sound (head : Text) : (named? head).Sound where
  pos h := by
    obtain ⟨-, rfl, -⟩ := named?_eq_some_iff.1 h
    exact List.length_pos_iff.2 (written_ne_nil _ _)
  le h := by
    obtain ⟨-, rfl, hp⟩ := named?_eq_some_iff.1 h
    exact hp.length_le

/-- A directive that is found in a text has a name. -/
lemma isName_of_mem_findAll {head s t : Text} (h : s ∈ Text.findAll (named? head) t) :
    IsName s := by
  obtain ⟨u, n, -, hfound⟩ := Text.match_of_mem_findAll (named?_sound head) t h
  exact (named?_eq_some_iff.1 hfound).1

/-- The name of a parent is a name. -/
lemma isName_parent {s p : Text} (h : (dependencies s).parent = some p) : IsName p :=
  isName_of_mem_findAll (List.mem_of_mem_head? h)

/-- A text in which no directive of a kind is written. -/
lemma named?_free {head t : Text} (h : ∀ s, IsName s → ¬ written head s <:+: t) :
    (named? head).Free t := by
  intro u hu
  rcases hn : named? head u with _ | ⟨s, n⟩
  · rfl
  · obtain ⟨hs, -, hp⟩ := named?_eq_some_iff.1 hn
    exact absurd (hp.isInfix.trans hu.isInfix) (h s hs)

/-! ## Borders between directives -/

/-- The part of a directive behind a place inside it begins with no at sign, or lies in the name. -/
lemma written_split {head s x y : Text} (hh : IsHead head) (hx : x ≠ [])
    (h : written head s = x ++ '@' :: y) : ∃ a, '@' :: y = a ++ ['\'', ')'] ∧ a <:+ s := by
  -- the at sign cannot stand in the head or in the end, so it stands in the name
  obtain ⟨w, rfl, hw, -⟩ := hh
  obtain ⟨c, x, rfl⟩ := List.exists_cons_of_ne_nil hx
  have h1 : (w ++ ['(', '\'']) ++ (s ++ ['\'', ')']) = x ++ '@' :: y := by
    have := (List.cons.inj h).2
    simpa [written] using this
  have hw1 : '@' ∉ w ++ ['(', '\''] := by simp [hw]
  have hend : '@' ∉ ['\'', ')'] := by decide
  rcases List.append_eq_append_iff.1 h1 with ⟨a, -, ha⟩ | ⟨b, hb, hy⟩
  · rcases List.append_eq_append_iff.1 ha with ⟨b, -, hb⟩ | ⟨b, hb, hy⟩
    · exact absurd (show '@' ∈ ['\'', ')'] by rw [hb]; simp) hend
    · exact ⟨b, hy, ⟨a, hb.symm⟩⟩
  · cases b with
    | nil => exact ⟨s, hy, List.suffix_refl s⟩
    | cons d b =>
      have hd : d = '@' := (List.cons.inj hy).1.symm
      exact absurd (show '@' ∈ w ++ ['(', '\''] by rw [hb, hd]; simp) hw1

/-- A directive does not end inside another one whose name begins with no closing parenthesis. -/
lemma written_not_straddles {head head' s s' x y r : Text} (hh : IsHead head) (hh' : IsHead head')
    (hs : IsName s) (hs' : IsName s') (hp : s'.head? ≠ some ')') (hx : x ≠ []) (hy : y ≠ [])
    (h : written head s = x ++ y) (hyr : y <+: written head' s' ++ r) : False := by
  obtain ⟨w, rfl, hw, hw'⟩ := hh'
  obtain ⟨z, hz⟩ := hyr
  obtain ⟨d, y, rfl⟩ := List.exists_cons_of_ne_nil hy
  have hd : d = '@' := (List.cons.inj hz).1
  subst hd
  obtain ⟨a, ha, has⟩ := written_split hh hx h
  have hquote : '\'' ∉ a := fun hmem => hs.2 (has.subset hmem)
  have hfront : '\'' ∉ '@' :: w ++ ['('] := by simp [hw']
  -- what stands before the first quote is read in two ways: as the rest of a name, and as a head
  have hcut : a ++ '\'' :: (')' :: z) = ('@' :: w ++ ['(']) ++ '\'' :: (s' ++ ['\'', ')'] ++ r) := by
    have : a ++ ['\'', ')'] ++ z = written ('@' :: w ++ ['(', '\'']) s' ++ r := by
      rw [← ha]; exact hz
    simpa [written] using this
  obtain ⟨-, hrest⟩ := quote_split_unique hquote hfront hcut
  obtain ⟨c, s'', rfl⟩ := List.exists_cons_of_ne_nil hs'.1
  exact hp (by rw [List.head?_cons, ← (List.cons.inj hrest).1])

/-- The border in front of a directive whose name begins with no closing parenthesis is not crossed
by another directive. -/
theorem named?_append_written {head head' s' x : Text} (hh : IsHead head) (hh' : IsHead head')
    (hs' : IsName s') (hp : s'.head? ≠ some ')') (hx : x ≠ []) (r : Text) :
    named? head (x ++ (written head' s' ++ r)) = named? head x := by
  have key : ∀ s n, named? head (x ++ (written head' s' ++ r)) = some (s, n) ↔
      named? head x = some (s, n) := by
    intro s n
    rw [named?_eq_some_iff, named?_eq_some_iff]
    refine and_congr_right fun hs => and_congr_right fun _ => ⟨fun h => ?_, fun h => ?_⟩
    -- a directive that begins in `x` ends in it, or else inside the one behind
    · rcases List.prefix_or_prefix_of_prefix h (List.prefix_append x _) with hwx | ⟨y, hy⟩
      · exact hwx
      · cases y with
        | nil => exact ⟨[], by simpa using hy.symm⟩
        | cons c y =>
          have hyr : c :: y <+: written head' s' ++ r := by
            rw [← hy] at h
            exact (List.prefix_append_right_inj x).1 h
          exact (written_not_straddles hh hh' hs hs' hp hx (by simp) hy.symm hyr).elim
    · exact h.trans (List.prefix_append _ _)
  rcases h : named? head x with _ | ⟨s, n⟩
  · rcases h' : named? head (x ++ (written head' s' ++ r)) with _ | ⟨s, n⟩
    · rfl
    · rw [(key s n).1 h'] at h
      cases h
  · exact (key s n).2 h

/-! ## Sections -/

lemma dropWhile_spacing_suffix (t : Text) : t.dropWhile isSpacing <:+ t := List.dropWhile_suffix _

lemma withoutLineBreak_suffix (t : Text) : withoutLineBreak t <:+ t := by
  unfold withoutLineBreak Text.afterLineBreak?
  split
  · exact ⟨['\r', '\n'], rfl⟩
  · exact ⟨['\r'], rfl⟩
  · exact ⟨['\n'], rfl⟩
  · exact List.suffix_refl _

lemma afterSectionEnd?_eq_some {t r : Text} (h : afterSectionEnd? t = some r) :
    sectionEnd ++ r <:+ t := by
  rw [afterSectionEnd?, Text.after?_eq_some_iff] at h
  rw [← h]
  exact (dropWhile_spacing_suffix _).trans (withoutLineBreak_suffix t)

lemma sectionBody?_eq_some {t b r : Text} (h : sectionBody? t = some (b, r)) :
    sectionEnd ++ r <:+ t := by
  induction t generalizing b with
  | nil => cases h
  | cons c cs ih =>
    rw [sectionBody?] at h
    split at h
    · rename_i hend
      simp only [Option.some.injEq, Prod.mk.injEq] at h
      rw [← h.2]
      exact afterSectionEnd?_eq_some hend
    · rw [Option.map_eq_some_iff] at h
      obtain ⟨⟨b', r'⟩, hb, heq⟩ := h
      simp only [Prod.mk.injEq] at heq
      rw [heq.2] at hb
      exact (ih hb).trans (List.suffix_cons _ _)

/-- A section has a head with its name and, somewhere behind it, an end. -/
theorem section?_eq_some {t name b : Text} {n : Nat} (h : section? t = some ((name, b), n)) :
    ∃ inner r, IsName name ∧ t = written sectionHead name ++ inner ++ sectionEnd ++ r ∧
      n = (written sectionHead name ++ inner ++ sectionEnd).length := by
  simp only [section?, Option.bind_eq_bind, Option.bind_eq_some_iff, Option.some.injEq,
    Prod.mk.injEq, Prod.exists] at h
  obtain ⟨name', k, hk, b', r, hr, ⟨rfl, rfl⟩, rfl⟩ := h
  obtain ⟨hname, rfl, u, rfl⟩ := named?_eq_some_iff.1 hk
  rw [List.drop_left] at hr
  obtain ⟨inner, hinner⟩ := (sectionBody?_eq_some hr).trans
    ((withoutLineBreak_suffix _).trans (dropWhile_spacing_suffix u))
  refine ⟨inner, r, hname, by simp [← hinner], ?_⟩
  rw [← hinner]
  simp
  omega

/-- A text in which no section is written. -/
lemma section?_free {t : Text}
    (h : ∀ s b, IsName s → ¬ written sectionHead s ++ b ++ sectionEnd <:+: t) : section?.Free t := by
  intro u hu
  rcases hn : section? u with _ | ⟨⟨s, b⟩, n⟩
  · rfl
  · obtain ⟨inner, r, hs, rfl, -⟩ := section?_eq_some hn
    exact absurd ((List.prefix_append _ r).isInfix.trans hu.isInfix) (h s inner hs)

end ViewEngine.Layout

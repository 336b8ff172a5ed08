/-
# Maps that keep their order

A map from texts to values is known by its keys, in the order in which they were first given a value,
and by the value of each key.  Names with their values are kept in a list of pairs; this file looks at
such a list as a map, and says what the operations on lists are as operations on maps.

* `view_put`, `view_erase`, `view_putAll`: the operations on names as operations on maps;
* `setAll_putAll`: giving values one after the other, with or without those that are overwritten.
-/
import Mathlib.Tactic.Common
import Mathlib.Tactic.Lemma
import ViewEngine.Proofs.Engine.Bindings

namespace ViewEngine

/-- A map that keeps its order. -/
@[ext]
structure OrderedMap (α : Type) where
  /-- The keys, in the order in which they were first given a value. -/
  keys : List Text
  /-- The value of a key. -/
  value : Text → Option α

namespace OrderedMap

variable {α : Type}

/-- The map without keys. -/
def empty : OrderedMap α := ⟨[], fun _ => none⟩

/-- Gives a key a value: a key that is there keeps its place, a new one comes last. -/
def set (m : OrderedMap α) (id : Text) (v : α) : OrderedMap α where
  keys := if id ∈ m.keys then m.keys else m.keys ++ [id]
  value := fun other => if other = id then some v else m.value other

/-- Gives several keys their values, one after the other. -/
def setAll (m : OrderedMap α) (es : Names α) : OrderedMap α :=
  es.foldl (fun m e => m.set e.1 e.2) m

/-- Takes a key away. -/
def delete (m : OrderedMap α) (id : Text) : OrderedMap α where
  keys := m.keys.filter (· ≠ id)
  value := fun other => if other = id then none else m.value other

/-- Takes a key away and gives its value with it, if there is one. -/
def pop (m : OrderedMap α) (id : Text) : Option ((Text × α) × OrderedMap α) :=
  (m.value id).map fun v => ((id, v), m.delete id)

/-- Takes the key away that was given a value last. -/
def popLast (m : OrderedMap α) : Option ((Text × α) × OrderedMap α) := m.keys.getLast?.bind m.pop

/-- Takes the key away that was given a value first. -/
def popFirst (m : OrderedMap α) : Option ((Text × α) × OrderedMap α) := m.keys.head?.bind m.pop

@[simp] lemma setAll_nil (m : OrderedMap α) : m.setAll [] = m := rfl

@[simp] lemma setAll_cons (m : OrderedMap α) (e : Text × α) (es : Names α) :
    m.setAll (e :: es) = (m.set e.1 e.2).setAll es := rfl

lemma setAll_append (m : OrderedMap α) (es fs : Names α) :
    m.setAll (es ++ fs) = (m.setAll es).setAll fs :=
  List.foldl_append

lemma mem_keys_set {m : OrderedMap α} {id other : Text} {v : α} :
    other ∈ (m.set id v).keys ↔ other = id ∨ other ∈ m.keys := by
  unfold set
  dsimp only
  split
  · next hid =>
    refine ⟨.inr, ?_⟩
    rintro (rfl | h)
    · exact hid
    · exact h
  · rw [List.mem_append, List.mem_singleton]
    exact Or.comm

/-- A value that is overwritten at once leaves no trace. -/
lemma set_set_self (m : OrderedMap α) (id : Text) (u v : α) : (m.set id u).set id v = m.set id v := by
  have hmem : id ∈ (m.set id u).keys := mem_keys_set.2 (.inl rfl)
  ext1
  · show (if id ∈ (m.set id u).keys then (m.set id u).keys else _) = (m.set id v).keys
    rw [if_pos hmem]
    rfl
  · funext other
    by_cases h : other = id <;> simp [set, h]

/-- A key that is there can be given its new value earlier. -/
lemma set_set_comm {m : OrderedMap α} {id other : Text} (hid : id ∈ m.keys) (h : other ≠ id)
    (u v : α) : (m.set other u).set id v = (m.set id v).set other u := by
  have hid' : id ∈ (m.set other u).keys := mem_keys_set.2 (.inr hid)
  have hkeys : (m.set id v).keys = m.keys := if_pos hid
  ext1
  · show (if id ∈ (m.set other u).keys then (m.set other u).keys else _) =
      if other ∈ (m.set id v).keys then (m.set id v).keys else (m.set id v).keys ++ [other]
    rw [if_pos hid', hkeys]
    rfl
  · funext k
    by_cases hk : k = id
    · subst hk
      simp [set, Ne.symm h]
    · simp [set, hk]

/-- A value that is given last could have been given where its key was given a value before. -/
lemma setAll_set {m : OrderedMap α} {id : Text} (hid : id ∈ m.keys) (v : α) {es : Names α}
    (hes : id ∉ es.ids) : (m.setAll es).set id v = (m.set id v).setAll es := by
  induction es generalizing m with
  | nil => rfl
  | cons e es ih =>
    simp only [Names.ids, List.map_cons, List.mem_cons, not_or] at hes
    rw [setAll_cons, setAll_cons, ih (mem_keys_set.2 (.inr hid)) hes.2,
      set_set_comm hid (Ne.symm hes.1)]

/-- Putting a value where its key is, or behind all others, is giving it last. -/
lemma setAll_put (m : OrderedMap α) (id : Text) (v : α) {es : Names α} (hes : es.ids.Nodup) :
    m.setAll (es.put id v) = (m.setAll es).set id v := by
  induction es generalizing m with
  | nil => rfl
  | cons e es ih =>
    obtain ⟨he, hes⟩ := List.nodup_cons.1 hes
    rw [Names.put]
    split
    · next heq =>
      subst heq
      rw [setAll_cons, setAll_cons, setAll_set (mem_keys_set.2 (.inl rfl)) v he, set_set_self]
    · rw [setAll_cons, ih _ hes]
      rfl

end OrderedMap

/-! ## Names as a map -/

namespace Names

variable {α : Type} {es new : Names α}

lemma ids_put (id : Text) (v : α) (es : Names α) :
    (es.put id v).ids = if id ∈ es.ids then es.ids else es.ids ++ [id] := by
  by_cases h : id ∈ es.ids
  · rw [if_pos h]
    induction es with
    | nil => cases h
    | cons e es ih =>
      rw [put]
      split
      · next heq => simp [ids, heq]
      · next hne =>
        have htail : id ∈ ids es := by
          rw [ids, List.map_cons, List.mem_cons] at h
          exact h.resolve_left (Ne.symm hne)
        show e.1 :: ids (put id v es) = e.1 :: ids es
        rw [ih htail]
  · rw [if_neg h, put_of_not_mem h, ids, List.map_append]
    rfl

lemma nodup_put (id : Text) (v : α) (h : es.ids.Nodup) : (es.put id v).ids.Nodup := by
  rw [ids_put]
  split
  · exact h
  · next hid =>
    refine List.nodup_append.2 ⟨h, by simp, fun a ha b hb heq => ?_⟩
    exact hid (List.mem_singleton.1 hb ▸ heq ▸ ha)

lemma nodup_putAll (h : es.ids.Nodup) : (es.putAll new).ids.Nodup := by
  induction new generalizing es with
  | nil => exact h
  | cons e new ih => exact ih (nodup_put e.1 e.2 h)

lemma find?_erase (id other : Text) (es : Names α) :
    (es.erase id).find? other = if other = id then none else es.find? other := by
  induction es with
  | nil => simp [erase, find?]
  | cons e es ih =>
    rw [erase, List.filter_cons]
    by_cases he : e.1 = id
    · rw [if_neg (by simpa using he), ← erase, ih, find?]
      by_cases ho : other = id
      · rw [if_pos ho, if_pos ho]
      · rw [if_neg ho, if_neg ho, if_neg]
        exact fun heq => ho (heq ▸ he)
    · rw [if_pos (by simpa using he), ← erase, find?, find?, ih]
      by_cases ho : other = id
      · subst ho
        rw [if_neg he, if_pos rfl, if_pos rfl]
      · rw [if_neg ho, if_neg ho]

/-- The first name is taken away from the front. -/
lemma erase_head {id : Text} {v : α} (h : (ids ((id, v) :: es)).Nodup) :
    erase id ((id, v) :: es) = es := by
  have hid : id ∉ es.ids := (List.nodup_cons.1 h).1
  rw [erase, List.filter_cons_of_neg (by simp), List.filter_eq_self]
  intro e he
  have hne : e.1 ≠ id := fun heq => hid (heq ▸ List.mem_map_of_mem he)
  simpa using hne

section

variable {β : Type} (f : α → β)

lemma map_put (id : Text) (v : α) (es : Names α) :
    (es.put id v).map (fun e => (e.1, f e.2)) = put id (f v) (es.map fun e => (e.1, f e.2)) := by
  induction es with
  | nil => rfl
  | cons e es ih =>
    rw [put, List.map_cons, put]
    split
    · rfl
    · rw [List.map_cons, ih]

lemma map_putAll (es new : Names α) :
    (es.putAll new).map (fun e => (e.1, f e.2)) =
      putAll (es.map fun e => (e.1, f e.2)) (new.map fun e => (e.1, f e.2)) := by
  induction new generalizing es with
  | nil => rfl
  | cons e new ih =>
    show ((es.put e.1 e.2).putAll new).map _ = _
    rw [ih, map_put]
    rfl

lemma map_erase (id : Text) (es : Names α) :
    (es.erase id).map (fun e => (e.1, f e.2)) = erase id (es.map fun e => (e.1, f e.2)) := by
  rw [erase, erase, List.filter_map]
  rfl

end

/-- Names with their values, as a map. -/
def view (es : Names α) : OrderedMap α := ⟨es.ids, es.find?⟩

lemma view_put (id : Text) (v : α) (es : Names α) : (es.put id v).view = es.view.set id v := by
  ext1
  · exact ids_put id v es
  · funext other
    by_cases h : other = id
    · subst h
      simp [view, OrderedMap.set]
    · simp [view, OrderedMap.set, find?_put_of_ne h, h]

lemma view_putAll (es new : Names α) : (es.putAll new).view = es.view.setAll new := by
  induction new generalizing es with
  | nil => rfl
  | cons e new ih =>
    rw [OrderedMap.setAll_cons, ← view_put, ← ih]
    rfl

lemma view_erase (id : Text) (es : Names α) : (es.erase id).view = es.view.delete id := by
  ext1
  · show List.map _ (List.filter _ es) = List.filter _ (List.map _ es)
    rw [List.filter_map]
    rfl
  · funext other
    exact find?_erase id other es

end Names

namespace OrderedMap

variable {α : Type}

/-- **Giving values one after the other** comes to the same if only the last value of each key is kept,
at the place where the key was given a value first. -/
theorem setAll_putAll (m : OrderedMap α) {es : Names α} (hes : es.ids.Nodup) (new : Names α) :
    m.setAll (es.putAll new) = m.setAll (es ++ new) := by
  induction new generalizing es with
  | nil => rw [List.append_nil]; rfl
  | cons e new ih =>
    show m.setAll ((es.put e.1 e.2).putAll new) = _
    rw [ih (Names.nodup_put e.1 e.2 hes), setAll_append, setAll_append, setAll_put _ _ _ hes,
      setAll_cons]

end OrderedMap
end ViewEngine

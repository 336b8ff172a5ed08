/-
# Values under names

Lists of names with their values, in the order in which the names were first given one.  Sections of
a view, names of a script and registered helpers are all kept in this way.
-/
import ViewEngine.Text.Basic

namespace ViewEngine

/-- Names with their values. -/
abbrev Names (α : Type) := List (Text × α)

namespace Names

variable {α : Type}

/-- The value of a name. -/
def find? (id : Text) : Names α → Option α
  | [] => none
  | e :: es => if e.1 = id then some e.2 else find? id es

/-- Gives a name a value: a name that is there keeps its place, a new one comes last. -/
def put (id : Text) (v : α) : Names α → Names α
  | [] => [(id, v)]
  | e :: es => if e.1 = id then (id, v) :: es else e :: put id v es

/-- Gives several names their values, one after the other. -/
def putAll (es new : Names α) : Names α := new.foldl (fun es e => put e.1 e.2 es) es

/-- Takes a name away. -/
def erase (id : Text) (es : Names α) : Names α := es.filter fun e => e.1 ≠ id

/-- The names. -/
def ids (es : Names α) : List Text := es.map (·.1)

@[simp] theorem find?_put_self (id : Text) (v : α) (es : Names α) :
    (es.put id v).find? id = some v := by
  induction es with
  | nil => simp [put, find?]
  | cons e es ih => by_cases h : e.1 = id <;> simp [put, find?, h, ih]

theorem find?_put_of_ne {id other : Text} (h : other ≠ id) (v : α) (es : Names α) :
    (es.put id v).find? other = es.find? other := by
  induction es with
  | nil => simp [put, find?, h.symm]
  | cons e es ih =>
    by_cases he : e.1 = id
    · have hne : id ≠ other := h.symm
      simp [put, find?, he, hne]
    · simp [put, find?, he, ih]

/-- The value that a name is given last. -/
def last? (id : Text) (es : Names α) : Option α := find? id es.reverse

theorem find?_append (id : Text) (es fs : Names α) :
    find? id (es ++ fs) = (es.find? id).or (fs.find? id) := by
  induction es with
  | nil => rfl
  | cons e es ih =>
    rw [List.cons_append, find?, find?]
    split
    · rfl
    · exact ih

theorem find?_singleton (id other : Text) (v : α) :
    find? other [(id, v)] = if other = id then some v else none := by
  rw [find?, find?]
  by_cases h : id = other
  · rw [if_pos h, if_pos h.symm]
  · rw [if_neg h, if_neg (Ne.symm h)]

theorem find?_put (id other : Text) (v : α) (es : Names α) :
    (es.put id v).find? other = (find? other [(id, v)]).or (es.find? other) := by
  rw [find?_singleton]
  by_cases h : other = id
  · rw [if_pos h, h, find?_put_self]
    rfl
  · rw [if_neg h, find?_put_of_ne h]
    rfl

/-- **Of names that are put over each other, the last one counts.** -/
theorem find?_putAll (id : Text) (es new : Names α) :
    (es.putAll new).find? id = (new.last? id).or (es.find? id) := by
  induction new generalizing es with
  | nil => rfl
  | cons e new ih =>
    show ((es.put e.1 e.2).putAll new).find? id = _
    rw [ih, find?_put, last?, last?, List.reverse_cons, find?_append, Option.or_assoc]

theorem isSome_find?_iff {id : Text} {es : Names α} :
    (es.find? id).isSome = true ↔ id ∈ es.ids := by
  induction es with
  | nil => simp [find?, ids]
  | cons e es ih =>
    rw [find?, ids, List.map_cons, List.mem_cons, ← ids, ← ih]
    split
    · next h => simp [h]
    · next h => simp [Ne.symm h]

theorem isSome_last?_iff {id : Text} {es : Names α} :
    (es.last? id).isSome = true ↔ id ∈ es.ids := by
  rw [last?, isSome_find?_iff, ids, ids, List.map_reverse, List.mem_reverse]

end Names
end ViewEngine

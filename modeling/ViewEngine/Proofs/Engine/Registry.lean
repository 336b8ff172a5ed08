/-
# What the registry of helpers does

A name and a helper are looked at before they are registered.  This file says which pass and what is
complained about when one does not, and then of each operation of the registry what it does to the
names and when it fails.  The registry is seen as a map that keeps its order.

* `Registry.check_eq_ok_iff`, `Registry.eq_of_checkAll`: what passes;
* `Registry.find?_cases`: what looking a name up can come to;
* `Registry.view_checkAll`: registering at once what was read is giving it name by name;
* `Registry.Checked`: what is registered has passed.
-/
import Mathlib.Tactic.Common
import Mathlib.Tactic.Lemma
import ViewEngine.Proofs.Engine.Mapping
import ViewEngine.Proofs.Engine.OrderedMap

namespace ViewEngine

open Script (Datum)

/-! ## What is checked -/

/-- A name and a helper that can be registered. -/
def Usable (name helper : Datum) : Prop :=
  ∃ id h, name = .text id ∧ Text.isIdentifier id = true ∧ id ≠ outputId ∧ helper = .helper h

namespace Entries

/-- Entries that can be registered can be registered over each other: a name that is there stays. -/
lemma usable_put {k v : Datum} {es : Entries} (h : Usable k v) (hes : ∀ e ∈ es, Usable e.1 e.2) :
    ∀ e ∈ put k v es, Usable e.1 e.2 := by
  induction es with
  | nil => exact List.forall_mem_singleton.2 h
  | cons e es ih =>
    obtain ⟨he, hes⟩ := List.forall_mem_cons.1 hes
    rw [put]
    split
    · obtain ⟨id, -, hname, hid, hout, -⟩ := he
      obtain ⟨-, g, -, -, -, hhelper⟩ := h
      exact List.forall_mem_cons.2 ⟨⟨id, g, hname, hid, hout, hhelper⟩, hes⟩
    · exact List.forall_mem_cons.2 ⟨he, ih hes⟩

lemma usable_putAll {es new : Entries} (hes : ∀ e ∈ es, Usable e.1 e.2)
    (hnew : ∀ e ∈ new, Usable e.1 e.2) : ∀ e ∈ putAll es new, Usable e.1 e.2 := by
  induction new generalizing es with
  | nil => exact hes
  | cons e new ih =>
    obtain ⟨he, hnew⟩ := List.forall_mem_cons.1 hnew
    exact ih (usable_put he hes) hnew

end Entries

namespace Registry

lemma isComplaint_check {name helper : Datum} {f : Failure} (h : check name helper = .error f) :
    f.IsComplaint := by
  unfold check at h
  rcases hname : checkName name with g | id
  · rw [hname] at h
    cases h
    unfold checkName at hname
    split at hname
    · split at hname
      · cases hname
        exact isComplaint_value _
      · split at hname
        · cases hname
          exact isComplaint_value _
        · cases hname
    · cases hname
      exact isComplaint_value _
  · rw [hname] at h
    cases helper <;> cases h <;> exact isComplaint_type _

lemma isComplaint_checkAll {es : Entries} {f : Failure} (h : checkAll es = .error f) :
    f.IsComplaint := by
  induction es with
  | nil => cases h
  | cons e es ih =>
    rw [checkAll] at h
    rcases hfirst : check e.1 e.2 with g | a
    · rw [hfirst] at h
      cases h
      exact isComplaint_check hfirst
    rcases hrest : checkAll es with g | as
    · rw [hfirst, hrest] at h
      cases h
      exact ih hrest
    · rw [hfirst, hrest] at h
      cases h

lemma checkName_eq_ok_iff {name : Datum} {id : Text} :
    checkName name = .ok id ↔ name = .text id ∧ Text.isIdentifier id = true ∧ id ≠ outputId := by
  unfold checkName
  split
  · next t =>
    split
    · next h =>
      simp only [checkName.badName, reduceCtorEq, false_iff, Datum.text.injEq]
      rintro ⟨rfl, hid, -⟩
      simp [hid] at h
    · next h =>
      split
      · next hout =>
        simp only [reduceCtorEq, false_iff, Datum.text.injEq]
        rintro ⟨rfl, -, hne⟩
        exact hne hout
      · next hout =>
        simp only [Except.ok.injEq, Datum.text.injEq]
        constructor
        · rintro rfl
          exact ⟨rfl, by simpa using h, hout⟩
        · exact fun ⟨heq, _⟩ => heq
  · next hname =>
    simp only [checkName.badName, reduceCtorEq, false_iff]
    rintro ⟨rfl, -⟩
    exact hname id rfl

lemma check_eq_ok_iff {name helper : Datum} {id h : Text} :
    check name helper = .ok (id, h) ↔
      name = .text id ∧ Text.isIdentifier id = true ∧ id ≠ outputId ∧ helper = .helper h := by
  unfold check
  rcases hname : checkName name with f | t
  · simp only [bind, Except.bind, reduceCtorEq, false_iff]
    rintro ⟨h1, h2, h3, -⟩
    rw [checkName_eq_ok_iff.2 ⟨h1, h2, h3⟩] at hname
    cases hname
  · obtain ⟨rfl, hid, hout⟩ := checkName_eq_ok_iff.1 hname
    cases helper with
    | helper g =>
      simp only [bind, Except.bind, Except.ok.injEq, Prod.mk.injEq, Datum.text.injEq,
        Datum.helper.injEq]
      constructor
      · rintro ⟨rfl, rfl⟩
        exact ⟨rfl, hid, hout, rfl⟩
      · rintro ⟨rfl, -, -, rfl⟩
        exact ⟨rfl, rfl⟩
    | _ => simp [bind, Except.bind]

lemma check_of_usable {name helper : Datum} (h : Usable name helper) :
    ∃ e, check name helper = .ok e := by
  obtain ⟨id, g, hname, hid, hout, hhelper⟩ := h
  exact ⟨(id, g), check_eq_ok_iff.2 ⟨hname, hid, hout, hhelper⟩⟩

/-- What passes the check is data under names that can be registered. -/
lemma eq_of_checkAll {es : Entries} {hs : Names Text} (h : checkAll es = .ok hs) :
    es = Entries.ofNames (data ⟨hs⟩) ∧
      ∀ id ∈ hs.ids, Text.isIdentifier id = true ∧ id ≠ outputId := by
  induction es generalizing hs with
  | nil =>
    cases h
    exact ⟨rfl, fun id hid => absurd hid List.not_mem_nil⟩
  | cons e es ih =>
    rw [checkAll] at h
    rcases hfirst : check e.1 e.2 with g | ⟨id, g⟩
    · rw [hfirst] at h
      cases h
    rcases hrest : checkAll es with g' | as
    · rw [hfirst, hrest] at h
      cases h
    · rw [hfirst, hrest] at h
      cases h
      obtain ⟨hname, hid, hout, hhelper⟩ := check_eq_ok_iff.1 hfirst
      obtain ⟨rfl, has⟩ := ih hrest
      refine ⟨?_, List.forall_mem_cons.2 ⟨⟨hid, hout⟩, has⟩⟩
      rw [← Prod.eta e, hname, hhelper]
      rfl

lemma checkAll_of_usable {es : Entries} (h : ∀ e ∈ es, Usable e.1 e.2) :
    ∃ hs, checkAll es = .ok hs := by
  induction es with
  | nil => exact ⟨[], rfl⟩
  | cons e es ih =>
    obtain ⟨he, hes⟩ := List.forall_mem_cons.1 h
    obtain ⟨a, ha⟩ := check_of_usable he
    obtain ⟨as, has⟩ := ih hes
    refine ⟨a :: as, ?_⟩
    rw [checkAll, ha, has]
    rfl

/-! ## Looking a name up -/

variable {r : Registry}

lemma find?_text (id : Text) : r.find? (.text id) = .ok (r.helpers.find? id) := by
  rw [find?, Mapping.demandKey_text]
  rfl

lemma find?_error {name : Datum} {f : Failure} (hname : name.Genuine) (h : r.find? name = .error f) :
    ∃ t, f = .complaint .type t := by
  unfold find? at h
  cases hkey : Mapping.demandKey name with
  | error g =>
    rw [hkey] at h
    cases h
    exact Mapping.demandKey_error hname hkey
  | ok u =>
    rw [hkey] at h
    cases name <;> cases h

/-- Only texts are registered. -/
lemma find?_eq_some {name : Datum} {h : Text} (hfind : r.find? name = .ok (some h)) :
    ∃ id, name = .text id ∧ r.helpers.find? id = some h := by
  cases name with
  | text id =>
    rw [find?_text] at hfind
    exact ⟨id, rfl, Except.ok.inj hfind⟩
  | _ =>
    unfold find? at hfind
    cases hkey : Mapping.demandKey _ with
    | error f =>
      rw [hkey] at hfind
      cases hfind
    | ok u =>
      rw [hkey] at hfind
      cases hfind

/-- A name is registered, or missing, or it cannot be a key. -/
lemma find?_cases (hname : name.Genuine) :
    (∃ id h, name = .text id ∧ r.helpers.find? id = some h ∧ r.find? name = .ok (some h)) ∨
      r.find? name = .ok none ∨ ∃ t, r.find? name = .error (.complaint .type t) := by
  rcases hfind : r.find? name with f | _ | h
  · obtain ⟨t, rfl⟩ := find?_error hname hfind
    exact .inr (.inr ⟨t, rfl⟩)
  · exact .inr (.inl rfl)
  · obtain ⟨id, rfl, hid⟩ := find?_eq_some hfind
    exact .inl ⟨id, h, rfl, hid, rfl⟩

lemma get_of_found {h : Text} (hfind : r.find? name = .ok (some h)) : r.get name = .ok h := by
  rw [get, hfind]
  rfl

lemma get_of_missing (hfind : r.find? name = .ok none) :
    r.get name = .error (.complaint .key name.quoted) := by
  rw [get, hfind]
  rfl

lemma get_of_error {f : Failure} (hfind : r.find? name = .error f) : r.get name = .error f := by
  rw [get, hfind]
  rfl

lemma pop_of_found {id h : Text} (hfind : r.find? (.text id) = .ok (some h)) :
    r.pop (.text id) = .ok (h, ⟨r.helpers.erase id⟩) := by
  rw [pop, get_of_found hfind]
  rfl

lemma pop_of_get_error {f : Failure} (hget : r.get name = .error f) : r.pop name = .error f := by
  rw [pop, hget]
  rfl

lemma erase_eq (r : Registry) (name : Datum) : r.erase name = (r.pop name).map (·.2) := by
  unfold erase
  cases r.pop name <;> rfl

lemma set_eq (r : Registry) (name helper : Datum) :
    r.set name helper = (check name helper).map fun e => ⟨r.helpers.put e.1 e.2⟩ := by
  unfold set
  cases check name helper <;> rfl

end Registry

/-! ## The registry as a map -/

/-- A map that a registry can be: every key is an identifier other than the one of the output, and has a
helper. -/
structure OrderedMap.IsRegistry (m : OrderedMap Datum) : Prop where
  nodup : m.keys.Nodup
  isIdentifier : ∀ id ∈ m.keys, Text.isIdentifier id = true
  ne_output : ∀ id ∈ m.keys, id ≠ outputId
  isHelper : ∀ id ∈ m.keys, ∃ h, m.value id = some (.helper h)
  missing : ∀ id ∉ m.keys, m.value id = none

namespace Registry

variable {r r' : Registry}

/-- The registered helpers, as a map. -/
def view (r : Registry) : OrderedMap Datum := r.data.view

/-- The names of a registry are identifiers other than the one of the output, each once. -/
structure Checked (r : Registry) : Prop where
  nodup : r.helpers.ids.Nodup
  checked : ∀ id ∈ r.helpers.ids, Text.isIdentifier id = true ∧ id ≠ outputId

lemma view_keys (r : Registry) : r.view.keys = r.helpers.ids := by
  show List.map _ (List.map _ _) = _
  rw [List.map_map]
  rfl

lemma view_value (r : Registry) (id : Text) :
    r.view.value id = (r.helpers.find? id).map .helper :=
  Names.find?_map Datum.helper id r.helpers

lemma mem_keys_view {id : Text} : id ∈ r.view.keys ↔ ∃ h, r.helpers.find? id = some h := by
  rw [view_keys, ← Names.isSome_find?_iff, Option.isSome_iff_exists]

lemma Checked.isRegistry (hr : r.Checked) : r.view.IsRegistry where
  nodup := (view_keys r).symm ▸ hr.nodup
  isIdentifier id hid := (hr.checked id (view_keys r ▸ hid)).1
  ne_output id hid := (hr.checked id (view_keys r ▸ hid)).2
  isHelper id hid := by
    obtain ⟨h, hfind⟩ := mem_keys_view.1 hid
    exact ⟨h, by rw [view_value, hfind]; rfl⟩
  missing id hid := by
    rw [view_value, Option.map_eq_none_iff, Option.eq_none_iff_forall_ne_some]
    exact fun h hfind => hid (mem_keys_view.2 ⟨h, hfind⟩)

/-- Registering several helpers at once is giving them one after the other. -/
lemma view_putAll (hs new : Names Text) :
    view ⟨hs.putAll new⟩ = (view ⟨hs⟩).setAll (data ⟨new⟩) := by
  show Names.view (List.map _ _) = _
  rw [Names.map_putAll Datum.helper, Names.view_putAll]
  rfl

lemma view_put (hs : Names Text) (id h : Text) :
    view ⟨hs.put id h⟩ = (view ⟨hs⟩).set id (.helper h) :=
  view_putAll hs [(id, h)]

lemma view_erase (hs : Names Text) (id : Text) : view ⟨hs.erase id⟩ = (view ⟨hs⟩).delete id := by
  show Names.view (List.map _ _) = _
  rw [Names.map_erase Datum.helper, Names.view_erase]
  rfl

lemma Checked.putAll (hr : r.Checked) {new : Names Text}
    (hnew : ∀ id ∈ new.ids, Text.isIdentifier id = true ∧ id ≠ outputId) :
    Checked ⟨r.helpers.putAll new⟩ where
  nodup := Names.nodup_putAll hr.nodup
  checked id hid := by
    obtain ⟨e, he, rfl⟩ := List.mem_map.1 hid
    rcases Names.mem_putAll he with he | he
    · exact hnew e.1 (List.mem_map_of_mem he)
    · exact hr.checked e.1 (List.mem_map_of_mem he)

lemma Checked.put (hr : r.Checked) {id : Text} (h : Text) (hid : Text.isIdentifier id = true)
    (hout : id ≠ outputId) : Checked ⟨r.helpers.put id h⟩ :=
  @Checked.putAll r hr [(id, h)] fun other hother => by
    rw [List.mem_singleton.1 hother]
    exact ⟨hid, hout⟩

lemma Checked.erase (hr : r.Checked) (id : Text) : Checked ⟨r.helpers.erase id⟩ where
  nodup := hr.nodup.sublist (List.filter_sublist.map _)
  checked other hother := by
    obtain ⟨e, he, rfl⟩ := List.mem_map.1 hother
    exact hr.checked e.1 (List.mem_map_of_mem (List.mem_filter.1 he).1)

/-! ### What each operation does -/

lemma set_ok {name helper : Datum} (h : r.set name helper = .ok r') :
    ∃ id g, name = .text id ∧ Text.isIdentifier id = true ∧ id ≠ outputId ∧ helper = .helper g ∧
      r' = ⟨r.helpers.put id g⟩ := by
  rw [set_eq] at h
  rcases hcheck : check name helper with f | ⟨id, g⟩
  · rw [hcheck] at h
    cases h
  · rw [hcheck] at h
    cases h
    obtain ⟨hname, hid, hout, hhelper⟩ := check_eq_ok_iff.1 hcheck
    exact ⟨id, g, hname, hid, hout, hhelper, rfl⟩

lemma isComplaint_set {name helper : Datum} {f : Failure} (h : r.set name helper = .error f) :
    f.IsComplaint := by
  rw [set_eq] at h
  cases hcheck : check name helper with
  | error g =>
    rw [hcheck] at h
    cases h
    exact isComplaint_check hcheck
  | ok e =>
    rw [hcheck] at h
    cases h

lemma get_ok {name : Datum} {h : Text} (hget : r.get name = .ok h) :
    ∃ id, name = .text id ∧ r.helpers.find? id = some h := by
  rcases hfind : r.find? name with f | _ | g
  · rw [get_of_error hfind] at hget
    cases hget
  · rw [get_of_missing hfind] at hget
    cases hget
  · rw [get_of_found hfind] at hget
    cases hget
    exact find?_eq_some hfind

lemma pop_ok {name : Datum} {h : Text} (hpop : r.pop name = .ok (h, r')) :
    ∃ id, name = .text id ∧ r.helpers.find? id = some h ∧ r' = ⟨r.helpers.erase id⟩ := by
  rcases hget : r.get name with f | g
  · rw [pop_of_get_error hget] at hpop
    cases hpop
  · obtain ⟨id, rfl, hid⟩ := get_ok hget
    rw [pop, hget] at hpop
    cases hpop
    exact ⟨id, rfl, hid, rfl⟩

/-- Takes a name out of the registry and gives its helper back; for a missing name, something else may
be given. -/
def popOr (r : Registry) (name : Datum) (fallback : Option Datum) :
    Except Failure (Datum × Registry) :=
  match r.pop name, fallback with
  | .ok (h, r'), _ => .ok (.helper h, r')
  | .error f, some d => if f.isMissing then .ok (d, r) else .error f
  | .error f, none => .error f

/-- A helper that is taken out is given back, whatever else could be given. -/
lemma popOr_of_ok {name : Datum} {h : Text} (hpop : r.pop name = .ok (h, r')) (fallback : Option Datum) :
    r.popOr name fallback = .ok (.helper h, r') := by
  unfold popOr
  rw [hpop]

lemma popOr_of_missing {name : Datum} (hfind : r.find? name = .ok none) (d : Datum) :
    r.popOr name (some d) = .ok (d, r) := by
  unfold popOr
  rw [pop_of_get_error (get_of_missing hfind)]
  rfl

/-- If a name is not taken out, something else may be given for it. -/
lemma popOr_of_error {name d : Datum} {f : Failure} {fallback : Option Datum}
    (hpop : r.pop name = .error f) (h : r.popOr name fallback = .ok (d, r')) :
    fallback = some d ∧ r' = r := by
  unfold popOr at h
  rw [hpop] at h
  cases fallback with
  | none => cases h
  | some d' =>
    dsimp only at h
    split at h <;> cases h
    exact ⟨rfl, rfl⟩

/-- A text that is not taken out is not registered. -/
lemma find?_of_pop_error {id : Text} {f : Failure} (hpop : r.pop (.text id) = .error f) :
    r.helpers.find? id = none := by
  have hfind := find?_text (r := r) id
  cases hid : r.helpers.find? id with
  | none => rfl
  | some h =>
    rw [hid] at hfind
    rw [pop_of_found hfind] at hpop
    cases hpop

lemma erase_ok {name : Datum} (h : r.erase name = .ok r') :
    ∃ id g, name = .text id ∧ r.helpers.find? id = some g ∧ r' = ⟨r.helpers.erase id⟩ := by
  rw [erase_eq] at h
  rcases hpop : r.pop name with f | ⟨g, r₁⟩
  · rw [hpop] at h
    cases h
  · rw [hpop] at h
    cases h
    obtain ⟨id, hname, hid, rfl⟩ := pop_ok hpop
    exact ⟨id, g, hname, hid, rfl⟩

/-- What is given is the helper of a registered name, which is taken out, or something else for a name
that is not registered. -/
lemma popOr_ok {name d : Datum} {fallback : Option Datum} (h : r.popOr name fallback = .ok (d, r')) :
    (∃ id g, name = .text id ∧ r.helpers.find? id = some g ∧ d = .helper g ∧
      r' = ⟨r.helpers.erase id⟩) ∨
    (fallback = some d ∧ r' = r ∧ ∀ id, name = .text id → r.helpers.find? id = none) := by
  rcases hpop : r.pop name with f | ⟨g, r₁⟩
  · obtain ⟨hfallback, hsame⟩ := popOr_of_error hpop h
    exact .inr ⟨hfallback, hsame, fun id hname => find?_of_pop_error (hname ▸ hpop)⟩
  · rw [popOr_of_ok hpop] at h
    cases h
    obtain ⟨id, hname, hid, rfl⟩ := pop_ok hpop
    exact .inl ⟨id, g, hname, hid, rfl, rfl⟩

lemma popFirst_ok (hr : r.Checked) {id g : Text} (h : r.popFirst = .ok ((id, g), r')) :
    r.helpers.ids.head? = some id ∧ r.helpers.find? id = some g ∧
      r' = ⟨r.helpers.erase id⟩ := by
  obtain ⟨_ | ⟨e, hs⟩⟩ := r
  · cases h
  · cases h
    refine ⟨rfl, by rw [Names.find?, if_pos rfl], ?_⟩
    exact congrArg Registry.mk (Names.erase_head hr.nodup).symm

/-- A name is registered and keeps its helper, or it is registered with the given one. -/
lemma setDefault_ok {name helper : Datum} {g : Text} (h : r.setDefault name helper = .ok (g, r')) :
    ∃ id, name = .text id ∧
      (r.helpers.find? id = some g ∧ r' = r ∨
        r.helpers.find? id = none ∧ Text.isIdentifier id = true ∧ id ≠ outputId ∧
          helper = .helper g ∧ r' = ⟨r.helpers.put id g⟩) := by
  rw [setDefault] at h
  rcases hfind : r.find? name with f | _ | g'
  · rw [hfind] at h
    cases h
  · rw [hfind] at h
    rcases hcheck : check name helper with f | ⟨id, g'⟩
    · rw [hcheck] at h
      cases h
    · rw [hcheck] at h
      cases h
      obtain ⟨rfl, hid, hout, hhelper⟩ := check_eq_ok_iff.1 hcheck
      rw [find?_text] at hfind
      exact ⟨id, rfl, .inr ⟨Except.ok.inj hfind, hid, hout, hhelper, rfl⟩⟩
  · rw [hfind] at h
    cases h
    obtain ⟨id, hname, hid⟩ := find?_eq_some hfind
    exact ⟨id, hname, .inl ⟨hid, rfl⟩⟩

lemma isComplaint_pop {name : Datum} {f : Failure} (hname : name.Genuine)
    (hpop : r.pop name = .error f) : f.IsComplaint := by
  rcases find?_cases (r := r) hname with ⟨id, h, rfl, -, hfind⟩ | hfind | ⟨t, hfind⟩
  · rw [pop_of_found hfind] at hpop
    cases hpop
  · rw [pop_of_get_error (get_of_missing hfind)] at hpop
    cases hpop
    exact isComplaint_key _
  · rw [pop_of_get_error (get_of_error hfind)] at hpop
    cases hpop
    exact isComplaint_type t

lemma isComplaint_popOr {name : Datum} {fallback : Option Datum} {f : Failure} (hname : name.Genuine)
    (h : r.popOr name fallback = .error f) : f.IsComplaint := by
  unfold popOr at h
  split at h
  · cases h
  · next g d hpop =>
    split at h <;> cases h
    exact isComplaint_pop hname hpop
  · next g hpop =>
    cases h
    exact isComplaint_pop hname hpop

lemma isComplaint_setDefault {name helper : Datum} {f : Failure} (hname : name.Genuine)
    (h : r.setDefault name helper = .error f) : f.IsComplaint := by
  unfold setDefault at h
  rcases hfind : r.find? name with g | _ | g
  · rw [hfind] at h
    cases h
    obtain ⟨t, rfl⟩ := find?_error hname hfind
    exact isComplaint_type t
  · rw [hfind] at h
    rcases hcheck : check name helper with g | e
    · rw [hcheck] at h
      cases h
      exact isComplaint_check hcheck
    · rw [hcheck] at h
      cases h
  · rw [hfind] at h
    cases h

/-- The pairs of a mapping and the names that stand alone are read one after the other, and then what
is left of them is checked and registered. -/
lemma update_eq (r : Registry) (helpers : Datum) (named : Names Datum) :
    r.update helpers named =
      (Mapping.pairs helpers).bind fun ps =>
        (checkAll (Entries.putAll [] (ps ++ Entries.ofNames named))).map fun hs =>
          ⟨r.helpers.putAll hs⟩ := by
  unfold update
  rw [Mapping.entries_eq_pairs]
  cases Mapping.pairs helpers with
  | error f => rfl
  | ok ps =>
    have happend : Entries.putAll [] (ps ++ Entries.ofNames named) =
        Entries.putAll (Entries.putAll [] ps) (Entries.ofNames named) := List.foldl_append
    show (checkAll (Entries.putAll (Entries.putAll [] ps) (Entries.ofNames named)) >>= _) =
      (checkAll (Entries.putAll [] (ps ++ Entries.ofNames named))).map _
    rw [happend]
    cases checkAll (Entries.putAll (Entries.putAll [] ps) (Entries.ofNames named)) <;> rfl

lemma isComplaint_update {helpers : Datum} {named : Names Datum} {f : Failure}
    (hhelpers : helpers.Genuine) (h : r.update helpers named = .error f) : f.IsComplaint := by
  rw [update_eq] at h
  cases hpairs : Mapping.pairs helpers with
  | error g =>
    rw [hpairs] at h
    cases h
    exact Mapping.isComplaint_pairs hhelpers hpairs
  | ok ps =>
    rw [hpairs, Except.bind] at h
    cases hcheck : checkAll (Entries.putAll [] (ps ++ Entries.ofNames named)) with
    | error g =>
      rw [hcheck] at h
      cases h
      exact isComplaint_checkAll hcheck
    | ok hs =>
      rw [hcheck] at h
      cases h

/-- What is registered at once has been given name by name, each name its last helper. -/
lemma checkAll_putAll {ps : Entries} {hs : Names Text}
    (h : checkAll (Entries.putAll [] ps) = .ok hs) :
    ∃ ns, ps = Entries.ofNames ns ∧ Names.putAll [] ns = data ⟨hs⟩ ∧
      ∀ id ∈ hs.ids, Text.isIdentifier id = true ∧ id ≠ outputId := by
  obtain ⟨heq, hids⟩ := eq_of_checkAll h
  have htexts : ∀ e ∈ Entries.putAll [] ps, ∃ id, e.1 = .text id := by
    rw [heq]
    intro e he
    obtain ⟨n, -, rfl⟩ := List.mem_map.1 he
    exact ⟨n.1, rfl⟩
  obtain ⟨ns, rfl⟩ := Entries.exists_ofNames (Entries.texts_of_putAll htexts).1
  refine ⟨ns, rfl, ?_, hids⟩
  have hput : Entries.putAll [] (Entries.ofNames ns) = Entries.ofNames (Names.putAll [] ns) :=
    Entries.putAll_ofNames [] ns
  have hsame : Entries.ofNames (Names.putAll [] ns) = Entries.ofNames (data ⟨hs⟩) := hput.symm.trans heq
  rw [← Entries.names_ofNames (Names.putAll [] ns), hsame, Entries.names_ofNames]

/-- What is registered at once has been given name by name, as far as the map can tell. -/
lemma view_checkAll {ps : Entries} {hs : Names Text}
    (h : checkAll (Entries.putAll [] ps) = .ok hs) (r : Registry) :
    ∃ ns, Entries.texts? ps = some ns ∧ view ⟨r.helpers.putAll hs⟩ = r.view.setAll ns := by
  obtain ⟨ns, rfl, hdata, -⟩ := checkAll_putAll h
  refine ⟨ns, Entries.texts?_ofNames ns, ?_⟩
  have hall := @OrderedMap.setAll_putAll _ r.view [] List.nodup_nil ns
  rw [view_putAll, ← hdata, hall]
  rfl

lemma update_ok {helpers : Datum} {named : Names Datum} (h : r.update helpers named = .ok r') :
    ∃ ps hs, Mapping.pairs helpers = .ok ps ∧ r' = ⟨r.helpers.putAll hs⟩ ∧
      checkAll (Entries.putAll [] (ps ++ Entries.ofNames named)) = .ok hs := by
  rw [update_eq] at h
  cases hpairs : Mapping.pairs helpers with
  | error f =>
    rw [hpairs] at h
    cases h
  | ok ps =>
    rw [hpairs, Except.bind] at h
    cases hcheck : checkAll (Entries.putAll [] (ps ++ Entries.ofNames named)) with
    | error f =>
      rw [hcheck] at h
      cases h
    | ok hs =>
      rw [hcheck] at h
      cases h
      exact ⟨ps, hs, rfl, rfl, hcheck⟩

end Registry
end ViewEngine

/-
# The namespace of a run

The code of a view starts in a namespace that is put together from four layers: the standard helper,
the registered helpers, the data of the caller and the output of the run.  The data of the caller are
themselves a mapping, which may be written with repeated keys, and data by name over it.  This file
says of one run what each name stands for.

* `Entries.names_putAll`: of equal names among the keys of a mapping, the last one counts;
* `binds_bindings`: the namespace of a run binds each name once, to what it should;
* `Template.begins_run`: the values with which the code starts are what the names stand for.
-/
import Mathlib.Tactic.Common
import Mathlib.Tactic.Lemma
import ViewEngine.Proofs.Engine.Registry

namespace ViewEngine

open Script (Datum Memory Value)
open Script.Run (Gives)

/-! ## Names over each other -/

namespace Names

variable {α : Type}

/-- If no name is repeated, its last value is its value. -/
lemma last?_of_nodup {es : Names α} (h : es.ids.Nodup) (id : Text) : es.last? id = es.find? id := by
  have hall := find?_putAll id [] es
  rw [putAll_of_nodup (by simpa using h), List.nil_append] at hall
  rw [hall]
  exact Option.or_none.symm

end Names

namespace Entries

/-- Putting an entry changes the names only if its key is one. -/
lemma names_put (k v : Datum) (es : Entries) :
    names (put k v es) = (names es).putAll (names [(k, v)]) := by
  cases k with
  | text id =>
    show _ = (names es).put id v
    induction es with
    | nil => rfl
    | cons e es ih =>
      obtain ⟨k, u⟩ := e
      cases k with
      | text other =>
        show names (if decide (other = id) = true then _ else _) =
          Names.put id v ((other, u) :: names es)
        rw [Names.put]
        by_cases h : other = id
        · subst h
          rw [if_pos (decide_eq_true rfl), if_pos rfl]
          rfl
        · rw [if_neg (by simpa using h), if_neg h, ← ih]
          rfl
      | _ => exact ih
  | _ =>
    show _ = names es
    induction es with
    | nil => rfl
    | cons e es ih =>
      obtain ⟨k, u⟩ := e
      rw [put]
      split
      · cases k <;> first | rfl | (next h => cases h)
      · cases k with
        | text other => exact congrArg ((other, u) :: ·) ih
        | _ => exact ih

/-- The names among the keys of a mapping are put over each other. -/
lemma names_putAll (es new : Entries) : names (putAll es new) = (names es).putAll (names new) := by
  induction new generalizing es with
  | nil => rfl
  | cons e new ih =>
    have hsplit : names (e :: new) = names [e] ++ names new :=
      @List.filterMap_append _ _ [e] new _
    show names (putAll (put e.1 e.2 es) new) = _
    rw [ih, names_put, hsplit]
    exact List.foldl_append.symm

end Entries

/-! ## What names stand for -/

/-- Data as what a name of a view stands for. -/
def Script.Datum.binding : Datum → Binding
  | .helper id => .helper id
  | d => .datum d

/-- What a name stands for in the code of a view: the output belongs to the run; then come the data by
name, those of the mapping, the registered helpers, and at last the standard one. -/
def meaning (registered : OrderedMap Datum) (given : Entries) (named : Names Datum) (id : Text) :
    Option Binding :=
  if id = outputId then some .output
  else
    let standard := if id = "escape" then some (.helper "escape") else none
    ((named.last? id).or (((Entries.names given).last? id).or
      ((registered.value id).or standard))).map Datum.binding

/-- A namespace binds each name once, to what it should stand for. -/
structure Binds (ns : Names Binding) (registered : OrderedMap Datum) (given : Entries)
    (named : Names Datum) : Prop where
  nodup : ns.ids.Nodup
  find?_eq (id : Text) : ns.find? id = meaning registered given named id

/-- The data of a run are a mapping, which is written with some pairs, and data by name over it. -/
def Merges (given : Entries) (named data : Names Datum) : Prop :=
  ∀ id, data.last? id = (named.last? id).or ((Entries.names given).last? id)

/-- A call may come without a mapping. -/
lemma merges_named (named : Names Datum) : Merges [] named named := fun _ => Option.or_none.symm

/-- A mapping holds its pairs put over each other. -/
lemma merges_putAll (given : Entries) (named : Names Datum) :
    Merges given named ((Entries.names (Entries.putAll [] given)).putAll named) := by
  intro id
  have hnil : (Names.putAll [] (Entries.names given)).find? id =
      ((Entries.names given).last? id).or none := Names.find?_putAll id [] _
  have hnames : Entries.names (Entries.putAll [] given) = Names.putAll [] (Entries.names given) :=
    Entries.names_putAll [] given
  have hnodup : (Names.putAll [] (Entries.names given)).ids.Nodup :=
    @Names.nodup_putAll _ [] _ List.nodup_nil
  rw [hnames, Names.last?_of_nodup (Names.nodup_putAll hnodup), Names.find?_putAll, hnil,
    Option.or_none]

lemma bind_eq (ds : Names Datum) : bindings.bind ds = ds.map fun d => (d.1, d.2.binding) := rfl

lemma find?_standardHelpers (id : Text) :
    standardHelpers.find? id = if id = "escape" then some (.helper "escape") else none :=
  Names.find?_singleton _ _ _

lemma last?_bind (ds : Names Datum) (id : Text) :
    (bindings.bind ds).last? id = (ds.last? id).map Datum.binding := by
  rw [bind_eq, Names.last?, ← List.map_reverse]
  exact Names.find?_map Datum.binding id ds.reverse

/-- **The namespace of a run** binds each name once, to what it should stand for. -/
lemma binds_bindings {r : Registry} (hr : r.helpers.ids.Nodup) {given : Entries}
    {named data : Names Datum} (hdata : Merges given named data) :
    Binds (bindings r.data data) r.view given named where
  nodup := by
    refine Names.nodup_put _ _ (Names.nodup_putAll (Names.nodup_putAll ?_))
    exact List.pairwise_singleton _ _
  find?_eq id := by
    have hids : r.data.ids.Nodup := by
      show r.view.keys.Nodup
      rw [Registry.view_keys]
      exact hr
    rw [bindings, meaning]
    split
    · next hid =>
      rw [hid, Names.find?_put_self]
    · next hid =>
      have hstandard : (bindings.bind standardHelpers).find? id =
          (standardHelpers.find? id).map Datum.binding := Names.find?_map Datum.binding id _
      rw [Names.find?_put_of_ne hid, Names.find?_putAll, Names.find?_putAll, last?_bind, last?_bind,
        hstandard, hdata id, Names.last?_of_nodup hids, find?_standardHelpers, Option.map_or,
        Option.map_or, Option.map_or, Option.map_or, Option.or_assoc]
      rfl

/-! ## Where code starts -/

/-- The names and values with which code starts, in a memory: no name is there twice, each that stands
for something has a value which is that, and no other name has one. -/
structure Begins (m : Memory) (vs : Names Value) (registered : OrderedMap Datum) (given : Entries)
    (named : Names Datum) : Prop where
  nodup : vs.ids.Nodup
  bound {id : Text} {b : Binding} (h : meaning registered given named id = some b) :
    ∃ v, vs.find? id = some v ∧ b.Loaded m v
  free {id : Text} (h : meaning registered given named id = none) : vs.find? id = none

namespace Template

/-- Runs the code of a template in a memory, with the names and values of its first frame. -/
def execute (host : Host) (t : Template) (vs : Names Value) (m : Memory) : Except Failure Text :=
  match (Script.runScript host.helpers t.script vs).run.run m with
  | (.ok _, m) => .ok m.outputText
  | (.error (.fault f), m) => .error (report t.generated m f)
  | (.error .endless, _) => .error .endless

variable {host : Host} {t : Template} {data : Names Datum} {vs : Names Value} {m : Memory}

/-- Once the names of a template are loaded, its code runs. -/
lemma run_of_loaded
    (h : Gives (loadBindings (bindings t.helpers data)) { coloured := host.coloured } vs m) :
    t.run host data = t.execute host vs m := by
  rcases hrun : (Script.runScript host.helpers t.script vs).run.run m with ⟨(_ | _) | _, m'⟩ <;>
    simp only [run, execute, Script.run_bind_ok h, hrun]

/-- **Where the code of a template starts.**  The names that it begins with stand for what they should,
and nothing has been added to the output. -/
theorem begins_run {r : Registry} (hhelpers : t.helpers = r.data) (hr : r.helpers.ids.Nodup)
    {given : Entries} {named : Names Datum} (hdata : Merges given named data)
    (hgenuine : ∀ e ∈ data, e.2.Genuine) (host : Host) :
    ∃ vs m, Begins m vs r.view given named ∧ m.output = [] ∧
      t.run host data = t.execute host vs m := by
  have hregistered : ∀ e ∈ t.helpers, e.2.Genuine := by
    intro e he
    obtain ⟨_, -, rfl⟩ := List.mem_map.1 (hhelpers ▸ he)
    trivial
  obtain ⟨vs, m, hload, hout, hids, hvs⟩ := loads_bindings
    (fun e he d hd => genuine_of_mem_bindings hregistered hgenuine he hd)
    { coloured := host.coloured }
  have hbinds : Binds (bindings t.helpers data) r.view given named :=
    hhelpers ▸ binds_bindings hr hdata
  refine ⟨vs, m, ⟨hids ▸ hbinds.nodup, fun {id b} hid => ?_, fun {id} hid => ?_⟩, hout,
    run_of_loaded hload⟩
  · exact hvs id b ((hbinds.find?_eq id).trans hid)
  · have hnone : id ∉ vs.ids := by
      rw [hids, ← Names.isSome_find?_iff, hbinds.find?_eq, hid]
      exact Bool.false_ne_true
    rwa [← Names.isSome_find?_iff, Bool.not_eq_true, Option.isSome_eq_false_iff,
      Option.isNone_iff_eq_none] at hnone

end Template

end ViewEngine

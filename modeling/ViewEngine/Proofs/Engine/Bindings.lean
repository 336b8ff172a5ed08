/-
# What a view is run with

The data of a call become names with values: a mapping is read, names are put over each other, and
the values are loaded into the memory of the run.

* `Mapping.context_dictOf`: a dictionary of names holds the data under the names;
* `Environment.contextOf_genuine`: the names of a call stand for data that were given;
* `Template.compile_ok`: what compiles;
* `Template.loads_bindings`: each name is bound to a value that is what it stands for;
* `Template.run_of_gives`: a run that ends gives its output.
-/
import Mathlib.Tactic.Common
import Mathlib.Tactic.Lemma
import ViewEngine.Engine.Environment
import ViewEngine.Proofs.Script.Loading

namespace ViewEngine

open Script (Datum DatumEntry Memory Value)
open Script.Run (Gives Kept)

/-! ## Names -/

namespace Names

variable {α : Type} {es new : Names α}

lemma put_of_not_mem {id : Text} (h : id ∉ es.ids) (v : α) : es.put id v = es ++ [(id, v)] := by
  induction es with
  | nil => rfl
  | cons e es ih =>
    simp only [ids, List.map_cons, List.mem_cons, not_or] at h
    rw [put, if_neg (Ne.symm h.1), ih h.2]
    rfl

/-- Names that are new are added one after the other. -/
lemma putAll_of_nodup (h : (ids (es ++ new)).Nodup) : es.putAll new = es ++ new := by
  induction new generalizing es with
  | nil => simp [putAll]
  | cons e new ih =>
    have hne : e.1 ∉ es.ids := by
      intro hmem
      rw [ids, List.map_append, List.nodup_append] at h
      exact h.2.2 e.1 hmem e.1 (by simp) rfl
    have hassoc : es ++ e :: new = (es ++ [e]) ++ new := by simp
    show (es.put e.1 e.2).putAll new = _
    rw [put_of_not_mem hne, hassoc]
    exact ih (hassoc ▸ h)

lemma mem_put {id : Text} {v : α} {e : Text × α} (h : e ∈ es.put id v) : e = (id, v) ∨ e ∈ es := by
  induction es with
  | nil => exact .inl (List.mem_singleton.1 h)
  | cons d es ih =>
    rw [put] at h
    split at h
    · rcases List.mem_cons.1 h with h | h
      · exact .inl h
      · exact .inr (List.mem_cons_of_mem d h)
    · rcases List.mem_cons.1 h with h | h
      · exact .inr (h ▸ List.mem_cons_self)
      · exact (ih h).imp_right (List.mem_cons_of_mem d)

lemma mem_putAll {e : Text × α} (h : e ∈ es.putAll new) : e ∈ new ∨ e ∈ es := by
  induction new generalizing es with
  | nil => exact .inr h
  | cons d new ih =>
    rcases @ih (es.put d.1 d.2) h with h | h
    · exact .inl (List.mem_cons_of_mem d h)
    · rcases mem_put h with rfl | h
      · exact .inl List.mem_cons_self
      · exact .inr h

lemma find?_putAll_of_not_mem {id : Text} (h : id ∉ new.ids) :
    (es.putAll new).find? id = es.find? id := by
  induction new generalizing es with
  | nil => rfl
  | cons e new ih =>
    simp only [ids, List.map_cons, List.mem_cons, not_or] at h
    show ((es.put e.1 e.2).putAll new).find? id = _
    rw [ih h.2, find?_put_of_ne h.1]

lemma find?_map {β : Type} (f : α → β) (id : Text) (es : Names α) :
    find? id (es.map fun e => (e.1, f e.2)) = (es.find? id).map f := by
  induction es with
  | nil => rfl
  | cons e es ih =>
    rw [List.map_cons, find?, find?]
    split
    · rfl
    · exact ih

end Names

/-! ## Mappings -/

namespace Entries

variable {es new : Entries}

lemma put_ofNames (id : Text) (v : Datum) (ns : Names Datum) :
    put (.text id) v (ofNames ns) = ofNames (ns.put id v) := by
  induction ns with
  | nil => rfl
  | cons n ns ih =>
    show (if sameKey (.text n.1) (.text id) then _ else _) = _
    rw [Names.put]
    by_cases h : n.1 = id
    · subst h
      rw [if_pos rfl, if_pos (by simp [sameKey])]
      rfl
    · rw [if_neg h, if_neg (by simp [sameKey, h])]
      exact congrArg (_ :: ·) ih

lemma putAll_ofNames (es ns : Names Datum) :
    putAll (ofNames es) (ofNames ns) = ofNames (es.putAll ns) := by
  induction ns generalizing es with
  | nil => rfl
  | cons n ns ih =>
    show putAll (put (.text n.1) n.2 (ofNames es)) (ofNames ns) = _
    rw [put_ofNames, ih]
    rfl

lemma names_ofNames (ns : Names Datum) : names (ofNames ns) = ns := by
  induction ns with
  | nil => rfl
  | cons n ns ih => exact congrArg (n :: ·) ih

/-- Every value is one that a host can hold. -/
def Genuine (es : Entries) : Prop := ∀ e ∈ es, e.2.Genuine

lemma Genuine.put {k v : Datum} (hv : v.Genuine) (h : es.Genuine) : (put k v es).Genuine := by
  induction es with
  | nil => exact fun e he => List.mem_singleton.1 he ▸ hv
  | cons d es ih =>
    have htail : Entries.Genuine es := fun e he => h e (List.mem_cons_of_mem d he)
    intro e he
    rw [Entries.put] at he
    split at he
    · rcases List.mem_cons.1 he with rfl | he
      · exact hv
      · exact htail e he
    · rcases List.mem_cons.1 he with rfl | he
      · exact h e List.mem_cons_self
      · exact ih htail e he

lemma Genuine.putAll (h : es.Genuine) (hnew : new.Genuine) : (putAll es new).Genuine := by
  induction new generalizing es with
  | nil => exact h
  | cons e new ih =>
    exact ih (.put (hnew e List.mem_cons_self) h) fun d hd => hnew d (List.mem_cons_of_mem e hd)

lemma Genuine.names (h : es.Genuine) : ∀ e ∈ names es, e.2.Genuine := by
  intro e he
  obtain ⟨d, hd, heq⟩ := List.mem_filterMap.1 he
  have hvalue := h d hd
  split at heq
  · cases heq
    exact hvalue
  · cases heq

end Entries

namespace Mapping

/-- Data under names as a dictionary. -/
def dictOf (data : Names Datum) : Datum := .dict (data.map fun e => .mk (.text e.1) e.2)

/-- A dictionary of names holds the data under the names. -/
lemma context_dictOf {data : Names Datum} (h : data.ids.Nodup) :
    context (dictOf data) = .ok data := by
  have hentries : entries (dictOf data) = .ok (Entries.putAll [] (Entries.ofNames data)) := by
    simp [entries, dictOf, Entries.ofNames, Function.comp_def]
  have hput : Entries.putAll [] (Entries.ofNames data) =
      Entries.ofNames (Names.putAll [] data) := Entries.putAll_ofNames [] data
  rw [Names.putAll_of_nodup (by simpa using h), List.nil_append] at hput
  rw [context, hentries, hput]
  exact congrArg Except.ok (Entries.names_ofNames data)

lemma genuine_of_mem_items {ds : List Datum} (h : Datum.GenuineItems ds) : ∀ d ∈ ds, d.Genuine := by
  induction ds with
  | nil => exact fun d hd => absurd hd List.not_mem_nil
  | cons e ds ih =>
    intro d hd
    rcases List.mem_cons.1 hd with rfl | hd
    · exact h.1
    · exact ih h.2 d hd

lemma genuine_of_mem_entries {es : List DatumEntry} (h : Datum.GenuineEntries es) :
    ∀ k v, .mk k v ∈ es → k.Genuine ∧ v.Genuine := by
  induction es with
  | nil => exact fun k v hd => absurd hd List.not_mem_nil
  | cons e es ih =>
    obtain ⟨k', v'⟩ := e
    intro k v hd
    rcases List.mem_cons.1 hd with heq | hd
    · cases heq
      exact h.1.2
    · exact ih h.2 k v hd

lemma genuine_elements {d : Datum} {ds : List Datum} (h : d.Genuine) (hds : elements? d = some ds) :
    ∀ e ∈ ds, e.Genuine := by
  cases d with
  | list items =>
    cases hds
    exact genuine_of_mem_items h
  | tuple items =>
    cases hds
    exact genuine_of_mem_items h
  | text t =>
    cases hds
    intro e he
    obtain ⟨c, -, rfl⟩ := List.mem_map.1 he
    trivial
  | dict es =>
    cases hds
    intro e he
    obtain ⟨⟨k, v⟩, hmem, rfl⟩ := List.mem_map.1 he
    exact (genuine_of_mem_entries h k v hmem).1
  | _ => cases hds

lemma genuine_pairAt {place : Nat} {d : Datum} {e : Datum × Datum} (h : d.Genuine)
    (he : pairAt place d = .ok e) : e.2.Genuine := by
  unfold pairAt at he
  split at he
  · rename_i k v hds
    cases hkey : demandKey k with
    | error f =>
      rw [hkey] at he
      cases he
    | ok _ =>
      rw [hkey] at he
      cases he
      exact genuine_elements h hds v (by simp)
  · cases he
  · cases he

lemma genuine_pairsFrom {place : Nat} {ds : List Datum} {es : Entries}
    (h : ∀ d ∈ ds, d.Genuine) (hes : pairsFrom place ds = .ok es) : es.Genuine := by
  induction ds generalizing place es with
  | nil =>
    cases hes
    exact fun e he => absurd he List.not_mem_nil
  | cons d ds ih =>
    rw [pairsFrom] at hes
    cases hpair : pairAt place d with
    | error f =>
      rw [hpair] at hes
      cases hes
    | ok e =>
      cases hrest : pairsFrom (place + 1) ds with
      | error f =>
        rw [hpair, hrest] at hes
        cases hes
      | ok rest =>
        rw [hpair, hrest] at hes
        cases hes
        intro e' he'
        rcases List.mem_cons.1 he' with rfl | he'
        · exact genuine_pairAt (h d List.mem_cons_self) hpair
        · exact ih (fun d hd => h d (List.mem_cons_of_mem _ hd)) hrest e' he'

/-- The values of a mapping are ones that a host can hold, if the mapping is. -/
lemma genuine_entries {d : Datum} {es : Entries} (h : d.Genuine) (hes : entries d = .ok es) :
    es.Genuine := by
  have hnil : Entries.Genuine [] := fun e he => absurd he List.not_mem_nil
  unfold entries at hes
  split at hes
  · rename_i ds
    cases hes
    refine hnil.putAll fun e he => ?_
    obtain ⟨⟨k, v⟩, hmem, rfl⟩ := List.mem_map.1 he
    exact (genuine_of_mem_entries h k v hmem).2
  · split at hes
    · rename_i ds hds
      cases hpairs : pairsFrom 0 ds with
      | error f =>
        rw [hpairs] at hes
        cases hes
      | ok pairs =>
        rw [hpairs] at hes
        cases hes
        exact hnil.putAll (genuine_pairsFrom (genuine_elements h hds) hpairs)
    · cases hes

end Mapping

/-! ## The data of a call -/

namespace Environment

/-- Data of a call that a host can hold. -/
structure Genuine (data : Option Datum) (named : Names Datum) : Prop where
  genuine : ∀ d ∈ data, d.Genuine
  named_genuine : ∀ e ∈ named, e.2.Genuine

/-- Data of a call: those by place can be read as a mapping, as a dictionary can, and a host can hold
all of them. -/
structure Acceptable (data : Option Datum) (named : Names Datum) : Prop extends
    Genuine data named where
  readable : ∃ es, Mapping.entriesOrNone data = .ok es

variable {data : Option Datum} {named ctx : Names Datum}

/-- Any dictionary will do. -/
lemma acceptable_dict {es : List DatumEntry} (hes : Datum.GenuineEntries es)
    (h : ∀ e ∈ named, e.2.Genuine) : Acceptable (some (.dict es)) named where
  readable := by
    show ∃ es', (if (Datum.dict es).isTrue then Mapping.entries (.dict es) else .ok []) = .ok es'
    split
    · exact ⟨_, rfl⟩
    · exact ⟨[], rfl⟩
  genuine d hd := by
    cases hd
    exact hes
  named_genuine := h

lemma Genuine.erase (h : Genuine data named) (id : Text) : Genuine data (named.erase id) where
  genuine := h.genuine
  named_genuine e he := h.named_genuine e (List.mem_filter.1 he).1

lemma Acceptable.erase (h : Acceptable data named) (id : Text) :
    Acceptable data (named.erase id) where
  toGenuine := h.toGenuine.erase id
  readable := h.readable

/-- The names of a call stand for data that a host can hold. -/
lemma Genuine.contextOf (h : Genuine data named) (hctx : contextOf data named = .ok ctx) :
    ∀ e ∈ ctx, e.2.Genuine := by
  cases hes : Mapping.entriesOrNone data with
  | error f =>
    rw [Environment.contextOf, hes] at hctx
    cases hctx
  | ok es =>
    rw [Environment.contextOf, hes] at hctx
    cases hctx
    have hentries : es.Genuine := by
      cases data with
      | none =>
        cases hes
        exact fun e he => absurd he List.not_mem_nil
      | some d =>
        have hread : (if d.isTrue then Mapping.entries d else .ok []) = .ok es := hes
        split at hread
        · exact Mapping.genuine_entries (h.genuine d rfl) hread
        · cases hread
          exact fun e he => absurd he List.not_mem_nil
    intro e he
    rcases Names.mem_putAll he with he | he
    · exact h.named_genuine e he
    · exact hentries.names e he

/-- Acceptable data of a call give its names. -/
theorem contextOf_genuine (h : Acceptable data named) :
    ∃ ctx, contextOf data named = .ok ctx ∧ ∀ e ∈ ctx, e.2.Genuine := by
  obtain ⟨es, hes⟩ := h.readable
  have hctx : contextOf data named = .ok ((Entries.names es).putAll named) := by
    rw [contextOf, hes]
    rfl
  exact ⟨_, hctx, h.toGenuine.contextOf hctx⟩

end Environment

/-! ## Compiling -/

/-- The code of a view has the name of the view. -/
lemma name_of_generate {source : Text} {name : Option Text} {g : Generated}
    (h : generate source name = .ok g) : g.name = name := by
  unfold generate at h
  split at h <;> cases h
  rfl

namespace Template

lemma isNameOfCode_iff {name : Option Text} :
    isNameOfCode name = true ↔ ∀ n ∈ name, '\x00' ∉ n := by
  cases name with
  | none => simp [isNameOfCode]
  | some n => simp [isNameOfCode]

section

variable {g : Generated} {helpers : Names Datum} {warnings : List ViewWarning}

/-- Under a name without the character zero, a template comes of code that compiles. -/
lemma compile_ok {ss : Script.Program} (hname : ∀ n ∈ g.name, '\x00' ∉ n)
    (h : Script.compile g.code = .ok ss) :
    compile g helpers warnings = .ok { generated := g, script := ss, helpers, warnings } := by
  rw [compile, if_pos (isNameOfCode_iff.2 hname), h]

lemma compile_error {line : Option Nat} (hname : ∀ n ∈ g.name, '\x00' ∉ n)
    (h : Script.compile g.code = .error line) :
    compile g helpers warnings = .error (.view (compileError g line)) := by
  rw [compile, if_pos (isNameOfCode_iff.2 hname), h]

/-- Under any other name no code compiles. -/
lemma compile_of_mem_zero {n : Text} (hname : g.name = some n) (h : '\x00' ∈ n) :
    compile g helpers warnings = .error (.view (compileError g none)) := by
  have hnot : isNameOfCode g.name ≠ true := fun hall => isNameOfCode_iff.1 hall n hname h
  rw [compile, if_neg hnot]

/-- What a template was compiled from. -/
lemma helpers_of_compile {t : Template} (h : compile g helpers warnings = .ok t) :
    t.helpers = helpers := by
  unfold compile at h
  split at h
  · split at h <;> cases h
    rfl
  · cases h

end

end Template

/-! ## Running -/

/-- The value is what a name of a view stands for, the relation saying what a value is if the name
stands for data. -/
def Binding.Represents (D : Datum → Value → Prop) : Binding → Value → Prop
  | output, v => v = .output
  | helper id, v => v = .helper id
  | datum d, v => D d v

/-- In the memory, the value is what a name of a view stands for. -/
def Binding.Loaded (m : Memory) : Binding → Value → Prop := Binding.Represents (Datum.Loaded m)

namespace Template

lemma genuine_of_mem_bind {ds : Names Datum} (h : ∀ e ∈ ds, e.2.Genuine) {e : Text × Binding}
    (he : e ∈ bindings.bind ds) {d : Datum} (hd : e.2 = .datum d) : d.Genuine := by
  obtain ⟨n, hn, rfl⟩ := List.mem_map.1 he
  have hgenuine := h n hn
  simp only at hd
  split at hd
  · cases hd
  · cases hd
    exact hgenuine

/-- The names of a view stand for data that a host can hold. -/
lemma genuine_of_mem_bindings {helpers data : Names Datum} (hhelpers : ∀ e ∈ helpers, e.2.Genuine)
    (hdata : ∀ e ∈ data, e.2.Genuine) {e : Text × Binding} (he : e ∈ bindings helpers data)
    {d : Datum} (hd : e.2 = .datum d) : d.Genuine := by
  have hstandard : ∀ e ∈ standardHelpers, e.2.Genuine := by
    intro e he
    rw [List.mem_singleton.1 he]
    trivial
  rcases Names.mem_put he with rfl | he
  · cases hd
  · rcases Names.mem_putAll he with he | he
    · exact genuine_of_mem_bind hdata he hd
    · rcases Names.mem_putAll he with he | he
      · exact genuine_of_mem_bind hhelpers he hd
      · exact genuine_of_mem_bind hstandard he hd

/-- **Loading names.**  Each is bound to a value that is what it stands for, in any sense in which
loaded data are so and stay so while other data are loaded. -/
theorem gives_loadBindings {D : Memory → Datum → Value → Prop}
    (hkept : ∀ {m m' d v}, Kept (fun _ => False) m m' → D m d v → D m' d v) {bs : Names Binding}
    (hbs : ∀ e ∈ bs, ∀ d, e.2 = .datum d → ∀ m, ∃ v m', Gives d.load m v m' ∧
      m'.output = m.output ∧ Kept (fun _ => False) m m' ∧ D m' d v) (m : Memory) :
    ∃ vs m', Gives (loadBindings bs) m vs m' ∧ m'.output = m.output ∧
      Kept (fun _ => False) m m' ∧ vs.ids = bs.ids ∧
      ∀ id b, bs.find? id = some b → ∃ v, vs.find? id = some v ∧ b.Represents (D m') v := by
  induction bs generalizing m with
  | nil =>
    refine ⟨[], m, ?_, rfl, .refl, rfl, fun _ _ h => by cases h⟩
    rw [loadBindings]
    exact .pure
  | cons e bs ih =>
    obtain ⟨v, m₁, hload, hout, hkept₁, hv⟩ : ∃ v m₁, Gives (loadBinding e.2) m v m₁ ∧
        m₁.output = m.output ∧ Kept (fun _ => False) m m₁ ∧ e.2.Represents (D m₁) v := by
      cases hb : e.2 with
      | output => exact ⟨.output, m, .pure, rfl, .refl, rfl⟩
      | helper id => exact ⟨.helper id, m, .pure, rfl, .refl, rfl⟩
      | datum d => exact hbs e List.mem_cons_self d hb m
    obtain ⟨vs, m₂, hloads, hout', hkept₂, hids, hvs⟩ :=
      ih (fun b hb => hbs b (List.mem_cons_of_mem e hb)) m₁
    have hlater : e.2.Represents (D m₂) v := by
      cases hb : e.2 with
      | datum d =>
        rw [hb] at hv
        exact hkept hkept₂ hv
      | _ =>
        rw [hb] at hv
        exact hv
    refine ⟨(e.1, v) :: vs, m₂, ?_, hout'.trans hout, hkept₁.trans hkept₂,
      congrArg (e.1 :: ·) hids, fun id b hb => ?_⟩
    · rw [loadBindings]
      exact hload.bind (hloads.bind .pure)
    · rw [Names.find?] at hb ⊢
      split at hb
      · rename_i heq
        cases hb
        exact ⟨v, if_pos heq, hlater⟩
      · rename_i hne
        rw [if_neg hne]
        exact hvs id b hb

/-- **Loading the names of a view** that stand for data which a host can hold. -/
theorem loads_bindings {bs : Names Binding}
    (hbs : ∀ e ∈ bs, ∀ d, e.2 = .datum d → d.Genuine) (m : Memory) :
    ∃ vs m', Gives (loadBindings bs) m vs m' ∧ m'.output = m.output ∧ vs.ids = bs.ids ∧
      ∀ id b, bs.find? id = some b → ∃ v, vs.find? id = some v ∧ b.Loaded m' v := by
  obtain ⟨vs, m', hload, hout, -, hids, hvs⟩ := gives_loadBindings (D := Datum.Loaded)
    (fun hkept h => Datum.Loaded.kept hkept _ h) (fun e he d hd m => by
      obtain ⟨v, m₁, hload, hout, hkept, -, hv⟩ := d.makes_load (hbs e he d hd) m
      exact ⟨v, m₁, hload, hout, hkept, hv⟩) m
  exact ⟨vs, m', hload, hout, hids, hvs⟩

/-- Each name of a view stands for the value that its binding was loaded as. -/
lemma find?_of_gives_loadBindings {bs : Names Binding} {vs : Names Value} {m m' : Memory}
    (h : Gives (loadBindings bs) m vs m') {id : Text} {b : Binding} (hb : bs.find? id = some b) :
    ∃ v m₁ m₂, vs.find? id = some v ∧ Gives (loadBinding b) m₁ v m₂ := by
  induction bs generalizing m vs with
  | nil => cases hb
  | cons e bs ih =>
    rw [loadBindings] at h
    obtain ⟨v, m₁, hload, hrest⟩ := h.of_bind
    obtain ⟨vs', m₂, hloads, hpure⟩ := hrest.of_bind
    cases hpure
    rw [Names.find?] at hb ⊢
    split at hb
    · rename_i heq
      cases hb
      exact ⟨v, m, m₁, if_pos heq, hload⟩
    · rename_i hne
      rw [if_neg hne]
      exact ih hloads hb

/-- A run that ends gives its output. -/
lemma run_of_gives {host : Host} {t : Template} {data : Names Datum} {m : Memory}
    {vs : Names Value} {m' : Memory}
    (hload : Gives (loadBindings (bindings t.helpers data)) { coloured := host.coloured } vs m)
    (hrun : Gives (Script.runScript host.helpers t.script vs) m () m') :
    t.run host data = .ok m'.outputText := by
  have hall := hload.bind hrun
  unfold Gives at hall
  unfold run
  simp only [hall]

end Template

end ViewEngine

/-
# Loading data

A run begins with the data of the host loaded into its memory.  The only thing that could go wrong is
a key of a dictionary that cannot be one; a host holds no such dictionary.  Then loading leaves what
was in the memory as it was, and no output, and the value that comes of it is what the data are.

* `Datum.Genuine`: the data that a host can hold;
* `Run.Settles`: a run that leaves the memory alone, such as a comparison of keys;
* `Datum.Loaded`: a value is what data are in a memory;
* `Run.MakesAt`: a run that only makes new values;
* `Datum.makes_load`: loading data only makes new values, which are what the data are.
-/
import Mathlib.Tactic.Common
import Mathlib.Tactic.Lemma
import ViewEngine.Proofs.Script.Running
import ViewEngine.Script.Datum

namespace ViewEngine.Script

/-! ## Data of a host -/

namespace Datum

/-- Data that may be a key: neither lists nor dictionaries, alone or inside tuples, and tuples inside
each other less than so many times. -/
def IsKey : Nat → Datum → Prop
  | 0, _ => False
  | n + 1, tuple ds => ∀ d ∈ ds, IsKey n d
  | _ + 1, list _ => False
  | _ + 1, dict _ => False
  | _ + 1, _ => True

mutual

/-- Data that a host can hold: the keys of a dictionary may be keys. -/
def Genuine : Datum → Prop
  | list ds => GenuineItems ds
  | tuple ds => GenuineItems ds
  | dict es => GenuineEntries es
  | object _ fs _ => GenuineFields fs
  | _ => True

/-- Every item is one that a host can hold. -/
def GenuineItems : List Datum → Prop
  | [] => True
  | d :: ds => Genuine d ∧ GenuineItems ds

/-- Every entry is one that a host can hold. -/
def GenuineEntries : List DatumEntry → Prop
  | [] => True
  | .mk k d :: es => (IsKey recursionLimit k ∧ Genuine k ∧ Genuine d) ∧ GenuineEntries es

/-- The value of every attribute is one that a host can hold. -/
def GenuineFields : List DatumField → Prop
  | [] => True
  | .mk _ d :: fs => Genuine d ∧ GenuineFields fs

end

end Datum

/-! ## Keys -/

/-- The run gives the same in every memory, which has some property, and leaves the memory alone. -/
def Run.Settles {α : Type} (x : Run α) (P : α → Prop) : Prop :=
  ∃ a, (∀ m, Run.Gives x m a m) ∧ P a

namespace Run.Settles

variable {α β : Type} {P : α → Prop} {Q : β → Prop}

lemma pure {a : α} (h : P a) : Settles (pure a) P := ⟨a, fun _ => .pure, h⟩

lemma bind {x : Run α} {f : α → Run β} (hx : Settles x P) (hf : ∀ a, P a → Settles (f a) Q) :
    Settles (x >>= f) Q := by
  obtain ⟨a, hrun, ha⟩ := hx
  obtain ⟨b, hrun', hb⟩ := hf a ha
  exact ⟨b, fun m => (hrun m).bind (hrun' m), hb⟩

end Run.Settles

open Run (Gives Kept Settles)

/-- Values that may be keys; tuples lie inside each other less than so many times. -/
def Value.IsKey : Nat → Value → Prop
  | 0, _ => False
  | n + 1, .tuple _ vs => ∀ v ∈ vs, IsKey n v
  | _ + 1, .list _ => False
  | _ + 1, .dict _ => False
  | _ + 1, .dictView .. => False
  | _ + 1, _ => True

open Value (IsKey)

lemma settles_allEqual {eq : Value → Value → Run Bool} {vs ws : List Value}
    (h : ∀ v ∈ vs, ∀ w ∈ ws, Settles (eq v w) fun _ => True) :
    Settles (allEqual eq vs ws) fun _ => True := by
  induction vs generalizing ws with
  | nil => cases ws <;> exact .pure trivial
  | cons v vs ih =>
    cases ws with
    | nil => exact .pure trivial
    | cons w ws =>
      refine .bind (h v List.mem_cons_self w List.mem_cons_self) fun same _ => ?_
      cases same
      · exact .pure trivial
      · exact ih fun v hv w hw => h v (List.mem_cons_of_mem _ hv) w (List.mem_cons_of_mem _ hw)

/-- Keys can be compared. -/
lemma settles_equalWithin {n : Nat} {v w : Value} (hv : IsKey n v) (hw : IsKey n w) :
    Settles (equalWithin n v w) fun _ => True := by
  induction n generalizing v w with
  | zero => exact hv.elim
  | succ n ih =>
    unfold equalWithin
    split
    · exact .pure trivial
    · split
      -- two tuples are compared item by item; keys are no lists and no dictionaries
      case h_2 i vs j ws _ =>
        refine settles_allEqual fun a ha b hb => ?_
        split
        · exact .pure trivial
        · exact ih (hv a ha) (hw b hb)
      case h_3 => exact hv.elim
      case h_4 => exact hv.elim
      case h_5 => exact hv.elim
      all_goals exact .pure trivial

lemma settles_equalInside {v w : Value} (hv : IsKey recursionLimit v) (hw : IsKey recursionLimit w) :
    Settles (equalInside v w) fun _ => True := by
  unfold equalInside
  split
  · exact .pure trivial
  · exact settles_equalWithin hv hw

lemma settles_demandKey {n : Nat} {v : Value} (h : IsKey n v) :
    Settles (demandKey v) fun _ => True := by
  induction n generalizing v with
  | zero => exact h.elim
  | succ n ih =>
    cases v with
    | tuple i vs =>
      induction vs with
      | nil =>
        rw [demandKey]
        exact .pure trivial
        all_goals simp
      | cons v vs ihvs =>
        rw [demandKey]
        exact .bind (ih (h v List.mem_cons_self)) fun _ _ =>
          ihvs fun w hw => h w (List.mem_cons_of_mem _ hw)
    | list a => exact h.elim
    | dict a => exact h.elim
    | dictView i p a => exact h.elim
    | _ =>
      rw [demandKey]
      exact .pure trivial
      all_goals simp

/-- Every key may be one. -/
def Keyed (es : List (Value × Value)) : Prop := ∀ e ∈ es, IsKey recursionLimit e.1

lemma settles_setEntry {key value : Value} (hkey : IsKey recursionLimit key)
    {es : List (Value × Value)} (hes : Keyed es) : Settles (setEntry key value es) Keyed := by
  induction es with
  | nil => exact .pure (by simpa [Keyed] using hkey)
  | cons e es ih =>
    have he := hes e List.mem_cons_self
    have htail : Keyed es := fun d hd => hes d (List.mem_cons_of_mem e hd)
    refine .bind (settles_equalInside he hkey) fun same _ => ?_
    cases same
    · refine .bind (ih htail) fun rest hrest => .pure fun d hd => ?_
      rcases List.mem_cons.1 hd with rfl | hd
      · exact he
      · exact hrest d hd
    · refine .pure fun d hd => ?_
      rcases List.mem_cons.1 hd with rfl | hd
      · exact he
      · exact htail d hd

lemma settles_insertEntry {key value : Value} (hkey : IsKey recursionLimit key)
    {es : List (Value × Value)} (hes : Keyed es) : Settles (insertEntry key value es) Keyed :=
  .bind (settles_demandKey hkey) fun _ _ => settles_setEntry hkey hes

/-! ## Data in a memory -/

namespace Datum

mutual

/-- In the memory, the value is what the data are: lists, dictionaries and things lie in cells. -/
inductive Loaded (m : Memory) : Datum → Value → Prop
  | none : Loaded m none .none
  | bool (b : Bool) : Loaded m (bool b) (.bool b)
  | int (i : Identity) (n : Int) : Loaded m (int n) (.int i n)
  | float (i : Identity) (x : Float) : Loaded m (float x) (.float i x)
  | text (i : Identity) (t : Text) : Loaded m (text t) (.text i t)
  | list {a : Address} {ds : List Datum} {vs : List Value} (hcell : m.cells[a]? = some (.list vs))
    (hitems : LoadedAll m ds vs) : Loaded m (list ds) (.list a)
  | tuple {i : Identity} {ds : List Datum} {vs : List Value} (hitems : LoadedAll m ds vs) :
    Loaded m (tuple ds) (.tuple i vs)
  /-- The entries are put into the dictionary one after the other. -/
  | dict {a : Address} {es : List DatumEntry} {ps vs : List (Value × Value)}
    (hcell : m.cells[a]? = some (.dict vs)) (hentries : LoadedEntries m es ps)
    (hput : ∀ m', Gives (insertEntries [] ps) m' vs m') : Loaded m (dict es) (.dict a)
  | object {a : Address} {kind : Text} {fs : List DatumField} {vs : Names Value}
    {shown : Except Text Text} (hcell : m.cells[a]? = some (.object { kind, attributes := vs, shown }))
    (hfields : LoadedFields m fs vs) : Loaded m (object kind fs shown) (.object a)
  | helper (id : Text) : Loaded m (helper id) (.helper id)

/-- The values are what the items are, one by one. -/
inductive LoadedAll (m : Memory) : List Datum → List Value → Prop
  | nil : LoadedAll m [] []
  | cons {d : Datum} {v : Value} {ds : List Datum} {vs : List Value} (h : Loaded m d v)
    (hrest : LoadedAll m ds vs) : LoadedAll m (d :: ds) (v :: vs)

/-- The pairs are what the entries are, one by one. -/
inductive LoadedEntries (m : Memory) : List DatumEntry → List (Value × Value) → Prop
  | nil : LoadedEntries m [] []
  | cons {k d : Datum} {key v : Value} {es : List DatumEntry} {ps : List (Value × Value)}
    (hkey : Loaded m k key) (h : Loaded m d v) (hrest : LoadedEntries m es ps) :
    LoadedEntries m (.mk k d :: es) ((key, v) :: ps)

/-- The attributes have the same names, and their values are what those of the fields are. -/
inductive LoadedFields (m : Memory) : List DatumField → Names Value → Prop
  | nil : LoadedFields m [] []
  | cons {id : Text} {d : Datum} {v : Value} {fs : List DatumField} {vs : Names Value}
    (h : Loaded m d v) (hrest : LoadedFields m fs vs) :
    LoadedFields m (.mk id d :: fs) ((id, v) :: vs)

end

section

variable {m m' : Memory}

lemma cell_kept (hkept : Kept (fun _ => False) m m') {a : Address} {c : Cell}
    (h : m.cells[a]? = some c) : m'.cells[a]? = some c := by
  rw [hkept.same a (Array.getElem?_eq_some_iff.1 h).1 id, h]

mutual

/-- **A value stays what data are** as long as the cells that there were stay as they are. -/
theorem Loaded.kept (hkept : Kept (fun _ => False) m m') :
    (d : Datum) → ∀ {v : Value}, Loaded m d v → Loaded m' d v
  | .none, _, .none => .none
  | .bool _, _, .bool b => .bool b
  | .int _, _, .int i n => .int i n
  | .float _, _, .float i x => .float i x
  | .text _, _, .text i t => .text i t
  | .list ds, _, .list hcell hitems => .list (cell_kept hkept hcell) (LoadedAll.kept hkept ds hitems)
  | .tuple ds, _, .tuple hitems => .tuple (LoadedAll.kept hkept ds hitems)
  | .dict es, _, .dict hcell hentries hput =>
    .dict (cell_kept hkept hcell) (LoadedEntries.kept hkept es hentries) hput
  | .object _ fs _, _, .object hcell hfields =>
    .object (cell_kept hkept hcell) (LoadedFields.kept hkept fs hfields)
  | .helper _, _, .helper id => .helper id

lemma LoadedAll.kept (hkept : Kept (fun _ => False) m m') :
    (ds : List Datum) → ∀ {vs : List Value}, LoadedAll m ds vs → LoadedAll m' ds vs
  | [], _, .nil => .nil
  | d :: ds, _, .cons h hrest => .cons (Loaded.kept hkept d h) (LoadedAll.kept hkept ds hrest)

lemma LoadedEntries.kept (hkept : Kept (fun _ => False) m m') :
    (es : List DatumEntry) → ∀ {ps : List (Value × Value)},
      LoadedEntries m es ps → LoadedEntries m' es ps
  | [], _, .nil => .nil
  | .mk k d :: es, _, .cons hkey h hrest =>
    .cons (Loaded.kept hkept k hkey) (Loaded.kept hkept d h) (LoadedEntries.kept hkept es hrest)

lemma LoadedFields.kept (hkept : Kept (fun _ => False) m m') :
    (fs : List DatumField) → ∀ {vs : Names Value}, LoadedFields m fs vs → LoadedFields m' fs vs
  | [], _, .nil => .nil
  | .mk _ d :: fs, _, .cons h hrest =>
    .cons (Loaded.kept hkept d h) (LoadedFields.kept hkept fs hrest)

end

end

end Datum

/-! ## Runs that make values -/

/-- From a memory on, the run gives a value with some property; the cells that there are, and the
output, stay. -/
def Run.MakesAt {α : Type} (m : Memory) (x : Run α) (P : Memory → α → Prop) : Prop :=
  ∃ a m', Gives x m a m' ∧ m'.output = m.output ∧ Kept (fun _ => False) m m' ∧ P m' a

namespace Run.MakesAt

variable {α β : Type} {m : Memory} {P : Memory → α → Prop} {Q : Memory → β → Prop}

lemma pure {a : α} (h : P m a) : MakesAt m (pure a) P := ⟨a, m, .pure, rfl, .refl, h⟩

lemma bind {x : Run α} {f : α → Run β} (hx : MakesAt m x P)
    (hf : ∀ a m', Kept (fun _ => False) m m' → P m' a → MakesAt m' (f a) Q) :
    MakesAt m (x >>= f) Q := by
  obtain ⟨a, m₁, hrun, hout, hkept, ha⟩ := hx
  obtain ⟨b, m₂, hrun', hout', hkept', hb⟩ := hf a m₁ hkept ha
  exact ⟨b, m₂, hrun.bind hrun', hout'.trans hout, hkept.trans hkept', hb⟩

lemma settles {x : Run α} {R : α → Prop} (h : Settles x R) :
    MakesAt m x fun _ a => R a ∧ ∀ m', Gives x m' a m' := by
  obtain ⟨a, hrun, ha⟩ := h
  exact ⟨a, m, hrun m, rfl, .refl, ha, hrun⟩

lemma alloc (c : Cell) : MakesAt m (Run.alloc c) fun m' a => m'.cells[a]? = some c :=
  ⟨m.cells.size, _, gives_alloc c, rfl, .alloc c, Array.getElem?_push_size⟩

lemma mark : MakesAt m Run.mark fun _ _ => True :=
  ⟨.own m.marks, { m with marks := m.marks + 1 }, rfl, rfl, .of_cells rfl, trivial⟩

end Run.MakesAt

open Run (MakesAt)

/-! ## Loading -/

namespace Datum

/-- Data that may be a key are loaded as a value that may be one. -/
def KeyStays (d : Datum) (v : Value) : Prop := ∀ n, IsKey n d → v.IsKey n

/-- A value that is neither a list nor a dictionary, nor has parts, may be a key. -/
lemma keyStays_of_plain {d : Datum} {v : Value} (h : ∀ n, v.IsKey (n + 1)) : KeyStays d v := by
  intro n hn
  cases n with
  | zero => exact hn.elim
  | succ n => exact h n

/-- The value of a list or a dictionary is never asked for as a key. -/
lemma keyStays_of_not {d : Datum} {v : Value} (h : ∀ n, ¬ IsKey n d) : KeyStays d v :=
  fun n hn => absurd hn (h n)

/-- The value of every item that may be a key may be one. -/
def KeysStay (ds : List Datum) (vs : List Value) : Prop :=
  ∀ n, (∀ d ∈ ds, IsKey n d) → ∀ v ∈ vs, v.IsKey n

lemma keyStays_tuple {ds : List Datum} {vs : List Value} {i : Identity} (h : KeysStay ds vs) :
    KeyStays (tuple ds) (.tuple i vs) := by
  intro n hn
  cases n with
  | zero => exact hn.elim
  | succ n => exact h n hn

lemma not_isKey_list (ds : List Datum) (n : Nat) : ¬ IsKey n (list ds) := by
  cases n <;> exact id

lemma not_isKey_dict (es : List DatumEntry) (n : Nat) : ¬ IsKey n (dict es) := by
  cases n <;> exact id

mutual

/-- **Loading data that a host can hold only makes new values**, and what comes of it is what the data
are. -/
theorem makes_load : (d : Datum) → d.Genuine → ∀ m,
    MakesAt m d.load fun m' v => KeyStays d v ∧ Loaded m' d v
  | none, _, m => by
    rw [load]
    exact .pure ⟨keyStays_of_plain fun _ => trivial, .none⟩
  | bool b, _, m => by
    rw [load]
    exact .pure ⟨keyStays_of_plain fun _ => trivial, .bool b⟩
  | int n, _, m => by
    rw [load]
    obtain ⟨i, k, hint⟩ := Run.gives_newInt (m := m) n
    exact ⟨_, _, hint, rfl, .of_cells rfl, keyStays_of_plain fun _ => trivial, .int i n⟩
  | float x, _, m => by
    rw [load]
    exact .bind .mark fun i _ _ _ => .pure ⟨keyStays_of_plain fun _ => trivial, .float i x⟩
  | text t, _, m => by
    rw [load]
    obtain ⟨i, k, htext⟩ := Run.gives_pieceOf (m := m) t
    exact ⟨_, _, htext, rfl, .of_cells rfl, keyStays_of_plain fun _ => trivial, .text i t⟩
  | list ds, h, m => by
    rw [load]
    exact .bind (makes_loadAll ds h m) fun vs m₁ _ hvs => .bind (.alloc _) fun a m₂ hkept hcell =>
      .pure ⟨keyStays_of_not (not_isKey_list ds), .list hcell (LoadedAll.kept hkept ds hvs.2)⟩
  | tuple ds, h, m => by
    rw [load]
    refine .bind (makes_loadAll ds h m) fun vs m₁ _ hvs => ?_
    unfold Run.newTuple
    split
    · exact .pure ⟨keyStays_tuple hvs.1, .tuple hvs.2⟩
    · exact .bind .mark fun i m₂ hkept _ =>
        .pure ⟨keyStays_tuple hvs.1, .tuple (LoadedAll.kept hkept ds hvs.2)⟩
  | dict es, h, m => by
    rw [load]
    refine .bind (makes_loadEntries es h [] (by simp [Keyed]) m) fun vs m₁ _ hvs => ?_
    obtain ⟨-, ps, hps, hput⟩ := hvs
    exact .bind (.alloc _) fun a m₂ hkept hcell =>
      .pure ⟨keyStays_of_not (not_isKey_dict es), .dict hcell (LoadedEntries.kept hkept es hps) hput⟩
  | object kind fs shown, h, m => by
    rw [load]
    exact .bind (makes_loadFields fs h m) fun vs m₁ _ hvs => .bind (.alloc _)
      fun a m₂ hkept hcell => .pure ⟨keyStays_of_plain fun _ => trivial,
        .object hcell (LoadedFields.kept hkept fs hvs)⟩
  | helper id, _, m => by
    rw [load]
    exact .pure ⟨keyStays_of_plain fun _ => trivial, .helper id⟩

lemma makes_loadAll : (ds : List Datum) → GenuineItems ds → ∀ m,
    MakesAt m (loadAll ds) fun m' vs => KeysStay ds vs ∧ LoadedAll m' ds vs
  | [], _, m => by
    rw [loadAll]
    exact .pure ⟨fun _ _ v hv => absurd hv List.not_mem_nil, .nil⟩
  | d :: ds, ⟨hd, hds⟩, m => by
    rw [loadAll]
    refine .bind (makes_load d hd m) fun v m₁ _ hv => .bind (makes_loadAll ds hds m₁)
      fun vs m₂ hkept hvs => .pure ⟨fun n hkeys w hw => ?_, .cons (Loaded.kept hkept d hv.2) hvs.2⟩
    rcases List.mem_cons.1 hw with rfl | hw
    · exact hv.1 n (hkeys d List.mem_cons_self)
    · exact hvs.1 n (fun e he => hkeys e (List.mem_cons_of_mem d he)) w hw

lemma makes_loadEntries : (es : List DatumEntry) → GenuineEntries es → ∀ done, Keyed done → ∀ m,
    MakesAt m (loadEntries done es) fun m' vs => Keyed vs ∧
      ∃ ps, LoadedEntries m' es ps ∧ ∀ m, Gives (insertEntries done ps) m vs m
  | [], _, done, hdone, m => by
    rw [loadEntries]
    exact .pure ⟨hdone, [], .nil, fun _ => .pure⟩
  | .mk k d :: es, ⟨⟨hkey, hk, hd⟩, hes⟩, done, hdone, m => by
    rw [loadEntries]
    refine .bind (makes_load k hk m) fun key m₁ _ hkeyLoaded => .bind (makes_load d hd m₁)
      fun v m₂ hkept₂ hv => ?_
    refine .bind (.settles (settles_insertEntry (hkeyLoaded.1 recursionLimit hkey) hdone))
      fun done' m₃ hkept₃ hdone' => ?_
    obtain ⟨vs, m₄, hrun, hout, hkept₄, hvs, ps, hps, hput⟩ :=
      makes_loadEntries es hes done' hdone'.1 m₃
    have hlater := hkept₃.trans hkept₄
    exact ⟨vs, m₄, hrun, hout, hkept₄, hvs, (key, v) :: ps,
      .cons (Loaded.kept (hkept₂.trans hlater) k hkeyLoaded.2) (Loaded.kept hlater d hv.2) hps,
      fun m => (hdone'.2 m).bind (hput m)⟩

lemma makes_loadFields : (fs : List DatumField) → GenuineFields fs → ∀ m,
    MakesAt m (loadFields fs) fun m' vs => LoadedFields m' fs vs
  | [], _, m => by
    rw [loadFields]
    exact .pure .nil
  | .mk id d :: fs, ⟨hd, hfs⟩, m => by
    rw [loadFields]
    exact .bind (makes_load d hd m) fun v m₁ _ hv => .bind (makes_loadFields fs hfs m₁)
      fun vs m₂ hkept hvs => .pure (.cons (Loaded.kept hkept d hv.2) hvs)

end

end Datum

end ViewEngine.Script

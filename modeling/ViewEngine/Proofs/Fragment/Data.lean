/-
# Data and their texts

Data of the host that views of the fragment are shown with: nothing, truth values, whole numbers,
texts, and lists of these.  What is shown of them is defined on the data themselves.  In the memory of
a run they are values, and lists lie in cells, the items of a list below the list.

* `plainText`, `rawText`, `escapedText`, `truth`: what is shown of data, and whether they count as true;
* `Plain`: the data of the fragment;
* `Stands`: a value stands for data in a memory;
* `gives_load`: loaded data stand for themselves;
* `gives_plain`, `gives_isTrue`, …: what a run makes of values that stand for data.
-/
import Mathlib.Data.List.Forall2
import Mathlib.Tactic.Common
import Mathlib.Tactic.Lemma
import ViewEngine.Helper.Stock
import ViewEngine.Script.Datum
import ViewEngine.Proofs.Script.Running

namespace ViewEngine.Fragment

open Script (Address Cell Datum Memory Run Value recursionLimit)
open Script.Run (Gives Kept)

/-! ## Texts of data -/

mutual

/-- The text that data have inside a list. -/
def quotedText : Datum → Text
  | .none => ['N', 'o', 'n', 'e']
  | .bool b => Script.boolText b
  | .int n => Text.ofInt n
  | .text t => Text.quoted t
  | .list ds => Script.bracketed ['['] [']'] (quotedTexts ds)
  | _ => []

/-- The texts that the items of a list have in it. -/
def quotedTexts : List Datum → List Text
  | [] => []
  | d :: ds => quotedText d :: quotedTexts ds

end

/-- The text that data have by themselves. -/
def plainText : Datum → Text
  | .text t => t
  | d => quotedText d

/-- What is shown of data as they are; nothing shows nothing. -/
def rawText : Datum → Text
  | .none => []
  | d => plainText d

/-- What is shown of data, escaped for markup; nothing shows nothing. -/
def escapedText : Datum → Text
  | .none => []
  | d => Html.escape (plainText d)

/-- Do the data count as true? -/
def truth : Datum → Bool
  | .none => false
  | .bool b => b
  | .int n => n != 0
  | .text t => !t.isEmpty
  | .list ds => !ds.isEmpty
  | _ => true

/-- The numbers with more than four thousand digits begin here. -/
def numberLimit : Nat := Nat.pow 10 4000

/-- Nothing, truth values, texts, whole numbers of at most four thousand digits, and lists of these,
inside each other less than so many times. -/
def Plain : Nat → Datum → Prop
  | 0, _ => False
  | _ + 1, .none => True
  | _ + 1, .bool _ => True
  | _ + 1, .text _ => True
  | _ + 1, .int n => n.natAbs < numberLimit
  | n + 1, .list ds => ∀ d ∈ ds, Plain n d
  | _ + 1, _ => False

/-! ## Data in the memory -/

/-- The value stands for the data, which are lists inside each other less than so many times.  Lists
lie in cells below a bound, the items of a list below the list itself. -/
def Stands (cells : Array Cell) : Nat → Address → Datum → Value → Prop
  | 0, _, _, _ => False
  | _ + 1, _, .none, v => v = .none
  | _ + 1, _, .bool b, v => v = .bool b
  | _ + 1, _, .int n, v => n.natAbs < numberLimit ∧ ∃ i, v = .int i n
  | _ + 1, _, .text t, v => ∃ i, v = .text i t
  | n + 1, bound, .list ds, v =>
    ∃ a vs, v = .list a ∧ a < bound ∧ cells[a]? = some (.list vs) ∧
      List.Forall₂ (Stands cells n a) ds vs
  | _ + 1, _, _, _ => False

section

variable {cells cells' : Array Cell} {n : Nat} {bound bound' : Address} {d : Datum} {v : Value}

/-- What a value looks like that stands for data. -/
inductive Shape : Datum → Value → Prop
  | none : Shape .none .none
  | bool (b : Bool) : Shape (.bool b) (.bool b)
  | int (k : Int) (i : Script.Identity) : Shape (.int k) (.int i k)
  | text (t : Text) (i : Script.Identity) : Shape (.text t) (.text i t)
  | list (ds : List Datum) (a : Address) : Shape (.list ds) (.list a)

lemma Stands.shape (h : Stands cells n bound d v) : Shape d v := by
  cases n with
  | zero => exact h.elim
  | succ n =>
    cases d with
    | none => exact h ▸ .none
    | bool b => exact h ▸ .bool b
    | int k =>
      obtain ⟨-, i, rfl⟩ := h
      exact .int k i
    | text t =>
      obtain ⟨i, rfl⟩ := h
      exact .text t i
    | list ds =>
      obtain ⟨a, vs, rfl, -⟩ := h
      exact .list ds a
    | float x => exact h.elim
    | tuple ds => exact h.elim
    | dict es => exact h.elim
    | object kind fs shown => exact h.elim
    | helper id => exact h.elim

/-- Only the cells below the bound matter. -/
lemma Stands.mono (h : Stands cells n bound d v) (hb : bound ≤ bound')
    (hc : ∀ a < bound, cells'[a]? = cells[a]?) : Stands cells' n bound' d v := by
  induction n generalizing bound bound' d v with
  | zero => exact h
  | succ n ih =>
    cases d with
    | list ds =>
      obtain ⟨a, vs, hv, ha, hcell, hvs⟩ := h
      refine ⟨a, vs, hv, Nat.lt_of_lt_of_le ha hb, (hc a ha).trans hcell, ?_⟩
      exact List.Forall₂.imp (fun e w hw => ih hw (Nat.le_refl a) fun b hba =>
        hc b (Nat.lt_trans hba ha)) hvs
    | _ => exact h

lemma Stands.succ (h : Stands cells n bound d v) : Stands cells (n + 1) bound d v := by
  induction n generalizing bound d v with
  | zero => exact h.elim
  | succ n ih =>
    cases d with
    | list ds =>
      obtain ⟨a, vs, hv, ha, hcell, hvs⟩ := h
      exact ⟨a, vs, hv, ha, hcell, List.Forall₂.imp (fun _ _ hw => ih hw) hvs⟩
    | _ => exact h

end

/-! ## Loading -/

/-- Loaded data stand for themselves; nothing else changes in the memory. -/
def Loads (n : Nat) (d : Datum) : Prop :=
  ∀ m, ∃ v m', Gives d.load m v m' ∧ Kept (fun _ => False) m m' ∧ m'.output = m.output ∧
    Stands m'.cells n m'.cells.size d v

lemma gives_loadAll {n : Nat} {ds : List Datum} (h : ∀ d ∈ ds, Loads n d) (m : Memory) :
    ∃ vs m', Gives (Datum.loadAll ds) m vs m' ∧ Kept (fun _ => False) m m' ∧
      m'.output = m.output ∧ List.Forall₂ (Stands m'.cells n m'.cells.size) ds vs := by
  induction ds generalizing m with
  | nil =>
    refine ⟨[], m, ?_, .refl, rfl, .nil⟩
    rw [Datum.loadAll]
    exact .pure
  | cons d ds ih =>
    obtain ⟨v, m₁, hload, hkept, hout, hv⟩ := h d List.mem_cons_self m
    obtain ⟨vs, m₂, hloads, hkept', hout', hvs⟩ :=
      ih (fun e he => h e (List.mem_cons_of_mem d he)) m₁
    refine ⟨v :: vs, m₂, ?_, hkept.trans hkept', hout'.trans hout, .cons ?_ hvs⟩
    · rw [Datum.loadAll]
      exact hload.bind (hloads.bind .pure)
    · exact hv.mono hkept'.grows fun a ha => hkept'.same a ha id

/-- **Data of the fragment are loaded as values that stand for them.** -/
theorem gives_load {n : Nat} {d : Datum} (h : Plain n d) : Loads n d := by
  induction n generalizing d with
  | zero => exact h.elim
  | succ n ih =>
    intro m
    cases d with
    | none => exact ⟨.none, m, rfl, .refl, rfl, rfl⟩
    | bool b => exact ⟨.bool b, m, rfl, .refl, rfl, rfl⟩
    | int k =>
      obtain ⟨i, marks, hint⟩ := Run.gives_newInt (m := m) k
      refine ⟨.int i k, { m with marks }, ?_, .of_cells rfl, rfl, h, i, rfl⟩
      rw [Datum.load]
      exact hint
    | text t =>
      obtain ⟨i, marks, htext⟩ := Run.gives_pieceOf (m := m) t
      refine ⟨.text i t, { m with marks }, ?_, .of_cells rfl, rfl, i, rfl⟩
      rw [Datum.load]
      exact htext
    | list ds =>
      obtain ⟨vs, m', hloads, hkept, hout, hvs⟩ := gives_loadAll (fun e he => ih (h e he)) m
      have hkept' : Kept (fun _ => False) m' _ := Kept.alloc (.list vs)
      refine ⟨.list m'.cells.size, _, ?_, hkept.trans hkept', hout, m'.cells.size, vs, rfl, ?_⟩
      · rw [Datum.load]
        exact hloads.bind ((Run.gives_alloc (.list vs)).bind .pure)
      · refine ⟨?_, ?_, List.Forall₂.imp (fun e w hw => hw.mono (Nat.le_refl _) ?_) hvs⟩
        · show m'.cells.size < (m'.cells.push (.list vs)).size
          rw [Array.size_push]
          exact Nat.lt_succ_self _
        · exact Array.getElem?_push_size
        · exact fun a ha => hkept'.same a ha id
    | float x => exact h.elim
    | tuple ds => exact h.elim
    | dict es => exact h.elim
    | object kind fs shown => exact h.elim
    | helper id => exact h.elim

/-! ## What a run makes of data -/

section

variable {m : Memory} {n : Nat} {bound : Address} {d : Datum} {v : Value}

lemma isSame_list {a : Address} {w : Value} (h : (Value.list a).isSame w = true) : w = .list a := by
  cases w with
  | list b =>
    simp only [Value.isSame, decide_eq_true_eq] at h
    rw [h]
  | _ => simp [Value.isSame] at h

lemma forall₂_quoted {f : Value → Run Text} {ds : List Datum} {vs : List Value}
    (h : List.Forall₂ (fun d v => Gives (f v) m (quotedText d) m) ds vs) :
    List.Forall₂ (fun v t => Gives (f v) m t m) vs (quotedTexts ds) := by
  induction h with
  | nil => exact .nil
  | cons hd _ ih => exact .cons hd ih

lemma gives_intText {k : Int} (hk : k.natAbs < numberLimit) :
    Gives (Script.Number.intText k) m (Text.ofInt k) m := by
  have hpow : ∀ i j, i ≤ j → Nat.pow 10 i ≤ Nat.pow 10 j :=
    fun _ _ hij => Nat.pow_le_pow_right (by decide) hij
  have hlimit : numberLimit ≤ Script.Number.textLimit := by
    unfold numberLimit Script.Number.textLimit
    exact hpow 4000 4300 (by decide)
  rw [Script.Number.intText, if_pos (Nat.lt_of_lt_of_le hk hlimit)]
  exact .pure

/-- No list lies inside itself, so every list shows its items. -/
lemma gives_quotedWithin (h : Stands m.cells n bound d v) {active : List Value}
    (hactive : ∀ a, .list a ∈ active → bound ≤ a) :
    Gives (Script.quotedWithin n active v) m (quotedText d) m := by
  induction n generalizing bound d v active with
  | zero => exact h.elim
  | succ n ih =>
    cases d with
    | none =>
      obtain rfl : v = .none := h
      exact .pure
    | bool b =>
      obtain rfl : v = .bool b := h
      exact .pure
    | int k =>
      obtain ⟨hk, i, rfl⟩ := h
      exact gives_intText hk
    | text t =>
      obtain ⟨i, rfl⟩ := h
      exact .pure
    | list ds =>
      obtain ⟨a, vs, rfl, ha, hcell, hvs⟩ := h
      have hnew : active.any (Value.list a).isSame = false := by
        rw [← Bool.not_eq_true, List.any_eq_true]
        rintro ⟨w, hw, hsame⟩
        rw [isSame_list hsame] at hw
        exact absurd (hactive a hw) (Nat.not_le.2 ha)
      have hitems : List.Forall₂ (fun e w => Gives (Script.quotedWithin n (.list a :: active) w) m
          (quotedText e) m) ds vs := by
        refine List.Forall₂.imp (fun e w hw => ih hw fun b hb => ?_) hvs
        rcases List.mem_cons.1 hb with heq | hb
        · cases heq
          exact Nat.le_refl a
        · exact Nat.le_of_lt (Nat.lt_of_lt_of_le ha (hactive b hb))
      unfold Script.quotedWithin
      simp only [hnew, Bool.false_eq_true, if_false]
      rw [quotedText]
      exact (Run.gives_listAt hcell).bind ((Gives.mapM (forall₂_quoted hitems)).bind .pure)
    | float x => exact h.elim
    | tuple ds => exact h.elim
    | dict es => exact h.elim
    | object kind fs shown => exact h.elim
    | helper id => exact h.elim

/-- The plain text of a value that stands for data. -/
theorem gives_plain (h : Stands m.cells recursionLimit bound d v) :
    Gives v.plain m (plainText d) m := by
  have hquoted : Gives v.quoted m (quotedText d) m :=
    gives_quotedWithin h fun _ ha => absurd ha List.not_mem_nil
  cases h.shape with
  | text t i => exact .pure
  | none => exact hquoted
  | bool b => exact hquoted
  | int k i => exact hquoted
  | list ds a => exact hquoted

/-- Whether a value that stands for data counts as true. -/
theorem gives_isTrue (h : Stands m.cells n bound d v) : Gives (Script.isTrue v) m (truth d) m := by
  cases h.shape with
  | none => exact .pure
  | bool b => cases b <;> exact .pure
  | int k i => exact .pure
  | text t i => cases t <;> exact .pure
  | list ds a =>
    cases n with
    | zero => exact h.elim
    | succ n =>
      obtain ⟨b, vs, hab, -, hcell, hvs⟩ := h
      cases hab
      have hlength : Gives (Script.length? (.list a)) m (some vs.length) m :=
        (Run.gives_listAt hcell).bind .pure
      refine hlength.bind ?_
      cases hvs <;> exact .pure

/-! ### Output -/

/-- The output of a memory has grown by a text; its cells are the same. -/
structure Adds (m : Memory) (t : Text) (m' : Memory) : Prop where
  cells : m'.cells = m.cells
  output : m'.outputText = m.outputText ++ t

lemma adds_write (t : Text) : Adds m t { m with output := t :: m.output } where
  cells := rfl
  output := by simp [Memory.outputText]

/-- A value that stands for data is appended as it is. -/
theorem gives_writeValue (h : Stands m.cells recursionLimit bound d v) :
    ∃ m', Gives (Script.writeValue v) m () m' ∧ Adds m (rawText d) m' := by
  have hplain := gives_plain h
  have hwrite : ∀ t, Gives v.plain m t m →
      Gives (do Run.write (← v.plain)) m () { m with output := t :: m.output } :=
    fun t ht => ht.bind (Run.gives_write t)
  cases h.shape with
  | none => exact ⟨m, .pure, rfl, (List.append_nil _).symm⟩
  | bool b => exact ⟨_, hwrite _ hplain, adds_write _⟩
  | int k i => exact ⟨_, hwrite _ hplain, adds_write _⟩
  | text t i => exact ⟨_, hwrite _ hplain, adds_write _⟩
  | list ds a => exact ⟨_, hwrite _ hplain, adds_write _⟩

/-- A value that stands for data is escaped to a text. -/
theorem gives_escapeValue (h : Stands m.cells recursionLimit bound d v) :
    ∃ i k, Gives (Helper.escapeValue v) m (.text i (escapedText d)) { m with marks := k } := by
  have hplain := gives_plain h
  have hescape : ∀ t, Gives v.plain m t m → ∃ i k,
      Gives (do Run.pieceOf (Html.escape (← v.plain))) m (.text i (Html.escape t))
        { m with marks := k } := by
    intro t ht
    obtain ⟨i, k, hpiece⟩ := Run.gives_pieceOf (m := m) (Html.escape t)
    exact ⟨i, k, ht.bind hpiece⟩
  cases h.shape with
  | none => exact Run.gives_newText []
  | bool b => exact hescape _ hplain
  | int k i => exact hescape _ hplain
  | text t i => exact hescape _ hplain
  | list ds a => exact hescape _ hplain

end

end ViewEngine.Fragment

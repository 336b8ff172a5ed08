/-
# What a mapping is written with

A mapping is given as a dictionary or as a sequence of pairs, which may name a key more than once.
This file keeps the pairs as they are written, and says how reading them can fail.

* `Mapping.isComplaint_pairs`: what cannot be read is complained about;
* `Mapping.entries_eq_pairs`: the entries of a mapping are its pairs, put over each other;
* `Entries.texts_of_putAll`: if what is left has texts as its keys, so had all that was put.
-/
import Mathlib.Tactic.Common
import Mathlib.Tactic.Lemma
import ViewEngine.Proofs.Engine.Bindings

namespace ViewEngine

open Script (Datum Memory Stop Value run_bind_ok run_bind_error)
open Script.Run (Gives)

/-! ## Complaints -/

/-- The failure is a complaint about a value, about a type, or about a key that is not there. -/
def Failure.IsComplaint (f : Failure) : Prop :=
  ∃ kind t, f = .complaint kind t ∧ (kind = .value ∨ kind = .type ∨ kind = .key)

lemma isComplaint_value (t : Text) : Failure.IsComplaint (.complaint .value t) :=
  ⟨.value, t, rfl, .inl rfl⟩

lemma isComplaint_type (t : Text) : Failure.IsComplaint (.complaint .type t) :=
  ⟨.type, t, rfl, .inr (.inl rfl)⟩

lemma isComplaint_key (t : Text) : Failure.IsComplaint (.complaint .key t) :=
  ⟨.key, t, rfl, .inr (.inr rfl)⟩

/-- Is a key missing? -/
def Failure.isMissing : Failure → Bool
  | .complaint .key _ => true
  | _ => false

namespace Mapping

lemma run_fail {α : Type} {kind : Script.FaultKind} {t : Text} {m m' : Memory} {s : Stop}
    (h : (Script.Run.fail kind t : Script.Run α).run.run m = (.error s, m')) :
    ∃ i u, s = .fault { kind, arguments := [.text i u] } := by
  obtain ⟨i, k, htext⟩ := Script.Run.gives_newText (m := m) t
  rw [Script.Run.fail, run_bind_ok htext] at h
  cases h
  exact ⟨i, t, rfl⟩

/-- A value that cannot be a key is complained about as one of a wrong type. -/
lemma demandKey_fails {v : Value} {m m' : Memory} {s : Stop}
    (h : (Script.demandKey v).run.run m = (.error s, m')) :
    ∃ i t, s = .fault { kind := .type, arguments := [.text i t] } := by
  fun_induction Script.demandKey v generalizing m m' with
  | case1 | case6 => cases h
  | case2 c =>
    have hname : Gives (Value.list c).typeName m "list" m := rfl
    rw [run_bind_ok hname] at h
    exact run_fail h
  | case3 c =>
    have hname : Gives (Value.dict c).typeName m "dict" m := rfl
    rw [run_bind_ok hname] at h
    exact run_fail h
  | case4 i part c =>
    obtain ⟨t, hname⟩ : ∃ t, Gives (Value.dictView i part c).typeName m t m := by
      cases part <;> exact ⟨_, rfl⟩
    rw [run_bind_ok hname] at h
    exact run_fail h
  | case5 i a as ihfirst ihrest =>
    rcases hfirst : (Script.demandKey a).run.run m with ⟨r, m₁⟩
    cases r with
    | error e =>
      rw [run_bind_error hfirst] at h
      cases h
      exact ihfirst hfirst
    | ok u =>
      rw [run_bind_ok hfirst] at h
      exact ihrest h

variable {k : Datum} {f : Failure}

/-- What cannot be a key is refused as being of a wrong type. -/
lemma demandKey_error (hk : k.Genuine) (h : demandKey k = .error f) : ∃ t, f = .complaint .type t := by
  obtain ⟨v, m, hload, -⟩ := Datum.makes_load k hk {}
  unfold demandKey Failure.attempt at h
  rw [run_bind_ok hload] at h
  rcases hdemand : (Script.demandKey v).run.run m with ⟨r, m'⟩
  rw [hdemand] at h
  cases r with
  | ok u => cases h
  | error s =>
    obtain ⟨i, t, rfl⟩ := demandKey_fails hdemand
    cases h
    exact ⟨t, rfl⟩

lemma isComplaint_demandKey (hk : k.Genuine) (h : demandKey k = .error f) : f.IsComplaint := by
  obtain ⟨t, rfl⟩ := demandKey_error hk h
  exact isComplaint_type t

lemma demandKey_text (t : Text) : demandKey (.text t) = .ok () := by
  obtain ⟨i, n, hload⟩ := Script.Run.gives_pieceOf (m := {}) t
  have hkey : Gives (Datum.load (.text t)) {} (.text i t) { marks := n } := by
    rw [Datum.load]
    exact hload
  unfold demandKey Failure.attempt
  rw [run_bind_ok hkey, Script.demandKey]
  · rfl
  all_goals simp

/-! ### What a mapping or a sequence of pairs holds -/

lemma isComplaint_pairAt {place : Nat} {d : Datum} (hd : d.Genuine) (h : pairAt place d = .error f) :
    f.IsComplaint := by
  unfold pairAt at h
  split at h
  · next k v hds =>
    rcases hkey : demandKey k with g | u
    · rw [hkey] at h
      cases h
      exact isComplaint_demandKey (genuine_elements hd hds k (by simp)) hkey
    · rw [hkey] at h
      cases h
  · cases h
    exact isComplaint_value _
  · cases h
    exact isComplaint_type _

lemma isComplaint_pairsFrom {place : Nat} {ds : List Datum} (hds : ∀ d ∈ ds, d.Genuine)
    (h : pairsFrom place ds = .error f) : f.IsComplaint := by
  induction ds generalizing place with
  | nil => cases h
  | cons d ds ih =>
    obtain ⟨hd, hds⟩ := List.forall_mem_cons.1 hds
    rw [pairsFrom] at h
    rcases hpair : pairAt place d with g | e
    · rw [hpair] at h
      cases h
      exact isComplaint_pairAt hd hpair
    rcases hrest : pairsFrom (place + 1) ds with g | es
    · rw [hpair, hrest] at h
      cases h
      exact ih hds hrest
    · rw [hpair, hrest] at h
      cases h

/-- The pairs that a mapping or a sequence of pairs is written with, repeated keys and all. -/
def pairs (d : Datum) : Except Failure Entries :=
  match d with
  | .dict es => .ok (es.map fun | .mk k v => (k, v))
  | _ =>
    match elements? d with
    | some ds => pairsFrom 0 ds
    | none => .error (.complaint .type ("'" ++ d.typeName ++ "' object is not iterable"))

lemma entries_eq_pairs (d : Datum) : entries d = (pairs d).map (Entries.putAll []) := by
  cases d with
  | dict es => rfl
  | _ => rfl

lemma isComplaint_pairs {d : Datum} (hd : d.Genuine) (h : pairs d = .error f) : f.IsComplaint := by
  unfold pairs at h
  split at h
  · cases h
  · split at h
    · next ds hds => exact isComplaint_pairsFrom (genuine_elements hd hds) h
    · cases h
      exact isComplaint_type _

end Mapping

namespace Entries

/-- The entries as values under names, if every key is a text. -/
def texts? : Entries → Option (Names Datum)
  | [] => some []
  | (.text id, v) :: es => (texts? es).map ((id, v) :: ·)
  | _ :: _ => none

lemma texts?_ofNames (ns : Names Datum) : texts? (ofNames ns) = some ns := by
  induction ns with
  | nil => rfl
  | cons n ns ih =>
    show (texts? (ofNames ns)).map _ = _
    rw [ih]
    rfl

lemma exists_ofNames {es : Entries} (h : ∀ e ∈ es, ∃ id, e.1 = .text id) : ∃ ns, es = ofNames ns := by
  induction es with
  | nil => exact ⟨[], rfl⟩
  | cons e es ih =>
    obtain ⟨⟨id, hid⟩, hes⟩ := List.forall_mem_cons.1 h
    obtain ⟨ns, rfl⟩ := ih hes
    exact ⟨(id, e.2) :: ns, by rw [← Prod.eta e, hid]; rfl⟩

lemma eq_of_sameKey_text {k : Datum} {id : Text} (h : sameKey (.text id) k = true) : k = .text id := by
  cases k with
  | text t => rw [of_decide_eq_true h]
  | _ => cases h

/-- If all keys are texts once an entry was put, the key of the entry is one, and so were the others. -/
lemma texts_of_put {k v : Datum} {es : Entries} (h : ∀ e ∈ put k v es, ∃ id, e.1 = .text id) :
    (∃ id, k = .text id) ∧ ∀ e ∈ es, ∃ id, e.1 = .text id := by
  induction es with
  | nil => exact ⟨h (k, v) (List.mem_singleton.2 rfl), fun e he => absurd he List.not_mem_nil⟩
  | cons e es ih =>
    rw [put] at h
    split at h
    · next hsame =>
      obtain ⟨⟨id, hid⟩, hes⟩ := List.forall_mem_cons.1 h
      dsimp only at hid
      rw [hid] at hsame
      exact ⟨⟨id, eq_of_sameKey_text hsame⟩, List.forall_mem_cons.2 ⟨⟨id, hid⟩, hes⟩⟩
    · obtain ⟨he, hes⟩ := List.forall_mem_cons.1 h
      obtain ⟨hk, hes⟩ := ih hes
      exact ⟨hk, List.forall_mem_cons.2 ⟨he, hes⟩⟩

lemma texts_of_putAll {es new : Entries} (h : ∀ e ∈ putAll es new, ∃ id, e.1 = .text id) :
    (∀ e ∈ new, ∃ id, e.1 = .text id) ∧ ∀ e ∈ es, ∃ id, e.1 = .text id := by
  induction new generalizing es with
  | nil => exact ⟨fun e he => absurd he List.not_mem_nil, h⟩
  | cons e new ih =>
    obtain ⟨hnew, hput⟩ := ih h
    obtain ⟨he, hes⟩ := texts_of_put hput
    exact ⟨List.forall_mem_cons.2 ⟨he, hnew⟩, hes⟩

end Entries
end ViewEngine

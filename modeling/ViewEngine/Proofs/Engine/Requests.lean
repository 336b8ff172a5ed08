/-
# Requests to the registry of helpers

The registry has three operations of its own that change it: a name is given a helper, a name is taken
away, and many names are given their helpers at once.  The others are made of these and of looking a
name up, one step after the other, so each of them could stop half-way.  Here they are written as such
steps on a registry that stays what the steps before a failure made of it; it turns out that none of
them does stop half-way, and that each gives what the operation on the whole registry gives.

What a request is on a map that keeps its order, over any values, is said in `Request.effect`.  The
registry checks what is put into it, and is otherwise this map, but for one request: when it may choose
the name that is taken away, the map takes the last one and the registry the first.

* `Request.atomic_steps`: a request in steps does what the operation on the whole registry does, or
  nothing;
* `Request.result_ok`, `Request.popItem_ok`: a request that succeeds is the one on a map, or takes the
  first name, and the registry stays checked;
* `Request.isComplaint_result`, `Request.exists_result`: when a request fails, and when it does not.
-/
import Mathlib.Tactic.Common
import Mathlib.Tactic.Lemma
import ViewEngine.Proofs.Engine.Registry

namespace ViewEngine

open Script (Datum run_bind_ok run_bind_error)

/-! ## Requests -/

/-- What can be asked of the registry of an environment. -/
inductive Request where
  /-- A name is given a helper, by assignment or by the operation of the environment. -/
  | set (name helper : Datum)
  /-- A name is taken away. -/
  | delete (name : Datum)
  /-- The names of a mapping or of pairs are given their helpers, and then those that stand alone. -/
  | update (helpers : Datum) (named : Names Datum)
  /-- A name is taken away and its helper given back; for a missing name, something else may be. -/
  | pop (name : Datum) (fallback : Option Datum)
  /-- Some name is taken away and given back with its helper. -/
  | popItem
  /-- The helper of a name is given back; a missing name is given the helper at hand first. -/
  | setDefault (name helper : Datum)
  /-- All names are taken away. -/
  | clear
  /-- The names with their helpers are copied. -/
  | copy

/-- What is given back. -/
inductive Answer where
  | done
  | value (d : Datum)
  | entry (id : Text) (d : Datum)

namespace Request

/-- What is asked speaks of data that a host can hold. -/
def Genuine : Request → Prop
  | set name _ | delete name | pop name _ | setDefault name _ => name.Genuine
  | update helpers _ => helpers.Genuine
  | popItem | clear | copy => True

/-- What a request is on a map that keeps its order; it may be none.  The name that such a map takes
away of its own choice is the last one. -/
def effect (m : OrderedMap Datum) : Request → Option (Answer × OrderedMap Datum)
  | set (.text id) helper => some (.done, m.set id helper)
  | set _ _ => none
  | delete (.text id) => if id ∈ m.keys then some (.done, m.delete id) else none
  | delete _ => none
  | update helpers named =>
    match Mapping.pairs helpers with
    | .ok es =>
      (Entries.texts? (es ++ Entries.ofNames named)).map fun ns => (.done, m.setAll ns)
    | .error _ => none
  | pop (.text id) fallback =>
    match m.value id with
    | some d => some (.value d, m.delete id)
    | none => fallback.map fun d => (.value d, m)
  | pop _ fallback => fallback.map fun d => (.value d, m)
  | popItem => m.popLast.map fun (e, m') => (.entry e.1 e.2, m')
  | setDefault (.text id) helper =>
    match m.value id with
    | some d => some (.value d, m)
    | none => some (.value helper, m.set id helper)
  | setDefault _ _ => none
  | clear => some (.done, .empty)
  | copy => some (.done, m)

/-- What is asked can be done: what is registered is usable, and what is taken away is there. -/
def Acceptable (m : OrderedMap Datum) : Request → Prop
  | set name helper => Usable name helper
  | delete name => ∃ id ∈ m.keys, name = .text id
  | update helpers named =>
    ∃ es, Mapping.pairs helpers = .ok es ∧ ∀ e ∈ es ++ Entries.ofNames named, Usable e.1 e.2
  | pop name fallback => ∃ id, name = .text id ∧ (id ∈ m.keys ∨ fallback.isSome)
  | popItem => m.keys ≠ []
  | setDefault name helper => (∃ id ∈ m.keys, name = .text id) ∨ Usable name helper
  | clear | copy => True

end Request

/-! ## Requests in steps -/

/-- Something done to a registry step by step; when a step fails, those before it have been done. -/
abbrev Action := ExceptT Failure (StateM Registry)

namespace Action

variable {α : Type}

/-- A look at the registry. -/
def look (f : Registry → Except Failure α) : Action α := ExceptT.mk fun r => (f r, r)

/-- One change, which is made as a whole or not at all. -/
def change (f : Registry → Except Failure Registry) : Action Unit :=
  ExceptT.mk fun r =>
    match f r with
    | .ok r' => (.ok (), r')
    | .error g => (.error g, r)

/-- Does something; that a key is missing is a result. -/
def caught (x : Action α) : Action (Except Failure α) :=
  ExceptT.mk fun r =>
    match x.run.run r with
    | (.ok a, r') => (.ok (.ok a), r')
    | (.error f, r') => if f.isMissing then (.ok (.error f), r') else (.error f, r')

/-- Takes a name out of the registry and gives its helper back, or what is to be given instead. -/
def pop (name : Datum) (fallback : Option Datum) : Action Datum := do
  match ← caught (look (·.get name)) with
  | .ok h =>
    change (·.erase name)
    return .helper h
  | .error f =>
    match fallback with
    | some d => return d
    | none => throw f

/-- Takes the first name out of the registry and gives it back with its helper. -/
def popFirst : Action (Text × Datum) := do
  match ← look fun r => .ok r.helpers.ids.head? with
  | some id =>
    let h ← look (·.get (.text id))
    change (·.erase (.text id))
    return (id, .helper h)
  | none => throw (.complaint .key [])

/-- The helper of a name; a missing one is registered. -/
def setDefault (name helper : Datum) : Action Datum := do
  match ← caught (look (·.get name)) with
  | .ok h => return .helper h
  | .error _ =>
    change (·.set name helper)
    return helper

/-- Takes names out of the registry until there are none, in so many rounds at most. -/
def clear : Nat → Action Unit
  | 0 => throw .endless
  | n + 1 => do
    match ← caught popFirst with
    | .ok _ => clear n
    | .error _ => return ()

end Action

/-- A request in steps. -/
def Request.steps : Request → Action Answer
  | set name helper => do
    Action.change (·.set name helper)
    return .done
  | delete name => do
    Action.change (·.erase name)
    return .done
  | update helpers named => do
    Action.change (·.update helpers named)
    return .done
  | pop name fallback => return .value (← Action.pop name fallback)
  | popItem => do
    let (id, d) ← Action.popFirst
    return .entry id d
  | setDefault name helper => return .value (← Action.setDefault name helper)
  | clear => do
    -- One round more than there are names: the last one finds none.
    Action.clear (← Action.look fun r => .ok (r.helpers.length + 1))
    return .done
  | copy => return .done

/-- What a request comes to, by the operations on whole registries. -/
def Request.result (r : Registry) : Request → Except Failure (Answer × Registry)
  | set name helper => (r.set name helper).map fun r' => (.done, r')
  | delete name => (r.erase name).map fun r' => (.done, r')
  | update helpers named => (r.update helpers named).map fun r' => (.done, r')
  | pop name fallback => (r.popOr name fallback).map fun (d, r') => (.value d, r')
  | popItem => r.popFirst.map fun (e, r') => (.entry e.1 (.helper e.2), r')
  | setDefault name helper => (r.setDefault name helper).map fun (h, r') => (.value (.helper h), r')
  | clear => .ok (.done, r.clear)
  | copy => .ok (.done, r)

namespace Action

variable {α β : Type} {r r' : Registry} {f : Failure}

/-- The action gives a result and its registry, or it fails and has changed nothing. -/
def Atomic (x : Action α) (r : Registry) (result : Except Failure (α × Registry)) : Prop :=
  x.run.run r =
    match result with
    | .ok (a, r') => (.ok a, r')
    | .error f => (.error f, r)

lemma atomic_look (g : Registry → Except Failure α) (r : Registry) :
    Atomic (look g) r ((g r).map fun a => (a, r)) := by
  show (g r, r) = _
  cases g r <;> rfl

lemma Atomic.caught_ok {x : Action α} {a : α} (h : Atomic x r (.ok (a, r'))) :
    Atomic (caught x) r (.ok (.ok a, r')) := by
  show (match x.run.run r with | (.ok a, r') => _ | (.error f, r') => _) = _
  rw [h]

lemma Atomic.caught_missing {x : Action α} (h : Atomic x r (.error f)) (hf : f.isMissing = true) :
    Atomic (caught x) r (.ok (.error f, r)) := by
  show (match x.run.run r with | (.ok a, r') => _ | (.error f, r') => _) = _
  rw [h]
  exact if_pos hf

lemma Atomic.caught_error {x : Action α} (h : Atomic x r (.error f)) (hf : ¬ f.isMissing = true) :
    Atomic (caught x) r (.error f) := by
  show (match x.run.run r with | (.ok a, r') => _ | (.error f, r') => _) = _
  rw [h]
  exact if_neg hf

/-- Only looks can come before the step that changes something. -/
lemma Atomic.bind_look {x : Action α} {y : α → Action β} {a : α}
    {result : Except Failure (β × Registry)} (hx : Atomic x r (.ok (a, r)))
    (hy : Atomic (y a) r result) : Atomic (x >>= y) r result :=
  (run_bind_ok hx).trans hy

lemma Atomic.bind_error {x : Action α} {y : α → Action β} (hx : Atomic x r (.error f)) :
    Atomic (x >>= y) r (.error f) :=
  run_bind_error hx

lemma Atomic.bind_pure {x : Action α} {result : Except Failure (α × Registry)}
    (hx : Atomic x r result) (g : α → β) :
    Atomic (x >>= fun a => pure (g a)) r (result.map fun (a, r') => (g a, r')) := by
  cases result with
  | ok p => exact run_bind_ok hx
  | error f => exact run_bind_error hx

/-- Behind the step that changes something, nothing is left to do but to give something back. -/
lemma atomic_change (g : Registry → Except Failure Registry) (r : Registry) (a : α) :
    Atomic (change g >>= fun _ => pure a) r ((g r).map fun r' => (a, r')) := by
  cases hg : g r with
  | ok r' =>
    have hchange : (change g).run.run r = (.ok (), r') := by
      show (match g r with | .ok r' => _ | .error _ => _) = _
      rw [hg]
    exact run_bind_ok hchange
  | error f =>
    have hchange : (change g).run.run r = (.error f, r) := by
      show (match g r with | .ok r' => _ | .error _ => _) = _
      rw [hg]
    exact run_bind_error hchange

end Action

namespace Action

variable {r : Registry} {name : Datum}

lemma atomic_pop (hname : name.Genuine) (fallback : Option Datum) :
    Atomic (pop name fallback) r (r.popOr name fallback) := by
  have hlook := atomic_look (·.get name) r
  rcases Registry.find?_cases (r := r) hname with ⟨id, h, rfl, -, hfind⟩ | hfind | ⟨t, hfind⟩
  · rw [Registry.get_of_found hfind] at hlook
    have herase := atomic_change (·.erase (.text id)) r (Datum.helper h)
    rw [Registry.erase_eq, Registry.pop_of_found hfind] at herase
    unfold Registry.popOr
    rw [Registry.pop_of_found hfind]
    exact hlook.caught_ok.bind_look herase
  · have hget := Registry.get_of_missing hfind
    rw [hget] at hlook
    unfold Registry.popOr
    rw [Registry.pop_of_get_error hget]
    cases fallback with
    | none => exact (hlook.caught_missing rfl).bind_look rfl
    | some d => exact (hlook.caught_missing rfl).bind_look rfl
  · have hget := Registry.get_of_error hfind
    rw [hget] at hlook
    unfold Registry.popOr
    rw [Registry.pop_of_get_error hget]
    cases fallback <;> exact (hlook.caught_error Bool.false_ne_true).bind_error

lemma atomic_setDefault (hname : name.Genuine) (helper : Datum) :
    Atomic (setDefault name helper) r
      ((r.setDefault name helper).map fun (h, r') => (.helper h, r')) := by
  have hlook := atomic_look (·.get name) r
  rcases Registry.find?_cases (r := r) hname with ⟨id, h, rfl, -, hfind⟩ | hfind | ⟨t, hfind⟩
  · rw [Registry.get_of_found hfind] at hlook
    rw [Registry.setDefault, hfind]
    exact hlook.caught_ok.bind_look rfl
  · rw [Registry.get_of_missing hfind] at hlook
    rw [Registry.setDefault, hfind]
    refine (hlook.caught_missing rfl).bind_look ?_
    have hset := atomic_change (·.set name helper) r helper
    rw [Registry.set_eq] at hset
    rcases hcheck : Registry.check name helper with f | ⟨id, h⟩
    · rw [hcheck] at hset
      exact hset
    · obtain ⟨-, -, -, rfl⟩ := Registry.check_eq_ok_iff.1 hcheck
      rw [hcheck] at hset
      exact hset
  · rw [Registry.get_of_error hfind] at hlook
    rw [Registry.setDefault, hfind]
    exact (hlook.caught_error Bool.false_ne_true).bind_error

lemma atomic_popFirst (hr : r.helpers.ids.Nodup) :
    Atomic popFirst r (r.popFirst.map fun (e, r') => ((e.1, .helper e.2), r')) := by
  have hlook := atomic_look (fun r => .ok r.helpers.ids.head?) r
  obtain ⟨_ | ⟨⟨id, h⟩, hs⟩⟩ := r
  · exact hlook.bind_look rfl
  · have hfind : Registry.find? ⟨(id, h) :: hs⟩ (.text id) = .ok (some h) := by
      rw [Registry.find?_text, Names.find?, if_pos rfl]
    have hget := atomic_look (·.get (.text id)) ⟨(id, h) :: hs⟩
    have herase := atomic_change (·.erase (.text id)) ⟨(id, h) :: hs⟩ (id, Datum.helper h)
    rw [Registry.get_of_found hfind] at hget
    rw [Registry.erase_eq, Registry.pop_of_found hfind, Names.erase_head hr] at herase
    exact hlook.bind_look (hget.bind_look herase)

/-- The loop ends before it runs out of rounds, when it finds no name. -/
lemma atomic_clear {n : Nat} (hr : r.helpers.ids.Nodup) (hn : r.helpers.length < n) :
    Atomic (clear n) r (.ok ((), r.clear)) := by
  obtain ⟨hs⟩ := r
  induction hs generalizing n with
  | nil =>
    obtain ⟨n, rfl⟩ := Nat.exists_eq_add_one_of_ne_zero (Nat.ne_zero_of_lt hn)
    exact ((atomic_popFirst hr).caught_missing rfl).bind_look rfl
  | cons e hs ih =>
    obtain ⟨n, rfl⟩ := Nat.exists_eq_add_one_of_ne_zero (Nat.ne_zero_of_lt hn)
    have hrest := ih (List.nodup_cons.1 hr).2 (Nat.lt_of_succ_lt_succ hn)
    exact (run_bind_ok (atomic_popFirst hr).caught_ok).trans hrest

end Action

/-- **No request stops half-way**: in steps, it does what the operation on the whole registry does, or
it fails and leaves the registry as it was. -/
theorem Request.atomic_steps {q : Request} (hq : q.Genuine) {r : Registry}
    (hr : r.helpers.ids.Nodup) : Action.Atomic q.steps r (q.result r) := by
  cases q with
  | set name helper => exact Action.atomic_change (·.set name helper) r Answer.done
  | delete name => exact Action.atomic_change (·.erase name) r Answer.done
  | update helpers named => exact Action.atomic_change (·.update helpers named) r Answer.done
  | pop name fallback => exact (Action.atomic_pop hq fallback).bind_pure Answer.value
  | popItem =>
    have h := (Action.atomic_popFirst hr).bind_pure fun e => Answer.entry e.1 e.2
    show Action.Atomic _ r (r.popFirst.map _)
    cases hfirst : r.popFirst <;> (rw [hfirst] at h; exact h)
  | setDefault name helper =>
    have h := (Action.atomic_setDefault (r := r) hq helper).bind_pure Answer.value
    show Action.Atomic _ r ((r.setDefault name helper).map _)
    cases hdefault : r.setDefault name helper <;> (rw [hdefault] at h; exact h)
  | clear =>
    have hlook := Action.atomic_look (fun r => .ok (r.helpers.length + 1)) r
    exact hlook.bind_look ((Action.atomic_clear hr (Nat.lt_succ_self _)).bind_pure fun _ => Answer.done)
  | copy => rfl

/-! ## What a request comes to -/

namespace Request

open Registry

variable {r r' : Registry} {q : Request} {a : Answer} {f : Failure}

/-- The name that is taken away is the first one, where the registry may choose. -/
lemma popItem_ok (hr : r.Checked) (h : popItem.result r = .ok (a, r')) :
    (∃ e, a = .entry e.1 e.2 ∧ r.view.popFirst = some (e, r'.view)) ∧ r'.Checked := by
  rcases hfirst : r.popFirst with f | ⟨⟨id, g⟩, r₁⟩ <;> rw [result, hfirst] at h <;> cases h
  obtain ⟨hhead, hfind, rfl⟩ := popFirst_ok hr hfirst
  refine ⟨⟨(id, .helper g), rfl, ?_⟩, hr.erase id⟩
  rw [OrderedMap.popFirst, view_keys, hhead, Option.bind_some, OrderedMap.pop, view_value, hfind,
    ← view_erase]
  rfl

/-- **A request that succeeds** is the request on a map that keeps its order, unless the registry may
choose a name, and the registry stays a checked one. -/
theorem result_ok (hr : r.Checked) (h : q.result r = .ok (a, r')) :
    (q ≠ .popItem → q.effect r.view = some (a, r'.view)) ∧ r'.Checked := by
  cases q with
  | set name helper =>
    rcases hset : r.set name helper with f | r₁ <;> rw [result, hset] at h <;> cases h
    obtain ⟨id, g, rfl, hid, hout, rfl, rfl⟩ := set_ok hset
    exact ⟨fun _ => by rw [effect, view_put], hr.put g hid hout⟩
  | delete name =>
    rcases herase : r.erase name with f | r₁ <;> rw [result, herase] at h <;> cases h
    obtain ⟨id, g, rfl, hfind, rfl⟩ := erase_ok herase
    refine ⟨fun _ => ?_, hr.erase id⟩
    rw [effect, if_pos (mem_keys_view.2 ⟨g, hfind⟩), view_erase]
  | update helpers named =>
    rcases hupdate : r.update helpers named with f | r₁ <;> rw [result, hupdate] at h <;> cases h
    obtain ⟨ps, hs, hpairs, rfl, hcheck⟩ := update_ok hupdate
    obtain ⟨ns, htexts, hview⟩ := view_checkAll hcheck r
    refine ⟨fun _ => ?_, hr.putAll (eq_of_checkAll hcheck).2⟩
    simp only [effect, hpairs, htexts, hview, Option.map_some]
  | pop name fallback =>
    rcases hpop : r.popOr name fallback with f | ⟨d, r₁⟩ <;> rw [result, hpop] at h <;> cases h
    rcases popOr_ok hpop with ⟨id, g, rfl, hfind, rfl, rfl⟩ | ⟨rfl, rfl, hmissing⟩
    · refine ⟨fun _ => ?_, hr.erase id⟩
      simp only [effect, view_value, hfind, Option.map_some, view_erase]
    · refine ⟨fun _ => ?_, hr⟩
      cases name with
      | text id => simp only [effect, view_value, hmissing id rfl, Option.map_none, Option.map_some]
      | _ => rfl
  | popItem => exact ⟨fun hq => absurd rfl hq, (popItem_ok hr h).2⟩
  | setDefault name helper =>
    rcases hdefault : r.setDefault name helper with f | ⟨g, r₁⟩ <;> rw [result, hdefault] at h <;>
      cases h
    obtain ⟨id, rfl, ⟨hfind, rfl⟩ | ⟨hfind, hid, hout, rfl, rfl⟩⟩ := setDefault_ok hdefault
    · refine ⟨fun _ => ?_, hr⟩
      simp only [effect, view_value, hfind, Option.map_some]
    · refine ⟨fun _ => ?_, hr.put g hid hout⟩
      simp only [effect, view_value, hfind, Option.map_none, view_put]
  | clear =>
    cases h
    exact ⟨fun _ => rfl, List.nodup_nil, fun id hid => absurd hid List.not_mem_nil⟩
  | copy =>
    cases h
    exact ⟨fun _ => rfl, hr⟩

/-- **A request that fails** complains about what it was given. -/
theorem isComplaint_result (hq : q.Genuine) (h : q.result r = .error f) : f.IsComplaint := by
  cases q with
  | set name helper =>
    rcases hset : r.set name helper with g | r₁ <;> rw [result, hset] at h <;> cases h
    exact isComplaint_set hset
  | delete name =>
    rcases hpop : r.pop name with g | p <;> rw [result, erase_eq, hpop] at h <;> cases h
    exact isComplaint_pop hq hpop
  | update helpers named =>
    rcases hupdate : r.update helpers named with g | r₁ <;> rw [result, hupdate] at h <;> cases h
    exact isComplaint_update hq hupdate
  | pop name fallback =>
    rcases hpopOr : r.popOr name fallback with g | p <;> rw [result, hpopOr] at h <;> cases h
    exact isComplaint_popOr hq hpopOr
  | popItem =>
    obtain ⟨_ | ⟨e, hs⟩⟩ := r <;> cases h
    exact isComplaint_key []
  | setDefault name helper =>
    rcases hdefault : r.setDefault name helper with g | p <;> rw [result, hdefault] at h <;> cases h
    exact isComplaint_setDefault hq hdefault
  | clear | copy => cases h

/-- What can be done is done. -/
theorem exists_result (h : q.Acceptable r.view) : ∃ a r', q.result r = .ok (a, r') := by
  cases q with
  | set name helper =>
    obtain ⟨e, he⟩ := check_of_usable h
    refine ⟨.done, ⟨r.helpers.put e.1 e.2⟩, ?_⟩
    rw [result, set_eq, he]
    rfl
  | delete name =>
    obtain ⟨id, hid, rfl⟩ := h
    obtain ⟨g, hfind⟩ := mem_keys_view.1 hid
    refine ⟨.done, ⟨r.helpers.erase id⟩, ?_⟩
    have hpop := pop_of_found ((find?_text id).trans (congrArg Except.ok hfind))
    rw [result, erase_eq, hpop]
    rfl
  | update helpers named =>
    obtain ⟨ps, hpairs, hall⟩ := h
    obtain ⟨hs, hcheck⟩ := checkAll_of_usable (Entries.usable_putAll (List.forall_mem_nil _) hall)
    refine ⟨.done, ⟨r.helpers.putAll hs⟩, ?_⟩
    rw [result, update_eq, hpairs, Except.bind, hcheck]
    rfl
  | pop name fallback =>
    obtain ⟨id, rfl, h⟩ := h
    have hfind := find?_text (r := r) id
    cases hid : r.helpers.find? id with
    | some g =>
      rw [hid] at hfind
      refine ⟨.value (.helper g), ⟨r.helpers.erase id⟩, ?_⟩
      rw [result, popOr_of_ok (pop_of_found hfind)]
      rfl
    | none =>
      have hmissing : id ∉ r.view.keys := fun hmem => by
        obtain ⟨g, hg⟩ := mem_keys_view.1 hmem
        rw [hid] at hg
        cases hg
      obtain ⟨d, rfl⟩ := Option.isSome_iff_exists.1 (h.resolve_left hmissing)
      rw [hid] at hfind
      refine ⟨.value d, r, ?_⟩
      rw [result, popOr_of_missing hfind]
      rfl
  | popItem =>
    obtain ⟨_ | ⟨e, hs⟩⟩ := r
    · exact absurd (view_keys _) h
    · exact ⟨_, _, rfl⟩
  | setDefault name helper =>
    obtain ⟨id, rfl⟩ : ∃ id, name = .text id := by
      rcases h with ⟨id, -, hname⟩ | ⟨id, -, hname, -⟩
      · exact ⟨id, hname⟩
      · exact ⟨id, hname⟩
    rcases hfind : r.find? (.text id) with f | _ | g
    · rw [find?_text] at hfind
      cases hfind
    · have husable : Usable (.text id) helper := h.resolve_left fun ⟨other, hmem, hname⟩ => by
        cases hname
        obtain ⟨g, hg⟩ := mem_keys_view.1 hmem
        rw [find?_text, hg] at hfind
        cases hfind
      obtain ⟨e, he⟩ := check_of_usable husable
      refine ⟨.value (.helper e.2), ⟨r.helpers.put e.1 e.2⟩, ?_⟩
      rw [result, Registry.setDefault, hfind]
      show Except.map _ (check (.text id) helper >>= _) = _
      rw [he]
      rfl
    · refine ⟨.value (.helper g), r, ?_⟩
      rw [result, Registry.setDefault, hfind]
      rfl
  | clear => exact ⟨_, _, rfl⟩
  | copy => exact ⟨_, _, rfl⟩

end Request
end ViewEngine

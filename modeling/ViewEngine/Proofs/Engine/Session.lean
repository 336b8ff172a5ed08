/-
# Sessions with the registry of helpers

An environment is made with helpers, and then its registry is asked for one thing after the other;
copies are kept.  What is known of one request holds for each of them.

* `Session.step_ok`, `Session.step_error`: one request;
* `Session.copies_run_copy`: a copy keeps what was registered when it was made;
* `Environment.make_ok`: the registry of a new environment;
* `registry_is_checked_map`: what is known after any sequence of requests.
-/
import Mathlib.Tactic.Common
import Mathlib.Tactic.Lemma
import ViewEngine.Engine.Environment
import ViewEngine.Proofs.Engine.Requests

namespace ViewEngine

open Script (Datum)

/-! ## Sessions -/

/-- A session with a registry: what is registered, and the copies that were made, oldest first. -/
structure Session where
  registry : Registry
  copies : List (Names Datum) := []

namespace Session

/-- Does what is asked. -/
def step (q : Request) (s : Session) : Except Failure Answer × Session :=
  let (answer, registry) := q.steps.run.run s.registry
  let copies := match q with
    | .copy => s.copies ++ [s.registry.data]
    | _ => s.copies
  (answer, { registry, copies })

/-- Does several things one after the other, whether they fail or not. -/
def run (s : Session) (qs : List Request) : Session := qs.foldl (fun s q => (s.step q).2) s

variable {s : Session} {q : Request}

lemma run_append (s : Session) (front back : List Request) :
    s.run (front ++ back) = (s.run front).run back := List.foldl_append

lemma step_ok {a : Answer} {r : Registry} (hq : q.Genuine) (hs : s.registry.Checked)
    (h : q.result s.registry = .ok (a, r)) :
    (s.step q).1 = .ok a ∧ (s.step q).2.registry = r := by
  have hsteps : q.steps.run.run s.registry = _ := Request.atomic_steps hq hs.nodup
  rw [h] at hsteps
  unfold step
  rw [hsteps]
  exact ⟨rfl, rfl⟩

/-- A step that fails changes nothing, and makes no copy. -/
lemma step_error {f : Failure} (hq : q.Genuine) (hs : s.registry.Checked)
    (h : q.result s.registry = .error f) : s.step q = (.error f, s) := by
  have hsteps : q.steps.run.run s.registry = _ := Request.atomic_steps hq hs.nodup
  rw [h] at hsteps
  unfold step
  rw [hsteps]
  cases q with
  | copy => cases h
  | _ => rfl

lemma checked_step (hq : q.Genuine) (hs : s.registry.Checked) : (s.step q).2.registry.Checked := by
  rcases hresult : q.result s.registry with f | ⟨a, r⟩
  · rw [step_error hq hs hresult]
    exact hs
  · rw [(step_ok hq hs hresult).2]
    exact (Request.result_ok hs hresult).2

lemma checked_run {qs : List Request} (hqs : ∀ q ∈ qs, q.Genuine) (hs : s.registry.Checked) :
    (s.run qs).registry.Checked := by
  induction qs generalizing s with
  | nil => exact hs
  | cons q qs ih =>
    obtain ⟨hq, hqs⟩ := List.forall_mem_cons.1 hqs
    exact ih hqs (checked_step hq hs)

lemma copies_step (s : Session) (q : Request) : s.copies <+: (s.step q).2.copies := by
  cases q with
  | copy => exact List.prefix_append _ _
  | _ => exact List.prefix_rfl

lemma copies_run (s : Session) (qs : List Request) : s.copies <+: (s.run qs).copies := by
  induction qs generalizing s with
  | nil => exact List.prefix_rfl
  | cons q qs ih => exact (copies_step s q).trans (ih (s.step q).2)

/-- A copy keeps what was registered when it was made. -/
lemma copies_run_copy (s : Session) (front back : List Request) :
    (s.run (front ++ .copy :: back)).copies[(s.run front).copies.length]? =
      some (s.run front).registry.data := by
  have hmade : ((s.run front).step .copy).2.copies =
      (s.run front).copies ++ [(s.run front).registry.data] := rfl
  obtain ⟨later, hlater⟩ := copies_run ((s.run front).step .copy).2 back
  rw [run_append]
  show (((s.run front).step .copy).2.run back).copies[_]? = _
  rw [← hlater, hmade]
  simp

end Session

/-! ## Construction -/

namespace Environment

/-- The pairs that the helpers of a new environment are written with; what counts as false has none. -/
def given (helpers : Option Datum) : Except Failure Entries :=
  match helpers with
  | none => .ok []
  | some d => if d.isTrue then Mapping.pairs d else .ok []

lemma entriesOrNone_eq_given (helpers : Option Datum) :
    Mapping.entriesOrNone helpers = (given helpers).map (Entries.putAll []) := by
  cases helpers with
  | none => rfl
  | some d =>
    show (if d.isTrue then _ else _) = (if d.isTrue then _ else _ : Except Failure Entries).map _
    split
    · exact Mapping.entries_eq_pairs d
    · rfl

/-- The helpers of a new environment are checked and registered. -/
lemma register_given (helpers : Option Datum) (g : Registry → Environment) :
    (do
      let es ← Mapping.entriesOrNone helpers
      let registered ← Registry.checkAll es
      .ok (g ⟨Names.putAll [] registered⟩)) =
      (given helpers).bind fun ps =>
        (Registry.checkAll (Entries.putAll [] ps)).map fun hs => g ⟨Names.putAll [] hs⟩ := by
  rw [entriesOrNone_eq_given]
  rcases given helpers with f | ps
  · rfl
  · show (Registry.checkAll (Entries.putAll [] ps) >>= _) =
      (Registry.checkAll (Entries.putAll [] ps)).map _
    cases Registry.checkAll (Entries.putAll [] ps) <;> rfl

/-- Where views come from and how deep they may lie is settled before the helpers are looked at. -/
lemma make_cases (store : Option ViewStore) (folders : Option FolderStore) (limit : Int)
    (helpers : Option Datum) :
    ((store.isSome ∧ folders.isSome ∨ limit < 1) ∧
      ∃ t, make store folders limit helpers = .error (.complaint .value t)) ∨
    ∃ store', make store folders limit helpers =
      (given helpers).bind fun ps =>
        (Registry.checkAll (Entries.putAll [] ps)).map fun hs =>
          { store := store', limit, registry := ⟨Names.putAll [] hs⟩ } := by
  have hmake : ∀ s : Option ViewStore, ¬ limit < 1 →
      (if limit < 1 then
        .error (.complaint .value ("max_depth must be at least 1, got " ++ Text.ofInt limit))
      else do
        let es ← Mapping.entriesOrNone helpers
        let registered ← Registry.checkAll es
        .ok { store := s, limit, registry := ⟨Names.putAll [] registered⟩ }) =
      (given helpers).bind fun ps =>
        (Registry.checkAll (Entries.putAll [] ps)).map fun hs =>
          ({ store := s, limit, registry := ⟨Names.putAll [] hs⟩ } : Environment) := by
    intro s hlimit
    rw [if_neg hlimit]
    exact register_given helpers fun r => { store := s, limit, registry := r }
  by_cases hlimit : limit < 1
  · left
    refine ⟨.inr hlimit, ?_⟩
    rcases store with _ | v <;> rcases folders with _ | w <;>
      simp only [make, bind, Except.bind, if_pos hlimit, Except.error.injEq, Failure.complaint.injEq,
        true_and, exists_eq']
  · rcases store with _ | v <;> rcases folders with _ | w
    · exact .inr ⟨none, hmake none hlimit⟩
    · exact .inr ⟨some (.folders w), hmake _ hlimit⟩
    · exact .inr ⟨some v, hmake _ hlimit⟩
    · exact .inl ⟨.inl ⟨rfl, rfl⟩, _, rfl⟩

variable {store : Option ViewStore} {folders : Option FolderStore} {limit : Int}
  {helpers : Option Datum} {e : Environment} {f : Failure}

/-- The registry of a new environment holds the given helpers, given name by name. -/
lemma make_ok (h : make store folders limit helpers = .ok e) :
    e.registry.Checked ∧ ∃ ps ns, given helpers = .ok ps ∧ Entries.texts? ps = some ns ∧
      e.registry.view = OrderedMap.empty.setAll ns := by
  rcases make_cases store folders limit helpers with ⟨-, t, hmake⟩ | ⟨store', hmake⟩
  · rw [hmake] at h
    cases h
  rw [hmake] at h
  rcases hgiven : given helpers with f | ps
  · rw [hgiven] at h
    cases h
  rw [hgiven, Except.bind] at h
  rcases hcheck : Registry.checkAll (Entries.putAll [] ps) with f | hs
  · rw [hcheck] at h
    cases h
  · rw [hcheck] at h
    cases h
    obtain ⟨ns, htexts, hview⟩ := Registry.view_checkAll hcheck {}
    have hempty : Registry.Checked {} := ⟨List.nodup_nil, fun id hid => absurd hid List.not_mem_nil⟩
    exact ⟨hempty.putAll (Registry.eq_of_checkAll hcheck).2, ps, ns, rfl, htexts, hview⟩

/-- An environment can be made with helpers that can be registered. -/
lemma exists_make {ps : Entries} (hsource : store = none ∨ folders = none) (hlimit : 1 ≤ limit)
    (hgiven : given helpers = .ok ps) (hps : ∀ p ∈ ps, Usable p.1 p.2) :
    ∃ e, make store folders limit helpers = .ok e := by
  rcases make_cases store folders limit helpers with ⟨h, -⟩ | ⟨store', hmake⟩
  · rcases h with ⟨hstore, hfolders⟩ | hless
    · rcases hsource with rfl | rfl
      · cases hstore
      · cases hfolders
    · exact absurd hlimit (Int.not_le.2 hless)
  · obtain ⟨hs, hcheck⟩ :=
      Registry.checkAll_of_usable (Entries.usable_putAll (List.forall_mem_nil _) hps)
    rw [hgiven, Except.bind, hcheck] at hmake
    exact ⟨_, hmake⟩

lemma isComplaint_make (hhelpers : ∀ d ∈ helpers, d.Genuine)
    (h : make store folders limit helpers = .error f) : f.IsComplaint := by
  rcases make_cases store folders limit helpers with ⟨-, t, hmake⟩ | ⟨store', hmake⟩
  · rw [hmake] at h
    cases h
    exact isComplaint_value t
  rw [hmake] at h
  rcases hgiven : given helpers with g | ps
  · rw [hgiven] at h
    cases h
    cases helpers with
    | none => cases hgiven
    | some d =>
      unfold given at hgiven
      dsimp only at hgiven
      split at hgiven
      · exact Mapping.isComplaint_pairs (hhelpers d rfl) hgiven
      · cases hgiven
  rw [hgiven, Except.bind] at h
  rcases hcheck : Registry.checkAll (Entries.putAll [] ps) with g | hs
  · rw [hcheck] at h
    cases h
    exact Registry.isComplaint_checkAll hcheck
  · rw [hcheck] at h
    cases h

end Environment

/-! ## The registry of an environment -/

/-- **The registry of helpers is a checked map.**  Whatever has been asked of the registry of a new
environment before, it is a map whose keys are identifiers other than the one of the output and whose
values are helpers; what is asked of it next is done as on a map that keeps its order, except that the
first key is the one that is taken away where the map would take the last, or the complaint is about
what was given and nothing has changed; and every copy that was made holds what was registered when it
was made. -/
theorem registry_is_checked_map {store : Option ViewStore} {folders : Option FolderStore}
    {limit : Int} {helpers : Option Datum} (hhelpers : ∀ d ∈ helpers, d.Genuine)
    {past : List Request} (hpast : ∀ q ∈ past, q.Genuine) :
    (∀ f, Environment.make store folders limit helpers = .error f → f.IsComplaint) ∧
    (∀ ps, store = none ∨ folders = none → 1 ≤ limit → Environment.given helpers = .ok ps →
      (∀ p ∈ ps, Usable p.1 p.2) → ∃ e, Environment.make store folders limit helpers = .ok e) ∧
    ∀ e, Environment.make store folders limit helpers = .ok e →
      (∃ ps ns, Environment.given helpers = .ok ps ∧ Entries.texts? ps = some ns ∧
        e.registry.view = OrderedMap.empty.setAll ns) ∧
      (Session.run { registry := e.registry } past).registry.view.IsRegistry ∧
      (∀ front back, past = front ++ .copy :: back →
        let earlier := Session.run { registry := e.registry } front
        (Session.run { registry := e.registry } past).copies[earlier.copies.length]? =
          some earlier.registry.data) ∧
      ∀ q : Request, q.Genuine →
        let now := Session.run { registry := e.registry } past
        (∀ a, (now.step q).1 = .ok a →
          (q ≠ .popItem →
            q.effect now.registry.view = some (a, (now.step q).2.registry.view)) ∧
          (q = .popItem → ∃ entry, a = .entry entry.1 entry.2 ∧
            now.registry.view.popFirst = some (entry, (now.step q).2.registry.view))) ∧
        (∀ f, (now.step q).1 = .error f → f.IsComplaint ∧ (now.step q).2 = now) ∧
        (q.Acceptable now.registry.view → ∃ a, (now.step q).1 = .ok a) := by
  refine ⟨fun f => Environment.isComplaint_make hhelpers,
    fun ps => Environment.exists_make, fun e he => ?_⟩
  obtain ⟨hchecked, hmade⟩ := Environment.make_ok he
  have hnow := Session.checked_run (s := { registry := e.registry }) hpast hchecked
  refine ⟨hmade, hnow.isRegistry, ?_, fun q hq => ⟨fun a ha => ?_, fun f hf => ?_, fun hq' => ?_⟩⟩
  · rintro front back rfl
    exact Session.copies_run_copy _ front back
  · rcases hresult : q.result (Session.run { registry := e.registry } past).registry with f | ⟨b, r⟩
    · rw [Session.step_error hq hnow hresult] at ha
      cases ha
    · obtain ⟨hanswer, hregistry⟩ := Session.step_ok hq hnow hresult
      rw [hanswer] at ha
      cases ha
      rw [hregistry]
      refine ⟨(Request.result_ok hnow hresult).1, ?_⟩
      rintro rfl
      exact (Request.popItem_ok hnow hresult).1
  · rcases hresult : q.result (Session.run { registry := e.registry } past).registry with g | ⟨b, r⟩
    · rw [Session.step_error hq hnow hresult] at hf ⊢
      cases hf
      exact ⟨Request.isComplaint_result hq hresult, rfl⟩
    · rw [(Session.step_ok hq hnow hresult).1] at hf
      cases hf
  · obtain ⟨a, r, hresult⟩ := Request.exists_result hq'
    exact ⟨a, (Session.step_ok hq hnow hresult).1⟩

/-- Of two helpers the one that was registered first is taken away, where a map that keeps its order
takes the other; and what counts as false is no map, but an environment can be made with it. -/
theorem popItem_takes_first :
    (∃ e, Environment.make none none 50 none = .ok e ∧
      let now := Session.run { registry := e.registry }
        [.set (.text "up") (.helper "upper"), .set (.text "low") (.helper "lower")]
      (now.step .popItem).1 = .ok (.entry "up" (.helper "upper")) ∧
      ∃ m, Request.popItem.effect now.registry.view = some (.entry "low" (.helper "lower"), m)) ∧
    (∃ e, Environment.make none none 50 (some (.int 0)) = .ok e) ∧
    ∃ f, Mapping.pairs (.int 0) = .error f := by
  refine ⟨⟨_, rfl, ?_, _, rfl⟩, ⟨_, rfl⟩, _, rfl⟩
  have hchecked : Registry.Checked {} := ⟨List.nodup_nil, fun id hid => absurd hid List.not_mem_nil⟩
  have hitem : Request.popItem.Genuine := trivial
  refine (Session.step_ok hitem (Session.checked_run ?_ hchecked) rfl).1
  simp [Request.Genuine, Datum.Genuine]

/-- A session with one helper and another that is added: what cannot be registered as a whole is refused
as a whole, and what can be done is done. -/
theorem requests_of_small_registry :
    let helpers : Datum := .dict [.mk (.text "up") (.helper "upper")]
    let past : List Request := [.set (.text "low") (.helper "lower"), .copy]
    let late : Request :=
      .update (.dict [.mk (.text "mid") (.helper "middle"), .mk (.text "bad") (.int 3)]) []
    let whole : Request := .update (.dict [.mk (.text "up") (.helper "big")]) [("mid", .helper "middle")]
    (∀ d ∈ some helpers, d.Genuine) ∧ (∀ q ∈ past, q.Genuine) ∧
    ∃ e, Environment.make none none 50 (some helpers) = .ok e ∧
      let now := Session.run { registry := e.registry } past
      (∃ f, (now.step late).1 = .error f ∧ f.IsComplaint ∧ (now.step late).2 = now) ∧
      ((now.step whole).1 = .ok .done ∧
        whole.effect now.registry.view = some (.done, (now.step whole).2.registry.view)) ∧
      ∃ entry, (now.step .popItem).1 = .ok (.entry entry.1 entry.2) ∧
        now.registry.view.popFirst = some (entry, (now.step .popItem).2.registry.view) := by
  intro helpers past late whole
  have hhelpers : ∀ d ∈ some helpers, d.Genuine := by
    rintro d ⟨⟩
    exact ⟨⟨trivial, trivial, trivial⟩, trivial⟩
  have hpast : ∀ q ∈ past, q.Genuine := by simp [past, Request.Genuine, Datum.Genuine]
  have hlate : late.Genuine :=
    ⟨⟨trivial, trivial, trivial⟩, ⟨trivial, trivial, trivial⟩, trivial⟩
  have hwhole : whole.Genuine := ⟨⟨trivial, trivial, trivial⟩, trivial⟩
  obtain ⟨-, hmake, hall⟩ :=
    @registry_is_checked_map none none 50 (some helpers) hhelpers past hpast
  obtain ⟨ps, hgiven, hps⟩ : ∃ ps, Environment.given (some helpers) = .ok ps ∧
      ∀ p ∈ ps, Usable p.1 p.2 := by
    show ∃ ps, (if helpers.isTrue then _ else _) = _ ∧ _
    split
    · refine ⟨_, rfl, fun p hp => ?_⟩
      rw [List.mem_singleton.1 hp]
      exact ⟨"up", "upper", rfl, rfl, by decide, rfl⟩
    · exact ⟨[], rfl, List.forall_mem_nil _⟩
  obtain ⟨e, he⟩ := hmake ps (.inl rfl) (by decide) hgiven hps
  obtain ⟨-, -, -, hnext⟩ := hall e he
  obtain ⟨-, hfails, -⟩ := hnext late hlate
  obtain ⟨hdone, -, -⟩ := hnext whole hwhole
  have hother : whole ≠ .popItem := by simp [whole]
  obtain ⟨htaken, -, hsome⟩ := hnext .popItem trivial
  -- the second helper is there, whatever the first registration came to
  have hlow : ("low" : Text) ∈
      (Session.run { registry := e.registry } past).registry.view.keys := by
    show ("low" : Text) ∈ (Registry.view ⟨e.registry.helpers.put "low" "lower"⟩).keys
    rw [Registry.view_put]
    exact OrderedMap.mem_keys_set.2 (.inl rfl)
  obtain ⟨a, ha⟩ := hsome (List.ne_nil_of_mem hlow)
  obtain ⟨entry, rfl, hfirst⟩ := (htaken a ha).2 rfl
  exact ⟨hhelpers, hpast, e, he, ⟨_, rfl, hfails _ rfl⟩, ⟨rfl, (hdone _ rfl).1 hother⟩, entry, ha,
    hfirst⟩

end ViewEngine

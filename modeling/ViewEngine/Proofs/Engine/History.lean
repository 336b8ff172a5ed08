/-
# What a template sees, over the history of an environment

An environment is used for a while: its registry is asked for things, views come from elsewhere, views
are compiled and templates are run, in any order.  A template that was compiled at some time is run at
another.  Its code then starts with names that were put together from the helpers of the one time and
the data of the other.

* `Call.answer_cases`, `Environment.started_render`: what one call does with its data;
* `Usage.compiled_of_mem`: every template was compiled at some time;
* `namespace_of_every_render`: the namespaces of all renders.
-/
import Mathlib.Tactic.Common
import Mathlib.Tactic.Lemma
import ViewEngine.Proofs.Engine.Namespace
import ViewEngine.Proofs.Engine.Session

namespace ViewEngine

open Script (Datum)

/-! ## Calls -/

/-- How a template is run. -/
inductive Call where
  /-- With a mapping by place, if there is any, and data by name. -/
  | render (plain : List Datum) (named : Names Datum)
  /-- With a mapping alone. -/
  | run (data : Datum)

namespace Call

/-- What a call of a template gives. -/
def answer (host : Host) (t : Template) : Call → Except Failure Text
  | render plain named => t.render host plain named
  | run data => t.runWith host data

/-- A call gives a mapping, which is written with some pairs, and data by name.  One name cannot be
given to a template. -/
inductive Gives : Call → Entries → Names Datum → Prop
  | named {named : Names Datum} (h : named.find? "self" = none) : Gives (render [] named) [] named
  | mapping {es : List Script.DatumEntry} {given : Entries} {named : Names Datum}
      (h : Mapping.pairs (.dict es) = .ok given) (hself : named.find? "self" = none) :
      Gives (render [.dict es] named) given named
  | run {d : Datum} {given : Entries} (h : Mapping.pairs d = .ok given) : Gives (run d) given []

/-- A host can hold the data of the call. -/
def Genuine : Call → Prop
  | render plain named => (∀ d ∈ plain, d.Genuine) ∧ ∀ e ∈ named, e.2.Genuine
  | run data => data.Genuine

/-- The data that a mapping holds. -/
lemma context_cases (d : Datum) :
    (∃ given ctx, Mapping.pairs d = .ok given ∧ Mapping.context d = .ok ctx ∧
      ctx = Entries.names (Entries.putAll [] given) ∧ (d.Genuine → ∀ e ∈ ctx, e.2.Genuine)) ∨
    ∃ f, Mapping.pairs d = .error f ∧ Mapping.context d = .error f := by
  rw [Mapping.context, Mapping.entries_eq_pairs]
  rcases hpairs : Mapping.pairs d with f | given
  · exact .inr ⟨f, rfl, rfl⟩
  · refine .inl ⟨given, _, rfl, rfl, rfl, fun hd => (Mapping.genuine_entries hd ?_).names⟩
    rw [Mapping.entries_eq_pairs, hpairs]
    rfl

/-- What is known of the data of a call. -/
lemma gives_of_callData {plain : List Datum} {named data : Names Datum}
    (h : Template.callData plain named = .ok data) :
    ∃ given, Gives (render plain named) given named ∧ Merges given named data ∧
      (Genuine (render plain named) → ∀ e ∈ data, e.2.Genuine) := by
  rw [Template.callData] at h
  rcases hself : named.find? "self" with _ | d
  · rw [hself] at h
    split at h
    · next hnone => cases hnone
    · next hplain =>
      cases hplain
      cases h
      exact ⟨[], .named hself, merges_named _, fun hgenuine => hgenuine.2⟩
    · next es hplain =>
      cases hplain
      cases h
      refine ⟨_, .mapping rfl hself, merges_putAll _ named, fun hgenuine e he => ?_⟩
      rcases Names.mem_putAll he with he | he
      · exact hgenuine.2 e he
      · have hes : (Datum.dict es).Genuine := hgenuine.1 _ (List.mem_singleton_self _)
        exact (Mapping.genuine_entries hes rfl).names e he
    · cases h
  · rw [hself] at h
    cases h

/-- **What a call does with its data**: it runs the code on them, or it is refused, whatever the
template is. -/
lemma answer_cases (c : Call) :
    (∃ given named data, c.Gives given named ∧ Merges given named data ∧
      (c.Genuine → ∀ e ∈ data, e.2.Genuine) ∧ ∀ host t, c.answer host t = t.run host data) ∨
    ∃ f, ∀ host t, c.answer host t = .error f := by
  cases c with
  | run d =>
    rcases context_cases d with ⟨given, ctx, hpairs, hctx, rfl, hgenuine⟩ | ⟨f, -, hctx⟩
    · refine .inl ⟨given, [], _, .run hpairs, merges_putAll given [], hgenuine, fun host t => ?_⟩
      rw [answer, Template.runWith, hctx]
      rfl
    · refine .inr ⟨f, fun host t => ?_⟩
      rw [answer, Template.runWith, hctx]
      rfl
  | render plain named =>
    rcases hcall : Template.callData plain named with f | data
    · refine .inr ⟨f, fun host t => ?_⟩
      rw [answer, Template.render, hcall]
      rfl
    · obtain ⟨given, hgives, hmerges, hgenuine⟩ := gives_of_callData hcall
      refine .inl ⟨given, named, data, hgives, hmerges, hgenuine, fun host t => ?_⟩
      rw [answer, Template.render, hcall]
      rfl

end Call

namespace Environment

variable {e : Environment} {disk : Disk} {host : Host}

lemma result_bind {α β : Type} (x : Outcome α) (f : α → Outcome β) :
    (x >>= f).result = x.result.bind fun a => (f a).result := by
  obtain ⟨notes, r⟩ := x
  cases r <;> rfl

/-- A template keeps the helpers that are registered when it is compiled. -/
lemma helpers_of_compile {r : Layout.Resolved} {t : Template}
    (h : (e.compile r).result = .ok t) : t.helpers = e.registry.data := by
  have hissue : (issue r).result = .ok () := rfl
  rw [compile, result_bind, hissue, Except.bind, result_bind] at h
  rcases hgenerate : (Outcome.silent ((generate r.content r.name).mapError .view)).result with f | g
  · rw [hgenerate] at h
    cases h
  rw [hgenerate, Except.bind, result_bind] at h
  rcases htemplate : (Outcome.silent (Template.compile g e.registry.data r.warnings)).result
    with f | t'
  · rw [htemplate] at h
    cases h
  rw [htemplate] at h
  cases h
  exact Template.helpers_of_compile htemplate

lemma helpers_of_getTemplate {name : Option Text} {t : Template}
    (h : (e.getTemplate disk name).result = .ok t) : t.helpers = e.registry.data := by
  rw [getTemplate, result_bind] at h
  rcases hresolve : (e.resolve disk name none false).result with f | r
  · rw [hresolve] at h
    cases h
  · rw [hresolve] at h
    exact helpers_of_compile h

lemma helpers_of_fromString {source : Text} {name : Option Text} {t : Template}
    (h : (e.fromString disk source name).result = .ok t) : t.helpers = e.registry.data := by
  rw [fromString, result_bind] at h
  rcases hresolve : (e.resolve disk name (some source) false).result with f | r
  · rw [hresolve] at h
    cases h
  · rw [hresolve] at h
    exact helpers_of_compile h

/-- The data of a call of the environment, if they can be read. -/
lemma contextOf_cases (data : Option Datum) (named : Names Datum) :
    (∃ given ctx, Environment.given data = .ok given ∧ Merges given named ctx ∧
      contextOf data named = .ok ctx) ∨
    ∃ f, Environment.given data = .error f ∧ contextOf data named = .error f := by
  rw [contextOf, entriesOrNone_eq_given]
  rcases Environment.given data with f | given
  · exact .inr ⟨f, rfl, rfl⟩
  · exact .inl ⟨given, _, rfl, merges_putAll given named, rfl⟩

end Environment

/-! ## An environment in use -/

/-- Something that is done with an environment, or with a template that it has compiled. -/
inductive Deed where
  /-- The registry is asked for something. -/
  | ask (q : Request)
  /-- Views come from elsewhere. -/
  | setStore (store : Option ViewStore)
  /-- Views may lie less or more deep inside each other. -/
  | setLimit (limit : Int)
  /-- Files and folders change. -/
  | setDisk (disk : Disk)
  /-- A view is compiled. -/
  | getTemplate (name : Option Text)
  /-- A text is compiled. -/
  | fromString (source : Text) (name : Option Text)
  /-- The template with a number is run. -/
  | call (n : Nat) (c : Call)
  /-- A view is rendered. -/
  | render (name : Option Text) (asParent : Option Bool) (data : Option Datum) (named : Names Datum)
  /-- A text is rendered. -/
  | renderString (source : Text) (data : Option Datum) (named : Names Datum)

/-- What a deed gives. -/
inductive Reply where
  | done
  | registry (a : Answer)
  | template (t : Template)
  | output (text : Text)

/-- An environment with the files that there are, and with the templates that it has compiled, oldest
first. -/
structure Usage where
  environment : Environment
  disk : Disk
  templates : List Template := []

namespace Usage

/-- Keeps a template that was compiled. -/
def keep (s : Usage) (r : Except Failure Template) : Except Failure Reply × Usage :=
  match r with
  | .ok t => (.ok (.template t), { s with templates := s.templates ++ [t] })
  | .error f => (.error f, s)

/-- Does something. -/
def step (host : Host) (s : Usage) : Deed → Except Failure Reply × Usage
  | .ask q =>
    let (answer, registry) := q.steps.run.run s.environment.registry
    (answer.map .registry, { s with environment := { s.environment with registry } })
  | .setStore store => (.ok .done, { s with environment := { s.environment with store } })
  | .setLimit limit => (.ok .done, { s with environment := { s.environment with limit } })
  | .setDisk disk => (.ok .done, { s with disk })
  | .getTemplate name => s.keep (s.environment.getTemplate s.disk name).result
  | .fromString source name => s.keep (s.environment.fromString s.disk source name).result
  | .call n c =>
    match s.templates[n]? with
    | some t => ((c.answer host t).map .output, s)
    | none => (.ok .done, s)
  | .render name asParent data named =>
    ((s.environment.render s.disk host name asParent data named).result.map .output, s)
  | .renderString source data named =>
    ((s.environment.renderString s.disk host source data named).result.map .output, s)

/-- Does several things one after the other, whether they fail or not. -/
def run (host : Host) (s : Usage) (deeds : List Deed) : Usage :=
  deeds.foldl (fun s d => (s.step host d).2) s

variable {host : Host} {s : Usage} {d : Deed} {deeds : List Deed} {t : Template}

lemma run_append (s : Usage) (front back : List Deed) :
    s.run host (front ++ back) = (s.run host front).run host back := List.foldl_append

/-! ### Templates -/

lemma keep_cases (s : Usage) (r : Except Failure Template) :
    (∃ f, r = .error f ∧ s.keep r = (.error f, s)) ∨
      ∃ t, r = .ok t ∧
        s.keep r = (.ok (.template t), { s with templates := s.templates ++ [t] }) := by
  cases r with
  | error f => exact .inl ⟨f, rfl, rfl⟩
  | ok t => exact .inr ⟨t, rfl, rfl⟩

/-- A template that was asked for is the last one now; else the templates are as they were. -/
lemma templates_step (host : Host) (s : Usage) (d : Deed) :
    (s.step host d).2.templates = s.templates ∨
      ∃ t, (s.step host d).1 = .ok (.template t) ∧
        (s.step host d).2.templates = s.templates ++ [t] := by
  have hkeep : ∀ r, (s.keep r).2.templates = s.templates ∨
      ∃ t, (s.keep r).1 = .ok (.template t) ∧ (s.keep r).2.templates = s.templates ++ [t] := by
    intro r
    rcases keep_cases s r with ⟨f, -, h⟩ | ⟨t, -, h⟩
    · exact .inl (by rw [h])
    · exact .inr ⟨t, by rw [h], by rw [h]⟩
  cases d with
  | getTemplate name => exact hkeep _
  | fromString source name => exact hkeep _
  | call n c =>
    left
    rw [step]
    split <;> rfl
  | _ => exact .inl rfl

/-- A template that was compiled keeps the helpers that were registered then. -/
lemma helpers_of_step (h : (s.step host d).1 = .ok (.template t)) :
    t.helpers = s.environment.registry.data := by
  have hkeep : ∀ r, (s.keep r).1 = .ok (.template t) → r = .ok t := by
    intro r hr
    rcases keep_cases s r with ⟨f, -, heq⟩ | ⟨t', rfl, heq⟩
    · rw [heq] at hr
      cases hr
    · rw [heq] at hr
      cases hr
      rfl
  have hmap : ∀ {α : Type} (r : Except Failure α) (f : α → Reply),
      r.map f = .ok (.template t) → ∃ a, f a = .template t := by
    intro α r f hr
    cases r with
    | error g => cases hr
    | ok a => exact ⟨a, Except.ok.inj hr⟩
  cases d with
  | getTemplate name => exact Environment.helpers_of_getTemplate (hkeep _ h)
  | fromString source name => exact Environment.helpers_of_fromString (hkeep _ h)
  | ask q => obtain ⟨_, ha⟩ := hmap _ _ h; cases ha
  | render name asParent data named => obtain ⟨_, ha⟩ := hmap _ _ h; cases ha
  | renderString source data named => obtain ⟨_, ha⟩ := hmap _ _ h; cases ha
  | call n c =>
    rw [step] at h
    split at h
    · obtain ⟨_, ha⟩ := hmap _ _ h
      cases ha
    · cases h
  | _ => cases h

/-- **Every template was compiled at some time.** -/
lemma compiled_of_mem {n : Nat} (h : (s.run host deeds).templates[n]? = some t) :
    s.templates[n]? = some t ∨
      ∃ front d back, deeds = front ++ d :: back ∧ n = (s.run host front).templates.length ∧
        ((s.run host front).step host d).1 = .ok (.template t) := by
  induction deeds generalizing s with
  | nil => exact .inl h
  | cons d deeds ih =>
    rcases ih h with hthere | ⟨front, d', back, rfl, hn, hreply⟩
    · rcases templates_step host s d with hsame | ⟨t', hreply, hkept⟩
      · exact .inl (hsame ▸ hthere)
      · rw [hkept, List.getElem?_append] at hthere
        split at hthere
        · exact .inl hthere
        · next hn =>
          rcases hlast : n - s.templates.length with _ | k
          · rw [hlast] at hthere
            cases hthere
            have hnumber : n = s.templates.length := by omega
            exact .inr ⟨[], d, deeds, rfl, hnumber, hreply⟩
          · rw [hlast] at hthere
            cases hthere
    · exact .inr ⟨d :: front, d', back, rfl, hn, hreply⟩

/-! ### The registry -/

lemma checked_step (hd : ∀ q, d = .ask q → q.Genuine) (hs : s.environment.registry.Checked) :
    (s.step host d).2.environment.registry.Checked := by
  have hkeep : ∀ r, (s.keep r).2.environment.registry.Checked := by
    intro r
    rcases keep_cases s r with ⟨f, -, heq⟩ | ⟨t', -, heq⟩
    · rw [heq]
      exact hs
    · rw [heq]
      exact hs
  cases d with
  | ask q =>
    exact Session.checked_step (s := { registry := s.environment.registry }) (hd q rfl) hs
  | getTemplate name => exact hkeep _
  | fromString source name => exact hkeep _
  | call n c =>
    rw [step]
    split <;> exact hs
  | _ => exact hs

lemma checked_run (hdeeds : ∀ q, .ask q ∈ deeds → q.Genuine)
    (hs : s.environment.registry.Checked) :
    (s.run host deeds).environment.registry.Checked := by
  induction deeds generalizing s with
  | nil => exact hs
  | cons d deeds ih =>
    refine ih (fun q hq => hdeeds q (List.mem_cons_of_mem d hq)) (checked_step ?_ hs)
    rintro q rfl
    exact hdeeds q List.mem_cons_self

end Usage

/-! ## Where code starts -/

/-- The reply is what the code of a template gives, and the code started with names that stand for what
they should, and with an output of its own. -/
def Started (host : Host) (t : Template) (registered : OrderedMap Datum) (given : Entries)
    (named : Names Datum) (reply : Except Failure Reply) : Prop :=
  ∃ vs m, Begins m vs registered given named ∧ m.output = [] ∧
    reply = (t.execute host vs m).map .output

lemma started_run {t : Template} {r : Registry} (hhelpers : t.helpers = r.data) (hr : r.Checked)
    {given : Entries} {named data : Names Datum} (hdata : Merges given named data)
    (hgenuine : ∀ e ∈ data, e.2.Genuine) (host : Host) :
    Started host t r.view given named ((t.run host data).map .output) := by
  obtain ⟨vs, m, hbegins, hout, hrun⟩ :=
    Template.begins_run hhelpers hr.nodup hdata hgenuine host
  exact ⟨vs, m, hbegins, hout, by rw [hrun]⟩

namespace Environment

variable {e : Environment} {disk : Disk} {host : Host}

/-- A view that is rendered is compiled, and its code is run on the data. -/
lemma started_render (hr : e.registry.Checked) (name : Option Text) (asParent : Option Bool)
    {data : Option Datum} {named : Names Datum} (hgenuine : Environment.Genuine data named) :
    let reply := (e.render disk host name asParent data named).result.map Reply.output
    (∃ f, reply = .error f ∧ (wantsParent asParent named = .error f ∨
      Environment.given data = .error f ∨ (e.getTemplate disk name).result = .error f)) ∨
    wantsParent asParent named = .ok true ∨
    ∃ t given, (e.getTemplate disk name).result = .ok t ∧ Environment.given data = .ok given ∧
      Started host t e.registry.view given (named.erase parentFlag) reply := by
  intro reply
  have hreply : reply = Except.map Reply.output ((wantsParent asParent named).bind fun b =>
      (if b then e.renderParent disk name else do
        let context ← Outcome.silent (contextOf data (named.erase parentFlag))
        let t ← e.getTemplate disk name
        Outcome.silent (t.run host context)).result) := by
    show Except.map _ (e.render disk host name asParent data named).result = _
    rw [render, result_bind]
    rfl
  rcases hwants : wantsParent asParent named with f | _ | _
  · exact .inl ⟨f, by rw [hreply, hwants]; rfl, .inl rfl⟩
  · rw [hwants, Except.bind, if_neg Bool.false_ne_true, result_bind] at hreply
    rcases contextOf_cases data (named.erase parentFlag) with
      ⟨given, ctx, hgiven, hmerges, hctx⟩ | ⟨f, hgiven, hctx⟩
    · rw [hctx] at hreply
      rcases htemplate : (e.getTemplate disk name).result with f | t
      · refine .inl ⟨f, ?_, .inr (.inr rfl)⟩
        rw [hreply, Outcome.silent, Except.bind, result_bind, htemplate]
        rfl
      · refine .inr (.inr ⟨t, given, rfl, hgiven, ?_⟩)
        rw [hreply, Outcome.silent, Except.bind, result_bind, htemplate]
        exact started_run (helpers_of_getTemplate htemplate) hr hmerges
          ((hgenuine.erase parentFlag).contextOf hctx) host
    · refine .inl ⟨f, ?_, .inr (.inl hgiven)⟩
      rw [hreply, hctx]
      rfl
  · exact .inr (.inl rfl)

/-- A text that is rendered is compiled, and its code is run on the data. -/
lemma started_renderString (hr : e.registry.Checked) (source : Text) {data : Option Datum}
    {named : Names Datum} (hgenuine : Environment.Genuine data named) :
    let reply := (e.renderString disk host source data named).result.map Reply.output
    (∃ f, reply = .error f ∧
      (Environment.given data = .error f ∨ (e.fromString disk source none).result = .error f)) ∨
    ∃ t given, (e.fromString disk source none).result = .ok t ∧ Environment.given data = .ok given ∧
      Started host t e.registry.view given named reply := by
  intro reply
  have hreply : reply = Except.map Reply.output ((contextOf data named).bind fun context =>
      (e.fromString disk source none >>= fun t => Outcome.silent (t.run host context)).result) := by
    show Except.map _ (e.renderString disk host source data named).result = _
    rw [renderString, result_bind]
    rfl
  rcases contextOf_cases data named with ⟨given, ctx, hgiven, hmerges, hctx⟩ | ⟨f, hgiven, hctx⟩
  · rw [hctx, Except.bind, result_bind] at hreply
    rcases htemplate : (e.fromString disk source none).result with f | t
    · refine .inl ⟨f, ?_, .inr rfl⟩
      rw [hreply, htemplate]
      rfl
    · refine .inr ⟨t, given, rfl, hgiven, ?_⟩
      rw [hreply, htemplate]
      exact started_run (helpers_of_fromString htemplate) hr hmerges (hgenuine.contextOf hctx) host
  · refine .inl ⟨f, ?_, .inl hgiven⟩
    rw [hreply, hctx]
    rfl

end Environment

/-- **What names stand for, over the history of an environment.**  Whatever was done with a new
environment and its templates before: a template was compiled at some time, and when it is called, its
code starts with names that stand for the output, the data of the call by name, those of its mapping,
the helpers that were registered at that time and the standard one, the first of these that has the
name, and with no other; and when a view or a text is rendered, it is compiled now, and its code starts
likewise. -/
theorem namespace_of_every_render {store : Option ViewStore} {folders : Option FolderStore}
    {limit : Int} {helpers : Option Datum} {e : Environment}
    (he : Environment.make store folders limit helpers = .ok e) (disk : Disk) (host : Host)
    {past : List Deed} (hpast : ∀ q, .ask q ∈ past → q.Genuine) :
    let start : Usage := { environment := e, disk }
    let now := start.run host past
    (∀ n t, now.templates[n]? = some t →
      ∃ front d back, past = front ++ d :: back ∧ n = (start.run host front).templates.length ∧
        ((start.run host front).step host d).1 = .ok (.template t) ∧
        ∀ c : Call, c.Genuine →
          let reply := (now.step host (.call n c)).1
          (∃ f, reply = .error f ∧ ∀ host t, c.answer host t = .error f) ∨
          ∃ given named, c.Gives given named ∧
            Started host t (start.run host front).environment.registry.view given named reply) ∧
    (∀ name asParent data named, Environment.Genuine data named →
      let reply := (now.step host (.render name asParent data named)).1
      let compiled := (now.environment.getTemplate now.disk name).result
      (∃ f, reply = .error f ∧ (Environment.wantsParent asParent named = .error f ∨
        Environment.given data = .error f ∨ compiled = .error f)) ∨
      Environment.wantsParent asParent named = .ok true ∨
      ∃ t given, compiled = .ok t ∧ Environment.given data = .ok given ∧
        Started host t now.environment.registry.view given
          (named.erase Environment.parentFlag) reply) ∧
    (∀ source data named, Environment.Genuine data named →
      let reply := (now.step host (.renderString source data named)).1
      let compiled := (now.environment.fromString now.disk source none).result
      (∃ f, reply = .error f ∧ (Environment.given data = .error f ∨ compiled = .error f)) ∨
      ∃ t given, compiled = .ok t ∧ Environment.given data = .ok given ∧
        Started host t now.environment.registry.view given named reply) := by
  intro start now
  have hmade : start.environment.registry.Checked := (Environment.make_ok he).1
  have hnow : now.environment.registry.Checked := Usage.checked_run hpast hmade
  refine ⟨fun n t ht => ?_,
    fun name asParent _ _ => Environment.started_render hnow name asParent,
    fun source _ _ => Environment.started_renderString hnow source⟩
  rcases Usage.compiled_of_mem ht with hthere | ⟨front, d, back, hsplit, hn, hreply⟩
  · cases hthere
  refine ⟨front, d, back, hsplit, hn, hreply, fun c hc => ?_⟩
  have hthen : (start.run host front).environment.registry.Checked :=
    Usage.checked_run (fun q hq => hpast q (hsplit ▸ List.mem_append_left _ hq)) hmade
  have hstep : (now.step host (.call n c)).1 = (c.answer host t).map .output := by
    rw [Usage.step, ht]
  rw [hstep]
  rcases c.answer_cases with ⟨given, named, data, hgives, hmerges, hgenuine, hrun⟩ | ⟨f, hf⟩
  · refine .inr ⟨given, named, hgives, ?_⟩
    rw [hrun]
    exact started_run (Usage.helpers_of_step hreply) hthen hmerges (hgenuine hc) host
  · exact .inl ⟨f, by rw [hf]; rfl, hf⟩

/-- A helper that is registered after a template was compiled is none that the template sees, and the
name of its output is not taken by the data of the call. -/
theorem namespace_of_later_call :
    let host : Host := { helpers := [] }
    let past : List Deed := [.fromString "<%- x %>" none, .ask (.set (.text "hi") (.helper "one"))]
    let now := Usage.run host { environment := {}, disk := {} } past
    let c : Call := .render [.dict [.mk (.text "x") (.list [.int 1])]] [(outputId, .int 2)]
    now.environment.registry.helpers.find? "hi" = some "one" ∧
    ∃ t vs m a i, now.templates[0]? = some t ∧
      (now.step host (.call 0 c)).1 = (t.execute host vs m).map .output ∧
      vs.find? "hi" = none ∧ vs.find? outputId = some .output ∧
      vs.find? "x" = some (.list a) ∧ m.cells[a]? = some (.list [.int i 1]) ∧
      vs.find? "escape" = some (.helper "escape") := by
  intro host past now c
  have he : Environment.make none none 50 none = .ok {} := rfl
  have hpast : ∀ q, Deed.ask q ∈ past → q.Genuine := by
    intro q hq
    simp only [past, List.mem_cons, List.not_mem_nil, Deed.ask.injEq, reduceCtorEq, or_false,
      false_or] at hq
    subst hq
    trivial
  have hc : c.Genuine := by
    simp [c, Call.Genuine, Datum.Genuine, Datum.GenuineEntries, Datum.GenuineItems, Datum.IsKey,
      Script.recursionLimit]
  have hfound : now.environment.registry.helpers.find? "hi" = some "one" := by decide +kernel
  obtain ⟨t, ht⟩ : ∃ t, now.templates[0]? = some t :=
    Option.isSome_iff_exists.1 (by decide +kernel)
  obtain ⟨hcalls, -⟩ := namespace_of_every_render he {} host hpast
  obtain ⟨front, d, back, hsplit, hn, -, hcall⟩ := hcalls 0 t ht
  -- the template was compiled first of all
  have hfront : front = [] := by
    rcases front with _ | ⟨d₁, _ | ⟨d₂, front⟩⟩
    · rfl
    · obtain rfl : Deed.fromString "<%- x %>" none = d₁ := (List.cons.inj hsplit).1
      have hlength : (Usage.run host { environment := {}, disk := {} }
          [.fromString "<%- x %>" none]).templates.length = 1 := by
        decide +kernel
      rw [hlength] at hn
      cases hn
    · have hlength := congrArg List.length hsplit
      simp [past] at hlength
  subst hfront
  rcases hcall c hc with ⟨f, -, hf⟩ | ⟨given, named, hgives, vs, m, hbegins, -, hreply⟩
  · have hempty := hf host { generated := { code := [], lineMap := [] }, script := [] }
    cases hempty
  · change Call.Gives (.render [.dict [.mk (.text "x") (.list [.int 1])]] [(outputId, .int 2)]) _ _
      at hgives
    cases hgives with
    | mapping hpairs hself =>
      cases hpairs
      obtain ⟨_, houtput, rfl⟩ := hbegins.bound (show meaning _ _ _ outputId = some .output from rfl)
      obtain ⟨_, hescape, rfl⟩ :=
        hbegins.bound (show meaning _ _ _ "escape" = some (.helper "escape") from rfl)
      obtain ⟨v, hx, hlist⟩ :=
        hbegins.bound (show meaning _ _ _ "x" = some (.datum (.list [.int 1])) from rfl)
      have hlist : Datum.Loaded m (.list [.int 1]) v := hlist
      cases hlist with
      | list hcell hitems =>
        cases hitems with
        | cons h hrest =>
          cases h
          cases hrest
          exact ⟨hfound, t, vs, m, _, _, ht, hreply, hbegins.free rfl, houtput, hx, hcell, hescape⟩

end ViewEngine

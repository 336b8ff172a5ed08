/-
# Plain text is shown as it is

A text in which no marker and no directive is written goes through every stage of the engine: no view
is looked for, no section is cut out, one run of text is found, its literal is written and read, and
the script appends it.  Neither the data nor the registered helpers matter, because the name of the
output cannot be bound to anything else.

* `Layout.resolve_undirected`: a view without directives is resolved to its text;
* `writes_generated`: the script of the text appends it;
* `Environment.render_inert`: the text is rendered, and no problem is told of.
-/
import Mathlib.Tactic.Common
import Mathlib.Tactic.Lemma
import ViewEngine.Proofs.Engine.Bindings
import ViewEngine.Proofs.Fragment.Execution
import ViewEngine.Proofs.Layout.Directive
import ViewEngine.Proofs.Layout.Rules

namespace ViewEngine

open Layout (IsName written extendsHead yieldHead particleHead sectionHead sectionEnd)

/-- A text in which no marker of a tag is written, and no directive. -/
structure Inert (t : Text) : Prop where
  unmarked : Marker.Unmarked t
  no_extends : ∀ n, IsName n → ¬ written extendsHead n <:+: t
  no_yield : ∀ n, IsName n → ¬ written yieldHead n <:+: t
  no_particle : ∀ n, IsName n → ¬ written particleHead n <:+: t
  no_section : ∀ n b, IsName n → ¬ written sectionHead n ++ b ++ sectionEnd <:+: t

/-- A text in which no directive is written. -/
structure Undirected (t : Text) : Prop where
  no_extends : ∀ n, IsName n → ¬ written extendsHead n <:+: t
  no_yield : ∀ n, IsName n → ¬ written yieldHead n <:+: t
  no_particle : ∀ n, IsName n → ¬ written particleHead n <:+: t
  no_section : ∀ n b, IsName n → ¬ written sectionHead n ++ b ++ sectionEnd <:+: t

variable {t : Text}

lemma Inert.undirected (h : Inert t) : Undirected t :=
  ⟨h.no_extends, h.no_yield, h.no_particle, h.no_section⟩

/-- Every directive has the two characters behind its name. -/
lemma Undirected.of_no_end (h : ¬ ['\'', ')'] <:+: t) : Undirected t := by
  have hwritten : ∀ head n, ¬ written head n <:+: t := fun head n hw =>
    h ((List.suffix_append (head ++ n) _).isInfix.trans hw)
  refine ⟨fun n _ => hwritten _ n, fun n _ => hwritten _ n, fun n _ => hwritten _ n, ?_⟩
  intro n b _ hw
  rw [List.append_assoc] at hw
  exact hwritten sectionHead n ((List.prefix_append _ _).isInfix.trans hw)

lemma Inert.of_no_end (hunmarked : Marker.Unmarked t) (h : ¬ ['\'', ')'] <:+: t) : Inert t :=
  have hnone := Undirected.of_no_end h
  ⟨hunmarked, hnone.no_extends, hnone.no_yield, hnone.no_particle, hnone.no_section⟩

/-! ## Resolving -/

namespace Layout

lemma dependencies_undirected (h : Undirected t) : dependencies t = ⟨none, [], t⟩ := by
  have hextends := named?_free h.no_extends
  have hsection := section?_free h.no_section
  have hbody : Text.replaceAll extends? (fun _ _ => []) t = t := Text.replaceAll_of_free hextends
  have hparent : Text.findAll extends? t = [] := Text.findAll_of_free hextends
  rw [dependencies, hparent, hbody, Text.findAll_of_free hsection, Text.replaceAll_of_free hsection]
  rfl

lemma expandPart_undirected (h : Undirected t) (ask : Ask) (limit : Int) (label : Text) :
    (expandPart ask limit label t).result = .ok ⟨t, []⟩ := by
  have hfree : particle?.Free t := named?_free h.no_particle
  -- nothing is asked for, so no room is needed
  rw [expandPart, expandParticles, expandWithin_eq rfl]
  cases t with
  | nil => rfl
  | cons c cs =>
    rw [Text.pieces_of_free hfree (List.cons_ne_nil c cs), fillPieces_plain]
    show Except.ok ((⟨c :: cs, []⟩ : Expansion) ++ ⟨[], []⟩) = _
    exact congrArg (fun u => Except.ok (Expansion.mk u [])) (List.append_nil (c :: cs))

/-- **A view without directives is resolved to its text.** -/
theorem resolve_undirected (h : Undirected t) {ask : Ask} {limit : Int} (hlimit : 1 ≤ limit)
    {name given : Option Text} (hs : Source ask (labelOf name) given t) (asParent : Bool) :
    (resolve ask name given asParent limit []).result = .ok { name, content := t } := by
  obtain ⟨room, hroom⟩ : ∃ room, roomFor limit [] = room + 1 :=
    Nat.exists_eq_succ_of_ne_zero (by simp [roomFor]; omega)
  have hfound : (resolveWithin ask limit (room + 1) name (some t) asParent []).result =
      .ok { name, content := t } := by
    have hyields : dropYields t = t := Text.replaceAll_of_free (named?_free h.no_yield)
    rw [resolveWithin_succ_some List.not_mem_nil, dependencies_undirected h]
    simp only [expandPart_undirected h, Except.map, finished, hyields]
    cases asParent <;> rfl
  rw [resolve, hroom]
  rcases hs with rfl | ⟨rfl, ha⟩
  · exact hfound
  · rw [resolveWithin_succ_none List.not_mem_nil, ha]
    exact hfound

end Layout

/-! ## Compiling -/

section

open Fragment (Compiled Tree)
open Script (Context Memory Value execAll)
open Script.Run (Gives Kept)

/-- The script appends a text wherever the output has its name. -/
def Writes (ss : Script.Program) (t : Text) : Prop :=
  ∀ (c : Context) (m : Memory) (vs : Names Value), c.scopes = [] →
    m.cells[c.globals]? = some (.frame vs) → vs.find? outputId = some .output →
    ∃ m', Gives (execAll c ss) m .next m' ∧ m'.outputText = m.outputText ++ t

/-- **The script of a text appends it.** -/
theorem writes_generated (h : Marker.Unmarked t) (name : Option Text) :
    ∃ g ss, generate t name = .ok g ∧ Script.compile g.code = .ok ss ∧ Writes ss t := by
  -- a text is a tree of one run, or of none if it is empty
  obtain ⟨tree, rfl, hparted, hloops, hblocks, hwrites⟩ : ∃ tree : Tree, tree.source = t ∧
      tree.Parted ∧ tree.loops = 0 ∧ tree.blocks = 0 ∧ ∀ ss, Compiled tree ss → Writes ss t := by
    by_cases ht : t = []
    · refine ⟨.done, ht.symm, trivial, rfl, rfl, fun ss hss c m vs _ _ _ => ?_⟩
      cases hss
      rw [ht]
      exact ⟨m, Fragment.gives_execAll_nil, (List.append_nil _).symm⟩
    · refine ⟨.text ⟨t, ht, h⟩ .done, List.append_nil t, ⟨rfl, trivial⟩, rfl, rfl,
        fun ss hss c m vs hscopes hframe houtput => ?_⟩
      cases hss with
      | text l l' hrest =>
        cases hrest
        have hliteral : Gives (Script.exec c (Fragment.appends l l' (.constant (.text t)))) m .next _ :=
          Fragment.gives_literal hscopes hframe houtput
        refine ⟨_, ?_, (Fragment.adds_write t).output⟩
        rw [execAll]
        exact hliteral.bind Fragment.gives_execAll_nil
  obtain ⟨g, ss, hgenerate, hcompile, hss⟩ := Tree.compile_source hparted
    (hloops ▸ Nat.zero_le _) (hblocks ▸ Nat.zero_le _) name
  exact ⟨g, ss, hgenerate, hcompile, hwrites ss hss⟩

end

/-! ## Running -/

namespace Template

open Script (Context Datum Memory Value)
open Script.Run (Gives Kept)

/-- A view whose script appends a text shows it, whatever its names stand for. -/
theorem run_writes {template : Template} (hscript : Writes template.script t)
    (hhelpers : ∀ e ∈ template.helpers, e.2.Genuine) {data : Names Datum}
    (hdata : ∀ e ∈ data, e.2.Genuine) (host : Host) : template.run host data = .ok t := by
  -- only the name of the output matters, whatever the others are loaded as
  obtain ⟨vs, m, hload, hout, -, hvs⟩ := loads_bindings
    (fun e he d hd => genuine_of_mem_bindings hhelpers hdata he hd) { coloured := host.coloured }
  obtain ⟨v, hv, houtput⟩ := hvs outputId .output (Names.find?_put_self _ _ _)
  cases houtput
  let c : Context :=
    { helpers := host.helpers, globals := m.cells.size,
      builtins := vs.find? Script.builtinsId,
      run := Script.runBody host.helpers m.cells.size Script.recursionLimit }
  obtain ⟨m', hrun, htext⟩ := hscript c { m with cells := m.cells.push (.frame vs) } vs rfl
    Array.getElem?_push_size hv
  have hrunScript : Gives (Script.runScript host.helpers template.script vs) m () m' :=
    (Script.Run.gives_alloc (.frame vs)).bind (hrun.bind .pure)
  have hempty : m.outputText = [] := by
    show m.output.reverse.flatten = []
    rw [hout]
    rfl
  rw [run_of_gives hload hrunScript, htext]
  exact congrArg (fun u => Except.ok (u ++ t)) hempty

end Template

/-! ## Rendering -/

namespace Outcome

variable {α β : Type}

/-- The operation gives a result, and no problem is told of. -/
structure Calm (x : Outcome α) (a : α) : Prop where
  result : x.result = .ok a
  quiet : ∀ w, .issued w ∉ x.notes

variable {a : α} {b : β}

lemma Calm.pure : Calm (pure a) a := ⟨rfl, fun _ => List.not_mem_nil⟩

lemma Calm.silent {r : Except Failure α} (h : r = .ok a) : Calm (silent r) a :=
  ⟨h, fun _ => List.not_mem_nil⟩

lemma Calm.result_bind {x : Outcome α} (hx : Calm x a) (f : α → Outcome β) :
    (x >>= f).result = (f a).result := by
  show (x.andThen f).result = _
  rw [andThen, hx.result]

lemma result_bind_error {x : Outcome α} {f : Failure} (hx : x.result = .error f) (g : α → Outcome β) :
    (x >>= g).result = .error f := by
  show (x.andThen g).result = _
  rw [andThen, hx]

lemma Calm.bind {x : Outcome α} {f : α → Outcome β} (hx : Calm x a) (hf : Calm (f a) b) :
    Calm (x >>= f) b := by
  show Calm (x.andThen f) b
  rw [andThen, hx.result]
  refine ⟨hf.result, fun w hw => ?_⟩
  rcases List.mem_append.1 hw with hw | hw
  · exact hx.quiet w hw
  · exact hf.quiet w hw

end Outcome

namespace Environment

open Outcome (Calm)
open Script (Datum)

variable {e : Environment} {disk : Disk}

lemma resolve_calm (h : Undirected t) (hlimit : 1 ≤ e.limit) {name given : Option Text}
    (hs : Layout.Source (ViewStore.ask e.store disk) (Layout.labelOf name) given t)
    (asParent : Bool) : Calm (e.resolve disk name given asParent) { name, content := t } where
  result := by
    show Except.mapError _ (Layout.resolve _ name given asParent e.limit []).result = _
    rw [Layout.resolve_undirected h hlimit hs]
    rfl
  quiet w hw := by
    obtain ⟨_, -, heq⟩ := List.mem_map.1 hw
    cases heq

lemma issue_calm (name : Option Text) : Calm (issue { name, content := t }) () :=
  ⟨rfl, fun _ => List.not_mem_nil⟩

/-- A view whose code compiles becomes a template, with the helpers registered now. -/
lemma compile_calm {name : Option Text} (hname : ∀ n ∈ name, '\x00' ∉ n) {g : Generated}
    {ss : Script.Program} (hgenerate : generate t name = .ok g)
    (hcompile : Script.compile g.code = .ok ss) :
    Calm (e.compile { name, content := t })
      { generated := g, script := ss, helpers := e.registry.data } := by
  have hgenerated : (generate t name).mapError Failure.view = .ok g := by
    rw [hgenerate]
    rfl
  have htemplate : Template.compile g e.registry.data [] =
      .ok { generated := g, script := ss, helpers := e.registry.data } :=
    Template.compile_ok ((name_of_generate hgenerate).symm ▸ hname) hcompile
  have htold : Calm (Outcome.tell [.compiled g.name g.lineMap.length]) () :=
    ⟨rfl, fun w hw => by cases List.mem_singleton.1 hw⟩
  exact (issue_calm name).bind ((Calm.silent hgenerated).bind ((Calm.silent htemplate).bind
    (htold.bind .pure)))

lemma run_calm (h : Inert t) (hlimit : 1 ≤ e.limit) {name given : Option Text}
    (hname : ∀ n ∈ name, '\x00' ∉ n)
    (hs : Layout.Source (ViewStore.ask e.store disk) (Layout.labelOf name) given t)
    {ctx : Names Datum} (hctx : ∀ d ∈ ctx, d.2.Genuine) (host : Host) :
    Calm ((e.resolve disk name given false >>= e.compile) >>= fun template =>
      Outcome.silent (template.run host ctx)) t := by
  obtain ⟨g, ss, hgenerate, hcompile, hwrites⟩ := writes_generated h.unmarked name
  let template : Template := { generated := g, script := ss, helpers := e.registry.data }
  have hgenuine : ∀ d ∈ template.helpers, d.2.Genuine := by
    intro d hd
    obtain ⟨_, -, rfl⟩ := List.mem_map.1 hd
    trivial
  have hshown : template.run host ctx = .ok t := Template.run_writes hwrites hgenuine hctx host
  exact ((resolve_calm h.undirected hlimit hs false).bind (compile_calm hname hgenerate hcompile)).bind
    (.silent hshown)

/-- Under a name with the character zero, the code of a view does not compile. -/
lemma run_of_mem_zero (h : Inert t) (hlimit : 1 ≤ e.limit) {name : Text} {given : Option Text}
    (hzero : '\x00' ∈ name)
    (hs : Layout.Source (ViewStore.ask e.store disk) (Layout.labelOf (some name)) given t)
    (ctx : Names Datum) (host : Host) :
    ∃ g, generate t (some name) = .ok g ∧
      ((e.resolve disk (some name) given false >>= e.compile) >>= fun template =>
        Outcome.silent (template.run host ctx)).result =
        .error (.view (Template.compileError g none)) := by
  obtain ⟨g, _, hgenerate, -, -⟩ := writes_generated h.unmarked (some name)
  have hgenerated : (generate t (some name)).mapError Failure.view = .ok g := by
    rw [hgenerate]
    rfl
  have hfails : Template.compile g e.registry.data [] =
      .error (.view (Template.compileError g none)) :=
    Template.compile_of_mem_zero (name_of_generate hgenerate) hzero
  have hcompile : (e.compile { name := some name, content := t }).result =
      .error (.view (Template.compileError g none)) := by
    rw [compile, (issue_calm (some name)).result_bind, (Calm.silent hgenerated).result_bind, hfails]
    rfl
  have hresolved := (resolve_calm h.undirected hlimit hs false).result_bind e.compile
  exact ⟨g, hgenerate, Outcome.result_bind_error (hresolved.trans hcompile) _⟩

/-- **Plain text is rendered as it is, and no problem is told of**: from a text, and from any store
that gives the text for a name that code can have, with any acceptable data and any registered helpers;
and likewise, under any name, when the text is asked for that a parent has.  Under a name with the
character zero it is not rendered, because its code does not compile. -/
theorem render_inert (h : Inert t) (e : Environment) (disk : Disk) (host : Host)
    (hlimit : 1 ≤ e.limit) {data : Option Datum} {named : Names Datum}
    (hdata : Acceptable data named) :
    Calm (e.renderString disk host t data named) t ∧
    ∀ name ≠ [], ViewStore.ask e.store disk name = .ok t →
      ∀ asParent b, wantsParent asParent named = .ok b →
        (b = true ∨ '\x00' ∉ name → Calm (e.render disk host (some name) asParent data named) t) ∧
        (b = false → '\x00' ∈ name → ∃ g, generate t (some name) = .ok g ∧
          (e.render disk host (some name) asParent data named).result =
            .error (.view (Template.compileError g none))) := by
  constructor
  · obtain ⟨ctx, hcontext, hctx⟩ := contextOf_genuine hdata
    exact (Calm.silent hcontext).bind (run_calm h hlimit (fun _ hn => by cases hn) (.inl rfl) hctx host)
  · intro name hname hask asParent b hwants
    have hlabel : Layout.labelOf (some name) = name := Layout.labelOf_some hname
    have hs : Layout.Source (ViewStore.ask e.store disk) (Layout.labelOf (some name)) none t :=
      .inr ⟨rfl, hlabel.symm ▸ hask⟩
    obtain ⟨ctx, hcontext, hctx⟩ := contextOf_genuine (hdata.erase parentFlag)
    constructor
    · intro hfree
      refine (Calm.silent hwants).bind ?_
      cases b with
      | true =>
        exact (resolve_calm h.undirected hlimit hs true).bind ((issue_calm _).bind .pure)
      | false =>
        have hzero : '\x00' ∉ name := hfree.resolve_left Bool.false_ne_true
        exact (Calm.silent hcontext).bind
          (run_calm h hlimit (fun n hn => Option.some.inj hn ▸ hzero) hs hctx host)
    · rintro rfl hzero
      rw [render, (Calm.silent hwants).result_bind, if_neg Bool.false_ne_true,
        (Calm.silent hcontext).result_bind]
      exact run_of_mem_zero h hlimit hzero hs ctx host

/-- A quote of either kind, a backslash, a line end, a zero, a directive without its end, and the two
characters of a marker apart. -/
def oddText : Text :=
  ['"', '\'', '\\', '\r', '\n', '\x00', '@', 'y', 'i', 'e', 'l', 'd', '(', '\'', 'x', ' ', '<', ' ', '%']

/-- An environment with the view `v` and the helper `h`. -/
def oddEnvironment : Environment where
  store := some (.memory [(['v'], oddText)])
  limit := 1
  registry := ⟨[(['h'], ['u', 'p', 'p', 'e', 'r'])]⟩

/-- A tuple with a list, and the name of the escaping of texts with nothing. -/
def oddData : Datum :=
  .dict [.mk (.tuple [.int 1]) (.list [.none]), .mk (.text Helper.escapeId) .none]

/-- A text under the name of the output. -/
def oddNamed : Names Datum := [(outputId, .text ['x'])]

theorem render_inert_oddText :
    Inert oddText ∧ 1 ≤ oddEnvironment.limit ∧ Acceptable (some oddData) oddNamed ∧
    Calm (oddEnvironment.renderString {} { helpers := [] } oddText (some oddData) oddNamed)
      oddText ∧
    Calm (oddEnvironment.render {} { helpers := [] } (some ['v']) none (some oddData) oddNamed)
      oddText := by
  have hinert : Inert oddText := .of_no_end (fun m => by cases m <;> decide) (by decide)
  have hdata : Acceptable (some oddData) oddNamed := by
    refine acceptable_dict ?_ ?_
    · simp [Datum.GenuineEntries, Datum.GenuineItems, Datum.Genuine, Datum.IsKey,
        Script.recursionLimit]
    · simp [oddNamed, Datum.Genuine]
  have hshown := render_inert hinert oddEnvironment {} { helpers := [] } (by decide) hdata
  exact ⟨hinert, by decide, hdata, hshown.1,
    (hshown.2 ['v'] (by decide) rfl none false rfl).1 (.inr (by decide))⟩

/-- A view whose name has the character zero is not rendered, though its text is plain. -/
theorem render_inert_zeroName :
    let name : Text := ['a', '\x00', 'b']
    let e : Environment := { store := some (.memory [(name, "hi")]) }
    Inert "hi" ∧ Acceptable none [] ∧ ViewStore.ask e.store {} name = .ok "hi" ∧
    (e.render {} { helpers := Helper.stock } (some name) none none []).result =
      .error (.view (Template.compileError
        { code := "_append(\"hi\")\n", lineMap := [1], name := some name, source := some "hi" } none)) := by
  intro name e
  have hinert : Inert "hi" := .of_no_end (by decide) (by decide)
  have hdata : Acceptable none [] := {
    readable := ⟨[], rfl⟩
    genuine := fun d hd => by cases hd
    named_genuine := fun e he => absurd he List.not_mem_nil }
  exact ⟨hinert, hdata, rfl, by decide +kernel⟩

end Environment

end ViewEngine

/-
# Failures are told at the tag that failed

The whole way of a page, from its source to what the host gets to see.  If the tags of the page do
what they are to do, the host gets the output.  If one of them fails, it gets an error and no output:
an error of the engine itself as it is, and any other failure as a report that says the line on which
the tag begins.  The report holds the text of the failure; a failure whose text cannot be had, because
what it was raised with has none, is not reported but passed on bare.

* `compileAndRun_matches`: a page ends for the host as it is played;
* `compileAndRun_fails`: the error that the first failing tag leads to;
* `compileAndRun_mutePage`: a failure without a text.
-/
import Mathlib.Tactic.Common
import Mathlib.Tactic.Lemma
import ViewEngine.Proofs.Engine.Bindings
import ViewEngine.Proofs.Fragment.Replay

namespace ViewEngine.Fragment

open Mapping (dictOf)
open Script (Datum Fault FaultKind Flow Memory Run Stop Value execAll findHelper)
open Script.Run (Gives)
open Text (lineBehind)

/-! ## What the host gets -/

/-- What the host gets of a run that ends like this. -/
def settled {α : Type} (g : Generated) : Except Stop α × Memory → Except Failure Text
  | (.ok _, m) => .ok m.outputText
  | (.error (.fault f), m) => .error (Template.report g m f)
  | (.error .endless, _) => .error .endless

/-- What is said of the failure of a tag that has the text `front` in front of it. -/
def Page.told (p : Page) (name : Option Text) (front : Text) (k : FaultKind) (t : Text) : ViewError :=
  match k with
  | .engine e => e
  | k =>
    .runtime
      { message := Template.faultMessage k t
        name
        line := some (lineBehind front)
        snippet := Place.snippet? { line := some (lineBehind front), source := some p.source }
        cause := some k.text }

/-- What is said of a failure at a line of the code that comes from the line of a tag. -/
lemma report_eq {p : Page} {g : Generated} {front t : Text} {m : Memory} {f : Fault} {n : Nat}
    (hsource : g.source = some p.source) (hline : g.templateLine n = some (lineBehind front))
    (htext : Failure.faultText m f = .ok t) :
    Template.report g m { f with line := some n } = .view (p.told g.name front f.kind t) := by
  have htext' : Failure.faultText m { f with line := some n } = .ok t := htext
  obtain ⟨kind, arguments, line, cell⟩ := f
  have hreport : Template.runtimeError g kind t (some n) =
      .runtime
        { message := Template.faultMessage kind t
          name := g.name
          line := some (lineBehind front)
          snippet := Place.snippet? { line := some (lineBehind front), source := some p.source }
          cause := some kind.text } := by
    unfold Template.runtimeError
    simp only [Option.getD_some, hline, hsource]
  unfold Template.report Page.told
  cases kind with
  | engine e => rfl
  | _ => simp only [htext', hreport]

/-- The names are bound in a new cell, and the script runs. -/
lemma settled_runScript (g : Generated) (host : Host) (ss : Script.Program) (names : Names Value)
    (m : Memory) :
    settled g ((Script.runScript host.helpers ss names).run.run m) =
      settled g ((execAll (Page.context host names m.cells.size) ss).run.run
        { m with cells := m.cells.push (.frame names) }) := by
  rw [Script.runScript, Script.run_bind_ok (Run.gives_alloc (.frame names))]
  show settled g ((execAll (Page.context host names m.cells.size) ss >>= fun _ => pure ()).run.run _)
    = _
  cases hrun : (execAll (Page.context host names m.cells.size) ss).run.run
      { m with cells := m.cells.push (.frame names) } with
  | mk r m' =>
    cases r with
    | ok flow =>
      rw [Script.run_bind_ok hrun]
      rfl
    | error s =>
      rw [Script.run_bind_error hrun]
      cases s <;> rfl

/-- The names of a view are loaded, and its script runs. -/
lemma run_eq_settled (host : Host) (t : Template) (data : Names Datum) :
    t.run host data = settled t.generated ((do
      let names ← Template.loadBindings (bindings t.helpers data)
      Script.runScript host.helpers t.script names : Run Unit).run.run
        { coloured := host.coloured }) := by
  rw [Template.run]
  generalize (do
    let names ← Template.loadBindings (bindings t.helpers data)
    Script.runScript host.helpers t.script names : Run Unit).run.run { coloured := host.coloured } = r
  obtain ⟨_ | _, m⟩ := r
  · rename_i s
    cases s <;> rfl
  · rfl

/-- The code of a view compiles, its names are loaded, and it runs. -/
lemma compileAndRun_eq_settled (host : Host) (helpers : Names Datum) {g : Generated} {data : Datum}
    {ctx : Names Datum} {ss : Script.Program} (hname : ∀ n ∈ g.name, '\x00' ∉ n)
    (hcompile : Script.compile g.code = .ok ss) (hdata : Mapping.context data = .ok ctx) :
    compileAndRun host g data helpers = settled g ((do
      let names ← Template.loadBindings (bindings helpers ctx)
      Script.runScript host.helpers ss names : Run Unit).run.run { coloured := host.coloured }) := by
  let template : Template := { generated := g, script := ss, helpers }
  have hrun : compileAndRun host g data helpers = template.run host ctx := by
    rw [compileAndRun, Template.compile_ok hname hcompile]
    show Template.runWith host template data = _
    rw [Template.runWith, hdata]
    rfl
  rw [hrun, run_eq_settled]

/-! ## From the source to what the host gets -/

/-- A host with ordinary helpers that provides the escaping of texts, and whose names and data leave
that name alone. -/
structure Provides (host : Host) (helpers data : Names Datum) : Prop where
  escape : findHelper host.helpers Helper.escapeId = some Helper.escape
  /-- A helper that fails has a text for its failure.  Without it there is no report:
  `compileAndRun_mutePage`. -/
  ordinary : ∀ h ∈ host.helpers, Ordinary h
  helpers_free : Helper.escapeId ∉ helpers.ids
  data_free : Helper.escapeId ∉ data.ids

variable {host : Host} {helpers ctx : Names Datum}

lemma ids_bind (ds : Names Datum) : Names.ids (bindings.bind ds) = ds.ids := by
  rw [bindings.bind, Names.ids, Names.ids, List.map_map]
  rfl

/-- The output and the escaping of texts have their names when a view begins. -/
lemma Provides.ready (h : Provides host helpers ctx) (w : Scene) {names : Names Value}
    {m₀ m : Memory} (hload : Gives (Template.loadBindings (bindings helpers ctx)) m₀ names m)
    (hglobals : w.context.globals = m.cells.size) :
    w.Ready { m with cells := m.cells.push (.frame names) } := by
  have houtput : (bindings helpers ctx).find? outputId = some .output := Names.find?_put_self _ _ _
  have hescape : (bindings helpers ctx).find? Helper.escapeId = some (.helper Helper.escapeId) := by
    rw [bindings, Names.find?_put_of_ne (by decide),
      Names.find?_putAll_of_not_mem (by rw [ids_bind]; exact h.data_free),
      Names.find?_putAll_of_not_mem (by rw [ids_bind]; exact h.helpers_free)]
    rfl
  obtain ⟨v, m₁, m₂, hv, hgives⟩ := Template.find?_of_gives_loadBindings hload houtput
  obtain ⟨v', m₃, m₄, hv', hgives'⟩ := Template.find?_of_gives_loadBindings hload hescape
  cases hgives
  cases hgives'
  refine ⟨names, ?_, hv, hv'⟩
  rw [hglobals]
  exact Array.getElem?_push_size

section

variable {p : Page} (hparted : p.Parted) (hloops : p.loops ≤ 20) (hblocks : p.blocks < 100)
  (hhost : Provides host helpers ctx) {data : Datum} (hdata : Mapping.context data = .ok ctx)
  {name : Option Text} (hname : ∀ n ∈ name, '\x00' ∉ n)

include hparted hloops hblocks hhost hdata hname

/-- **A page ends for the host as it is played.** -/
theorem compileAndRun_matches :
    ∃ (g : Generated) (w : Scene) (r : Except Stop Flow × Memory),
      generate p.source name = .ok g ∧ g.name = name ∧ g.source = some p.source ∧
      w.source = p.source ∧ (∀ n : Nat, w.line n = g.templateLine n) ∧
      w.Matches (fun _ => Flow.next) (p.outcome host helpers ctx) r ∧
      compileAndRun host g data helpers = settled g r := by
  obtain ⟨g, hgenerate, hgname, hsource, hmap, hcompile⟩ :=
    Page.compile_source hparted hloops (Nat.le_of_lt_succ hblocks) name
  have hrun := compileAndRun_eq_settled host helpers (hgname.symm ▸ hname) hcompile hdata
  let scene (names : Names Value) (globals : Script.Address) : Scene :=
    { source := p.source
      line := fun n => g.templateLine n
      context := Page.context host names globals
      global := rfl
      escape := hhost.escape
      ordinary := hhost.ordinary }
  have hplaced : ∀ names globals, (scene names globals).Placed 1 (p.outline [] false).lines := by
    intro names globals i l hl
    have hi : ((1 + i : Nat) : Int) - 1 = i := by omega
    show g.templateLine (1 + i : Nat) = some l
    rw [Generated.templateLine, if_pos (by omega), hi, Int.toNat_natCast, hmap, hl]
  cases hload : (Template.loadBindings (bindings helpers ctx)).run.run
      { coloured := host.coloured } with
  | mk r m =>
    cases r with
    | error s =>
      refine ⟨g, scene [] 0, (.error s, m), hgenerate, hgname, hsource, rfl, fun _ => rfl, ?_, ?_⟩
      · rw [Page.outcome, hload]
        exact .beyond
      · rw [hrun, Script.run_bind_error hload]
        cases s <;> rfl
    | ok names =>
      let began : Memory := { m with cells := m.cells.push (.frame names) }
      have houtcome : p.outcome host helpers ctx =
          (p.play (Page.context host names m.cells.size) [] false).run.run began := by
        rw [Page.outcome, hload]
      have hsettled : compileAndRun host g data helpers =
          settled g ((execAll (Page.context host names m.cells.size)
            ((p.outline [] false).script 1)).run.run began) := by
        rw [hrun, Script.run_bind_ok hload]
        exact settled_runScript g host _ names m
      have hmatches := Scene.mirrors_page p (hplaced names m.cells.size) (List.prefix_refl _) began
        (hhost.ready (scene names m.cells.size) hload rfl)
      exact ⟨g, scene names m.cells.size, _, hgenerate, hgname, hsource, rfl, fun _ => rfl,
        houtcome ▸ hmatches, hsettled⟩

/-- **The first tag that fails ends a page, and the host is told so.**  There is no output.  An error
of the engine itself is passed on as it is; any other failure is the cause of a report, with its text
and with the line on which the tag begins. -/
theorem compileAndRun_fails {front : Text} {f : Fault} {m : Memory}
    (hfails : p.outcome host helpers ctx = (.error (.fault front f), m)) :
    ∃ g t, generate p.source name = .ok g ∧
      (∃ marker : Marker, marker.isOpen = true ∧ front ++ marker.text <+: p.source) ∧
      Failure.faultText m f = .ok t ∧
      compileAndRun host g data helpers = .error (.view (p.told name front f.kind t)) := by
  obtain ⟨g, w, r, hgenerate, hgname, hsource, hwsource, hline, hmatches, hrun⟩ :=
    compileAndRun_matches hparted hloops hblocks hhost hdata hname
  rw [hfails] at hmatches
  cases hmatches with
  | fault hopens hplace htold =>
    obtain ⟨t, ht⟩ := htold.text
    have htext : Failure.faultText m f = .ok t := by
      unfold Failure.faultText
      simp only [ht]
    refine ⟨g, t, hgenerate, ?_, htext, ?_⟩
    · rwa [Scene.Opens, hwsource] at hopens
    · rw [hline] at hplace
      rw [hrun, ← hgname]
      exact congrArg Except.error (report_eq hsource hplace htext)

end

/-! ### A page that fails -/

/-- A text, and a loop with a trimmed line break whose tag on the third line calls a helper:
`a\n<% for y in y: -%>\n<%= x(y) %><% end %>` -/
def failingPage : Page :=
  .text ⟨['a', '\n'], by decide, by intro m; cases m <;> decide⟩
    (.each nameY nameY ⟨.closeTrim, rfl⟩
      (.text ⟨['\n'], by decide, by intro m; cases m <;> decide⟩
        (.shown true (.call nameX nameY) .plain .done))
      .plain .done)

/-- A host with a helper that fails. -/
def failingHost : Host :=
  { helpers := [Helper.escape, .failing "fail" .value (some "bad helper")] }

/-- The failing helper under the name `x`. -/
def failingHelpers : Names Datum := [(['x'], .helper "fail")]

/-- A list under `y`. -/
def failingData : Names Datum := [(['y'], .list [.int 1])]

lemma provides_failing : Provides failingHost failingHelpers failingData where
  escape := rfl
  ordinary h hh := by
    rcases List.mem_cons.1 hh with rfl | hh
    · exact .escape
    · exact List.mem_singleton.1 hh ▸ .failing _ _ _
  helpers_free := by decide
  data_free := by decide

theorem compileAndRun_failingPage :
    let front : Text := "a\n<% for y in y: -%>\n"
    let report : ViewError :=
      .runtime
        { message := "ValueError: bad helper"
          name := some "page"
          line := some 3
          snippet := Place.snippet? { line := some 3, source := some failingPage.source }
          cause := some "ValueError" }
    failingPage.Parted ∧ failingPage.loops ≤ 20 ∧ failingPage.blocks < 100 ∧
    Provides failingHost failingHelpers failingData ∧
    Mapping.context (dictOf failingData) = .ok failingData ∧
    (∃ f m, failingPage.outcome failingHost failingHelpers failingData =
      (.error (.fault front f), m)) ∧
    ∃ g, generate failingPage.source (some "page") = .ok g ∧
      compileAndRun failingHost g (dictOf failingData) failingHelpers = .error (.view report) := by
  intro front report
  have hparted : failingPage.Parted := by
    simp [failingPage, Page.Parted, Page.beginsWithText]
  have hdata := Mapping.context_dictOf (by decide : failingData.ids.Nodup)
  have hname : ∀ n ∈ some ("page" : Text), '\x00' ∉ n := by decide
  obtain ⟨f, m, hfails, hkind, htext⟩ : ∃ f m,
      failingPage.outcome failingHost failingHelpers failingData = (.error (.fault front f), m) ∧
      f.kind = .value ∧ Failure.faultText m f = .ok "bad helper" := ⟨_, _, rfl, rfl, rfl⟩
  obtain ⟨g, t, hgenerate, -, ht, hrun⟩ := compileAndRun_fails hparted (by decide) (by decide)
    provides_failing hdata hname hfails
  have htold : failingPage.told (some "page") front f.kind t = report := by
    cases htext.symm.trans ht
    rw [hkind]
    rfl
  exact ⟨hparted, by decide, by decide, provides_failing, hdata, ⟨f, m, hfails⟩, g, hgenerate,
    htold ▸ hrun⟩

/-! ### A failure without a text -/

/-- A tag that shows what a helper makes of a value: `<%= x(y) %>` -/
def mutePage : Page := .shown true (.call nameX nameY) .plain .done

/-- A host with a helper that fails with what it is called with, so that the text of its failure is the
text of that value. -/
def muteHost : Host :=
  { helpers := [Helper.escape, { id := "refuse", call := fun a => Run.raise .value a.plain }] }

/-- The helper under the name `x`. -/
def muteHelpers : Names Datum := [(['x'], .helper "refuse")]

/-- A thing under `y` whose text cannot be had. -/
def muteData : Names Datum := [(['y'], .object "Mute" [] (.error "no text"))]

/-- The tag fails, and the host gets no report but what went wrong when the text of the failure was
asked for. -/
theorem compileAndRun_mutePage :
    mutePage.Parted ∧ mutePage.loops ≤ 20 ∧ mutePage.blocks < 100 ∧
    findHelper muteHost.helpers Helper.escapeId = some Helper.escape ∧
    Helper.escapeId ∉ muteHelpers.ids ∧ Helper.escapeId ∉ muteData.ids ∧
    Mapping.context (dictOf muteData) = .ok muteData ∧
    (∃ f m, mutePage.outcome muteHost muteHelpers muteData = (.error (.fault [] f), m) ∧
      f.kind = .value) ∧
    ∃ g, generate mutePage.source (some "page") = .ok g ∧
      compileAndRun muteHost g (dictOf muteData) muteHelpers =
        .error (.complaint .value "no text") := by
  have hparted : mutePage.Parted := by simp [mutePage, Page.Parted]
  have hdata := Mapping.context_dictOf (by decide : muteData.ids.Nodup)
  have hname : ∀ n ∈ some ("page" : Text), '\x00' ∉ n := by decide
  obtain ⟨g, hgenerate, hgname, -, -, hcompile⟩ :=
    Page.compile_source hparted (by decide) (by decide) (some "page")
  refine ⟨hparted, by decide, by decide, rfl, by decide, by decide, hdata, ⟨_, _, rfl, rfl⟩, g,
    hgenerate, ?_⟩
  rw [compileAndRun_eq_settled muteHost muteHelpers (hgname.symm ▸ hname) hcompile hdata]
  rfl

end ViewEngine.Fragment

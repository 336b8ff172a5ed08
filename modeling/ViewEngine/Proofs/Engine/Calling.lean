/-
# Views that call helpers

The shortest view that calls a helper has one tag with the name of the helper and two parentheses.
A name can be registered if it is an identifier, of letters of any script.  What a view means by an
identifier is decided where its code is cut into tokens, and three things can come between the two:
the identifier may be a reserved word, a view looks up its compatible form, and one name stands for a
value that is known in advance.  Nothing else can: the tag becomes one line of code, which calls the
helper without arguments and adds the text of what it gives to the output.

* `compile_callCode`: the view compiles to a call of the name that is meant;
* `settled_call`: the call runs the helper, and shows what it gives;
* `Environment.shows_renderString`, `Environment.shows_render`: the view is rendered;
* `registered_helper_is_called`: whatever was done with the environment before.
-/
import Mathlib.Tactic.Common
import Mathlib.Tactic.Lemma
import ViewEngine.Proofs.Engine.History
import ViewEngine.Proofs.Engine.PlainText
import ViewEngine.Proofs.Fragment.Failures

namespace ViewEngine

open Fragment (appends settled)
open Script (Context Datum Inner Memory Run Value debugId eval exec execAll findHelper isNameLike
  keywords meantName onLine)
open Script.Parser (Reads op)
open Script.Run (Gives)

/-! ## The view -/

/-- A call without arguments. -/
def bareCall (id : Text) : Text := id ++ "()"

/-- The view that calls a helper by its name and shows what it gives. -/
def callView (id : Text) : Text := "<%- " ++ id ++ "() %>"

lemma callView_eq (id : Text) : callView id = tag .openRaw (bareCall id) := by
  show ['<', '%', '-', ' '] ++ id ++ ['(', ')', ' ', '%', '>'] =
    ['<', '%', '-'] ++ ((' ' :: ((id ++ ['(', ')']) ++ [' '])) ++ ['%', '>'])
  simp

section

variable {id : Text} (hid : Text.isIdentifier id = true)

include hid

lemma not_mem_of_isIdentifier {c : Char} (hc : isNameLike c = false) : c ∉ id := fun hmem =>
  Script.ne_of_isNameLike ((Script.isNameLike_of_isIdentifier hid).nameLike c hmem) hc rfl

lemma not_mem_bareCall {c : Char} (hc : isNameLike c = false) (hopening : c ≠ '(')
    (hclosing : c ≠ ')') : c ∉ bareCall id := by
  have hname := not_mem_of_isIdentifier hid hc
  show c ∉ id ++ ['(', ')']
  simp [hname, hopening, hclosing]

lemma isExpression_bareCall : IsExpression (bareCall id) where
  no_comment := not_mem_bareCall hid rfl (by decide) (by decide)
  no_semicolon := not_mem_bareCall hid rfl (by decide) (by decide)
  no_percent := not_mem_bareCall hid rfl (by decide) (by decide)
  not_blank := ⟨'(', List.mem_append_right id List.mem_cons_self, rfl⟩

/-- No directive is written in the view. -/
lemma undirected_callView : Undirected (callView id) := by
  refine .of_no_end fun hend => ?_
  have hquote : '\'' ∈ callView id := hend.subset List.mem_cons_self
  have hcall : '\'' ∉ bareCall id := not_mem_bareCall hid rfl (by decide) (by decide)
  rw [callView_eq, tag, spaced] at hquote
  simp [hcall, Marker.text] at hquote

/-! ## The code -/

/-- The line of code that adds what a call gives to the output. -/
def callCode (id : Text) : Text := row 0 (appendRaw (spaced (bareCall id)))

/-- The code of the view is one line. -/
lemma generate_callView (name : Option Text) :
    ∃ g, generate (callView id) name = .ok g ∧ g.code = callCode id := by
  have hcall := isExpression_bareCall hid
  have hpieces : Text.pieces Marker.first? (callView id) =
      tagPieces .openRaw .close (spaced (bareCall id)) := by
    have hall := pieces_inside .openRaw .close rfl (inside_spaced hcall.no_percent) []
    have hempty : Text.pieces Marker.first? [] = [] := rfl
    rw [callView_eq, tag]
    rwa [List.append_nil, hempty, List.append_nil] at hall
  let l : Listing := { statements := [⟨0, appendRaw (spaced (bareCall id)), 1⟩], depth := 0 }
  have hrun : Generator.run {} (tokens (callView id)) = .ok { listing := l, trim := false } := by
    have hemits : Generator.Emits (tagPieces .openRaw .close (spaced (bareCall id))) 1 false _ 0 0 _ :=
      Generator.emits_raw rfl hcall
    rw [tokens, hpieces]
    exact hemits [] []
  refine ⟨l.toGenerated name (callView id), ?_, List.append_nil _⟩
  rw [generate, hrun]

lemma not_mem_callCode {c : Char} (hc : isNameLike c = false) (hother : c ∉ ['(', ')', ' ', '\n']) :
    c ∉ callCode id := by
  simp only [List.mem_cons, List.not_mem_nil, or_false, not_or] at hother
  obtain ⟨hopening, hclosing, hblank, hfeed⟩ := hother
  have hcall := not_mem_bareCall hid hc hopening hclosing
  have houtput : c ∉ outputId := fun hmem =>
    Script.ne_of_isNameLike (Fragment.isWord_output.isNameLike.nameLike c hmem) hc rfl
  show c ∉ (outputId ++ ['('] ++ (' ' :: (bareCall id ++ [' '])) ++ [')']) ++ ['\n']
  simp [hcall, houtput, hopening, hclosing, hblank, hfeed]

/-! ### Its tokens -/

variable (hfree : id ∉ keywords)

include hfree

/-- The tokens of the line. -/
lemma lex_callCode :
    (Script.lex 1 (callCode id)).list.map Script.Token.spot =
        onLine 1 [.name outputId, op "(", .name (meantName id), op "(", op ")", op ")", .newline] ++
          [(.finish, 0)] ∧
      (Script.lex 1 (callCode id)).ending = .complete := by
  have hcode : appendRaw (spaced (bareCall id)) ++ ['\n'] =
      outputId ++ '(' :: ' ' :: (id ++ '(' :: ')' :: ' ' :: ')' :: '\n' :: []) := by
    show ((outputId ++ ['(']) ++ (' ' :: ((id ++ ['(', ')']) ++ [' '])) ++ [')']) ++ ['\n'] = _
    simp
  -- from the back of the line
  have hend : Inner 0 1 [] ['\n'] ((.newline, 1) :: [(.finish, 0)]) := .newline (.nil 0 2)
  have harguments : Inner 0 1 ['('] ('(' :: ')' :: ' ' :: ')' :: '\n' :: [])
      (onLine 1 [op "(", op ")", op ")", .newline] ++ [(.finish, 0)]) :=
    .opening (by decide) (.closing (.blank (.closing hend)))
  have hcall : Inner 0 1 ['('] (' ' :: (id ++ '(' :: ')' :: ' ' :: ')' :: '\n' :: []))
      (onLine 1 [.name (meantName id), op "(", op ")", op ")", .newline] ++ [(.finish, 0)]) :=
    .blank (.identifier hid hfree (Script.endsWord_opening _) harguments)
  have hline : Inner 0 1 [] (appendRaw (spaced (bareCall id)) ++ ['\n'])
      (onLine 1 [.name outputId, op "(", .name (meantName id), op "(", op ")", op ")", .newline] ++
        [(.finish, 0)]) := by
    rw [hcode]
    exact .word Fragment.isWord_output (Script.endsWord_opening _) (.opening (by decide) hcall)
  have hall := (Fragment.settles_row (r := []) rfl hline).lexesAt
  rw [List.append_nil] at hall
  have hclosed : Script.closedLines (callCode id) = callCode id := by
    have hlast : (callCode id).getLast? = some '\n' := List.getLast?_concat
    rw [Script.closedLines, Text.unifyLineEnds_of_not_mem (not_mem_callCode hid rfl (by decide)),
      if_pos hlast]
  rw [Script.lex, hclosed]
  exact hall

/-- The line is read as a call inside a call. -/
lemma parse?_callCode : Script.parse? (callCode id) =
    some [appends 1 1 (.call 1 (.name 1 (meantName id)) [])] := by
  obtain ⟨hspots, hending⟩ := lex_callCode hid hfree
  obtain ⟨n, hfuel⟩ : ∃ n, Script.Parser.depthFor (callCode id).length = n + 25 :=
    ⟨Script.Parser.depthFor (callCode id).length - 25, by rw [Script.Parser.depthFor]; omega⟩
  have hinner : Reads (Script.Parser.primary (n + 3))
      (onLine 1 [.name (meantName id), op "(", op ")"]) [(op ")", 1), (.newline, 1), (.finish, 0)]
      (.call 1 (.name 1 (meantName id)) []) :=
    Script.Parser.reads_bareCall ⟨_, _, _, rfl, by decide, by decide, by decide⟩
  have houter := Fragment.reads_callOf (f := outputId) hinner
    ⟨_, _, rfl, .inl ⟨_, rfl⟩, Script.Parser.head_ne (by decide) _ _⟩
    ⟨_, _, _, rfl, by decide, by decide, by decide⟩
  have hscript : Reads (Script.Parser.script (n + 25))
      (onLine 1 [.name outputId, op "(", .name (meantName id), op "(", op ")", op ")", .newline] ++
        [(.finish, 0)]) []
      [appends 1 1 (.call 1 (.name 1 (meantName id)) [])] :=
    Script.Parser.reads_singleLine houter (.inl ⟨outputId, rfl⟩) rfl
  obtain ⟨ts, hread, -⟩ := hscript (Script.lex 1 (callCode id)).list
    (by rw [hspots, List.append_nil])
  unfold Script.parse?
  simp only [hending, if_true, hfuel]
  show ((Script.Parser.script (n + 25)) (Script.lex 1 (callCode id)).list).map (·.1) = _
  rw [hread]
  rfl

/-- **The view compiles to a call of the name that is meant**, unless that name has a value in
advance. -/
theorem compile_callCode (hdebug : meantName id ≠ debugId) :
    Script.compile (callCode id) = .ok [appends 1 1 (.call 1 (.name 1 (meantName id)) [])] := by
  have hzero : (callCode id).contains '\x00' = false := by
    rw [← Bool.not_eq_true, List.contains_iff_mem]
    exact not_mem_callCode hid rfl (by decide)
  have hfolded : (Script.Expr.call 1 (.name 1 (meantName id)) []).folded =
      .call 1 (.name 1 (meantName id)) [] := by
    show Script.Expr.call 1 (Script.Expr.name 1 (meantName id)).folded [] = _
    rw [Fragment.folded_name hdebug]
  have hcheck : ∀ n, Script.check n [appends 1 1 (.call 1 (.name 1 (meantName id)) [])] = .ok () :=
    fun n => Fragment.Outline.checkAll_cons (Fragment.Outline.checkOne_appends rfl)
      Fragment.Outline.checkAll_nil _
  unfold Script.compile
  simp only [hzero, Bool.false_eq_true, if_false, parse?_callCode hid hfree,
    Fragment.folded_appends hfolded, hcheck]

end

/-! ## Running -/

/-- A helper is called without arguments, and the text of what it gives is added to the output;
nothing has no text. -/
def showCall (f : Script.Helper) : Run Unit := do Script.writeValue (← f.call {})

section

variable {c : Context} {f : Script.Helper} {g : Generated}

/-- What is done last and cannot fail does not matter to the host if it leaves the memory. -/
lemma settled_bind {α β : Type} {x : Run α} {y : α → Run β} (hy : ∀ a m, ∃ b, Gives (y a) m b m)
    (m : Memory) : settled g ((x >>= y).run.run m) = settled g (x.run.run m) := by
  rcases hx : x.run.run m with ⟨s | a, m'⟩
  · rw [Script.run_bind_error hx]
    cases s <;> rfl
  · obtain ⟨b, hb⟩ := hy a m'
    rw [Script.run_bind_ok hx, hb]
    rfl

lemma eval_bareCall (l : Nat) (e : Script.Expr) :
    eval c (.call l e []) = (do
      let callee ← eval c e
      Run.located l (c.call callee {})) := by
  simp [eval, Script.evalPlain, Script.evalNamed, Script.isAlone]

/-- **The call runs the helper**, if its name stands for it, and shows what it gives. -/
theorem settled_call {id h : Text} {vs : Names Value} {m : Memory} (hscopes : c.scopes = [])
    (hframe : m.cells[c.globals]? = some (.frame vs)) (houtput : vs.find? outputId = some .output)
    (hname : vs.find? id = some (.helper h)) (hfind : findHelper c.helpers h = some f) :
    settled g ((execAll c [appends 1 1 (.call 1 (.name 1 id) [])]).run.run m) =
      settled g ((Run.located 1 (showCall f)).run.run m) := by
  have hhelper : c.call (.helper h) {} = f.call {} := by
    unfold Context.call Context.call.callPlain
    simp only [hfind]
  -- the call inside is that of the helper
  have hinner : (eval c (.call 1 (.name 1 id) [])).run.run m =
      (Run.located 1 (f.call {})).run.run m := by
    rw [eval_bareCall, Script.run_bind_ok (Script.gives_valueOf hscopes hframe hname 1), hhelper]
  have houter : (eval c (.call 1 (.name 1 outputId) [.plain (.call 1 (.name 1 id) [])])).run.run m =
      (Run.located 1 (showCall f >>= fun _ => pure Value.none)).run.run m := by
    rw [Fragment.Scene.eval_call,
      Script.run_bind_ok (Script.gives_valueOf hscopes hframe houtput 1), showCall, bind_assoc,
      Run.located_bind]
    exact Script.run_bind_congr hinner
  have hexec : execAll c [appends 1 1 (.call 1 (.name 1 id) [])] =
      (eval c (.call 1 (.name 1 outputId) [.plain (.call 1 (.name 1 id) [])]) >>= fun _ =>
        pure Script.Flow.next) := by
    simp [execAll, exec, appends]
  have hpure : ∀ a m, ∃ b, Gives (Run.located 1 (pure a : Run Value)) m b m := fun a m =>
    ⟨a, Gives.pure.located 1⟩
  calc settled g ((execAll c [appends 1 1 (.call 1 (.name 1 id) [])]).run.run m)
      = settled g ((eval c (.call 1 (.name 1 outputId)
          [.plain (.call 1 (.name 1 id) [])])).run.run m) := by
        rw [hexec]
        exact settled_bind (fun _ m => ⟨_, .pure⟩) m
    _ = settled g ((Run.located 1 (showCall f)).run.run m) := by
        rw [houter, Run.located_bind]
        exact settled_bind (fun _ m => hpure _ m) m

end

/-- The memory in which a script begins: its names stand for values, and nothing else has happened. -/
def freshMemory (host : Host) (vs : Names Value) : Memory :=
  { cells := #[.frame vs], coloured := host.coloured }

/-- If no name stands for data, nothing happens when the names are loaded. -/
lemma gives_loadBindings_of_helpers {bs : Names Binding}
    (hbs : ∀ b ∈ bs, b.2 = .output ∨ ∃ h, b.2 = .helper h) (m : Memory) :
    ∃ vs, Gives (Template.loadBindings bs) m vs m := by
  induction bs with
  | nil => exact ⟨[], .pure⟩
  | cons b bs ih =>
    obtain ⟨vs, hvs⟩ := ih fun b' hb' => hbs b' (List.mem_cons_of_mem b hb')
    have hload : ∃ v, Gives (Template.loadBinding b.2) m v m := by
      rcases hbs b List.mem_cons_self with hb | ⟨h, hb⟩
      · exact ⟨.output, by rw [hb]; exact .pure⟩
      · exact ⟨.helper h, by rw [hb]; exact .pure⟩
    obtain ⟨v, hv⟩ := hload
    exact ⟨(b.1, v) :: vs, hv.bind (hvs.bind .pure)⟩

/-- Without data, names stand for the output and for helpers alone. -/
lemma bindings_helpers (r : Registry) :
    ∀ b ∈ bindings r.data [], b.2 = .output ∨ ∃ h, b.2 = .helper h := by
  intro b hb
  rcases Names.mem_put hb with rfl | hb
  · exact .inl rfl
  · rcases Names.mem_putAll hb with hb | hb
    · cases hb
    · rcases Names.mem_putAll hb with hb | hb
      · obtain ⟨d, hd, rfl⟩ := List.mem_map.1 hb
        obtain ⟨h, -, rfl⟩ := List.mem_map.1 hd
        exact .inr ⟨h.2, rfl⟩
      · cases List.mem_singleton.1 hb
        exact .inr ⟨"escape", rfl⟩

/-- Without data, the name of a registered helper stands for the helper. -/
lemma find?_bindings {r : Registry} (hr : r.helpers.ids.Nodup) {id h : Text} (hid : id ≠ outputId)
    (hfind : r.helpers.find? id = some h) : (bindings r.data []).find? id = some (.helper h) := by
  have hmeans := (binds_bindings hr (merges_named [])).find?_eq id
  rw [hmeans, meaning, if_neg hid, Registry.view_value, hfind]
  rfl

section

variable {id h : Text} {f : Script.Helper} {r : Registry} {host : Host}

/-- The template of the view shows what the helper gives that is registered under the name. -/
lemma run_callView (hr : r.helpers.ids.Nodup) (hid : id ≠ outputId)
    (hregistered : r.helpers.find? id = some h) (hfind : findHelper host.helpers h = some f)
    (g : Generated) :
    let t : Template :=
      { generated := g, script := [appends 1 1 (.call 1 (.name 1 id) [])], helpers := r.data }
    ∃ vs, t.run host [] =
      settled g ((Run.located 1 (showCall f)).run.run (freshMemory host vs)) := by
  intro t
  obtain ⟨vs, hload⟩ := gives_loadBindings_of_helpers (bindings_helpers r)
    { coloured := host.coloured }
  have houtput : (bindings r.data []).find? outputId = some .output := Names.find?_put_self _ _ _
  obtain ⟨_, _, _, hout, hgives⟩ := Template.find?_of_gives_loadBindings hload houtput
  obtain ⟨_, _, _, hname, hgives'⟩ :=
    Template.find?_of_gives_loadBindings hload (find?_bindings hr hid hregistered)
  cases hgives
  cases hgives'
  refine ⟨vs, ?_⟩
  rw [Fragment.run_eq_settled, Script.run_bind_ok hload, Fragment.settled_runScript]
  exact settled_call rfl rfl hout hname hfind

end

/-! ## Rendering -/

/-- What the host gets of the view is what it gets of a helper that is called without arguments right
away: the text of what the helper gives and nothing for nothing, or a report of a failure on the first
line. -/
def ShowsCall (host : Host) (f : Script.Helper) (id : Text) (view : Option Text)
    (reply : Except Failure Text) : Prop :=
  ∃ g vs, generate (callView id) view = .ok g ∧
    reply = settled g ((Run.located 1 (showCall f)).run.run (freshMemory host vs))

namespace Environment

variable {e : Environment} {disk : Disk} {host : Host} {id h : Text} {f : Script.Helper}
  (hlimit : 1 ≤ e.limit) (hr : e.registry.Checked)
  (hregistered : e.registry.helpers.find? id = some h) (hfind : findHelper host.helpers h = some f)
  (hfree : id ∉ keywords) (hmeant : meantName id = id) (hdebug : id ≠ debugId)

include hlimit hr hregistered hfind hfree hmeant hdebug

/-- The view is compiled and run, from wherever its text comes. -/
lemma shows_compiled {name given : Option Text} (hname : ∀ n ∈ name, '\x00' ∉ n)
    (hs : Layout.Source (ViewStore.ask e.store disk) (Layout.labelOf name) given (callView id)) :
    ShowsCall host f id name ((e.resolve disk name given false >>= e.compile) >>= fun t =>
      Outcome.silent (t.run host [])).result := by
  have hmem : id ∈ e.registry.helpers.ids := by
    rw [← Names.isSome_find?_iff, hregistered]
    rfl
  obtain ⟨hid, hout⟩ := hr.checked id hmem
  obtain ⟨g, hgenerate, hcode⟩ := generate_callView hid name
  have hcompile : Script.compile g.code = .ok [appends 1 1 (.call 1 (.name 1 id) [])] := by
    have hcall := compile_callCode hid hfree (hmeant.symm ▸ hdebug)
    rwa [hmeant, ← hcode] at hcall
  obtain ⟨vs, hrun⟩ := run_callView hr.nodup hout hregistered hfind g
  have htemplate := (resolve_calm (undirected_callView hid) hlimit hs false).bind
    (compile_calm (e := e) hname hgenerate hcompile)
  refine ⟨g, vs, hgenerate, ?_⟩
  rw [htemplate.result_bind]
  exact hrun

/-- The view is rendered from its text. -/
theorem shows_renderString : ShowsCall host f id none
    (e.renderString disk host (callView id) none []).result := by
  have hdata : Outcome.Calm (Outcome.silent (contextOf none [])) [] := .silent rfl
  rw [renderString, hdata.result_bind]
  exact shows_compiled hlimit hr hregistered hfind hfree hmeant hdebug
    (fun _ h => by cases h) (.inl rfl)

/-- The view is rendered from a store that gives its text. -/
theorem shows_render {view : Text} (hview : view ≠ []) (hzero : '\x00' ∉ view)
    (hask : ViewStore.ask e.store disk view = .ok (callView id)) : ShowsCall host f id (some view)
    (e.render disk host (some view) none none []).result := by
  have hwants : Outcome.Calm (Outcome.silent (wantsParent none [])) false := .silent rfl
  have hdata : Outcome.Calm (Outcome.silent (contextOf none (Names.erase parentFlag []))) [] :=
    .silent rfl
  have hlabel : Layout.labelOf (some view) = view := Layout.labelOf_some hview
  rw [render, hwants.result_bind, if_neg Bool.false_ne_true, hdata.result_bind]
  exact shows_compiled hlimit hr hregistered hfind hfree hmeant hdebug
    (fun n hn => Option.some.inj hn ▸ hzero) (.inr ⟨rfl, hlabel.symm ▸ hask⟩)

end Environment

/-- A name that was given a helper is registered, and nothing else has changed. -/
lemma Usage.step_set {host : Host} {s : Usage} {name helper : Datum} {a : Reply}
    (h : (s.step host (.ask (.set name helper))).1 = .ok a) :
    ∃ r, s.environment.registry.set name helper = .ok r ∧
      (s.step host (.ask (.set name helper))).2 =
        { s with environment := { s.environment with registry := r } } := by
  have hsteps : Action.Atomic (Request.set name helper).steps s.environment.registry _ :=
    Action.atomic_change (·.set name helper) s.environment.registry Answer.done
  rcases hset : s.environment.registry.set name helper with f | r
  · rw [hset] at hsteps
    have hfails : (Request.set name helper).steps.run.run s.environment.registry =
        (.error f, s.environment.registry) := hsteps
    rw [step, hfails] at h
    cases h
  · rw [hset] at hsteps
    have hdone : (Request.set name helper).steps.run.run s.environment.registry =
        (.ok .done, r) := hsteps
    exact ⟨r, rfl, by rw [step, hdone]⟩

/-- **A registered helper can be called from a view.**  Whatever was done with an environment before: if
a name is given a helper, by assignment, then the name is an identifier; and unless it is a reserved
word, or a view means another name by it, or it has a value in advance, the view that calls it and is
rendered without data, from its text or from a store under a name that code can have, calls the helper
without arguments and shows the text of what it gives, and nothing for nothing. -/
theorem registered_helper_is_called {store : Option ViewStore} {folders : Option FolderStore}
    {limit : Int} {helpers : Option Datum} {e : Environment}
    (he : Environment.make store folders limit helpers = .ok e) (disk : Disk) (host : Host)
    {past : List Deed} (hpast : ∀ q, .ask q ∈ past → q.Genuine) :
    let now := Usage.run host { environment := e, disk } past
    ∀ name helper a, (now.step host (.ask (.set name helper))).1 = .ok a →
      let next := (now.step host (.ask (.set name helper))).2
      1 ≤ next.environment.limit →
      ∃ id h, name = .text id ∧ helper = .helper h ∧ Text.isIdentifier id = true ∧
        ∀ f, findHelper host.helpers h = some f →
          id ∉ keywords → meantName id = id → id ≠ debugId →
          ShowsCall host f id none
            (next.environment.renderString next.disk host (callView id) none []).result ∧
          ∀ view ≠ [], '\x00' ∉ view →
            ViewStore.ask next.environment.store next.disk view = .ok (callView id) →
            ShowsCall host f id (some view)
              (next.environment.render next.disk host (some view) none none []).result := by
  intro now name helper a ha next hlimit
  have hnow : now.environment.registry.Checked :=
    Usage.checked_run hpast (Environment.make_ok he).1
  obtain ⟨r, hset, hnext⟩ := Usage.step_set ha
  obtain ⟨id, h, hname, hid, hout, hhelper, rfl⟩ := Registry.set_ok hset
  have hchecked : next.environment.registry.Checked := by
    show (now.step host (.ask (.set name helper))).2.environment.registry.Checked
    rw [hnext]
    exact hnow.put h hid hout
  have hregistered : next.environment.registry.helpers.find? id = some h := by
    show (now.step host (.ask (.set name helper))).2.environment.registry.helpers.find? id = _
    rw [hnext]
    exact Names.find?_put_self _ _ _
  refine ⟨id, h, hname, hhelper, hid, fun f hfind hfree hmeant hdebug => ⟨?_, ?_⟩⟩
  · exact Environment.shows_renderString hlimit hchecked hregistered hfind hfree hmeant hdebug
  · intro view hview hzero hask
    exact Environment.shows_render hlimit hchecked hregistered hfind hfree hmeant hdebug hview hzero
      hask

/-- A helper is registered in a new environment, and a view calls it. -/
theorem first_helper_is_called :
    let host : Host := { helpers := Helper.stock }
    let start : Usage := Usage.run host { environment := {}, disk := {} } []
    let reply := start.step host (.ask (.set (.text "first") (.helper "v1")))
    reply.1 = .ok (.registry .done) ∧ 1 ≤ reply.2.environment.limit ∧
    (reply.2.environment.renderString {} host "<%- first() %>" none []).result = .ok "v1" := by
  intro host start reply
  have he : Environment.make none none 50 none = .ok {} := rfl
  have hpast : ∀ q, Deed.ask q ∈ [] → q.Genuine := fun _ hq => absurd hq List.not_mem_nil
  obtain ⟨id, h, hname, hhelper, -, hshows⟩ := registered_helper_is_called he {} host hpast
    (.text "first") (.helper "v1") (.registry .done) rfl (by decide)
  cases hname
  cases hhelper
  obtain ⟨⟨g, vs, -, hreply⟩, -⟩ := hshows _ rfl (by decide) (by decide) (by decide)
  have hcall : Gives (showCall (Helper.constant "v1" (.text .common "v1"))) (freshMemory host vs) ()
      { freshMemory host vs with output := ["v1"] } := rfl
  have hshown : settled g ((Run.located 1 (showCall (Helper.constant "v1"
      (.text .common "v1")))).run.run (freshMemory host vs)) = .ok "v1" := by
    rw [hcall.located 1]
    rfl
  exact ⟨rfl, by decide, hreply.trans hshown⟩

/-- A reserved word can be registered, and no view can call the helper. -/
theorem reserved_word_is_not_called :
    let host : Host := { helpers := Helper.stock }
    let start : Usage := { environment := {}, disk := {} }
    let reply := start.step host (.ask (.set (.text "class") (.helper "one")))
    (∃ a, reply.1 = .ok a) ∧ (findHelper host.helpers "one").isSome ∧
    ∀ t, (reply.2.environment.renderString {} host (callView "class") none []).result ≠ .ok t := by
  intro host start reply
  have hfails : (reply.2.environment.renderString {} host (callView "class") none []).result.isOk =
      false := by decide +kernel
  refine ⟨⟨_, rfl⟩, rfl, fun t ht => ?_⟩
  rw [ht] at hfails
  cases hfails

end ViewEngine

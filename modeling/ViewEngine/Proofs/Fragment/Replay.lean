/-
# The script of a page does what the page does

A page is played tag by tag; its script runs statement by statement, and remembers lines of the code
where the play remembers the text in front of a tag.  Both begin with the same memory and go through
the same memories.  When a tag fails, the run stops with the same failure at a line of the code that
comes from the line of the tag.

* `Scene`: what a play and a run have in common;
* `Scene.Mirrors`: a run does what a play does;
* `Scene.mirrors_located`: the action of a tag, and the same attributed to a line;
* `Scene.mirrors_page`: a whole page and its script.
-/
import Mathlib.Tactic.Common
import Mathlib.Tactic.Lemma
import ViewEngine.Proofs.Fragment.Execution
import ViewEngine.Proofs.Fragment.Play
import ViewEngine.Proofs.Script.Calculation

namespace ViewEngine.Fragment

open Script (Context Fault Flow Memory NamesKept Run Stop Value eval exec execAll findHelper)
open Script.Run (Gives Looks Orderly)
open Text (lineBehind)

/-- Whatever value the helper is called with, it leaves the names of the script alone, and if it fails,
its failure has a text and no line of the script. -/
def Ordinary (h : Script.Helper) : Prop := ∀ v, Orderly (h.call { plain := [v] })

/-- The text of a value, escaped for markup. -/
lemma orderly_escapeValue (v : Value) : Orderly (Helper.escapeValue v) := by
  have hescaped : Orderly (do Run.pieceOf (Html.escape (← v.plain))) :=
    (Script.orderly_plain v).bind fun t => .pieceOf _
  cases v with
  | none => exact .newText []
  | _ => exact hescaped

namespace Ordinary

/-- A helper with parameters is ordinary if what it does with their values is. -/
lemma ofSignature {id known : Text} {s : Script.Signature} {body : List Value → Run Value}
    (h : ∀ vs, Orderly (body vs)) : Ordinary (.ofSignature id known s body) := fun _ =>
  (Script.orderly_signature known s _).bind fun _ => h _

lemma escape : Ordinary Helper.escape :=
  ofSignature fun vs => by cases vs <;> exact orderly_escapeValue _

/-- A helper may fail whatever it is called with. -/
lemma failing (id : Text) (kind : Script.FaultKind) (message : Option Text) :
    Ordinary (.failing id kind message) := by
  intro v
  cases message with
  | none => exact .raise kind
  | some t => exact .fail kind t

end Ordinary

/-! ## Scenes -/

/-- What a play and a run have in common: a source, the lines of it for the lines of the code, and
what evaluations can see.  The host provides the escaping of texts, and its helpers are ordinary. -/
structure Scene where
  /-- The source. -/
  source : Text
  /-- The line of the source for a line of the code. -/
  line : Nat → Option Int
  /-- What evaluations can see. -/
  context : Context
  global : context.scopes = []
  escape : findHelper context.helpers Helper.escapeId = some Helper.escape
  ordinary : ∀ h ∈ context.helpers, Ordinary h

namespace Scene

variable (w : Scene)

/-- The output and the escaping of texts have their names. -/
def Ready (m : Memory) : Prop :=
  ∃ vs, m.cells[w.context.globals]? = some (.frame vs) ∧ vs.find? outputId = some .output ∧
    vs.find? Helper.escapeId = some (.helper Helper.escapeId)

/-- A tag of the source begins behind the text. -/
def Opens (front : Text) : Prop := ∃ m : Marker, m.isOpen = true ∧ front ++ m.text <+: w.source

/-- How a run ends where a play ends: with the same memory, and either both give something, or both
fail, the run at a line of the code that comes from the line of the tag. -/
inductive Matches {α β : Type} (g : α → β) :
    Except Break α × Memory → Except Stop β × Memory → Prop
  | ok {a : α} {m : Memory} (hready : w.Ready m) : Matches g (.ok a, m) (.ok (g a), m)
  | fault {front : Text} {f : Fault} {m : Memory} {n : Nat} (hopens : w.Opens front)
    (hline : w.line n = some (lineBehind front)) (htold : f.Told m) :
    Matches g (.error (.fault front f), m) (.error (.fault { f with line := some n }), m)
  | beyond {m : Memory} {r : Except Stop β × Memory} : Matches g (.error .beyond, m) r

/-- The run does what the play does. -/
def Mirrors {α β : Type} (g : α → β) (p : Play α) (x : Run β) : Prop :=
  ∀ m, w.Ready m → w.Matches g (p.run.run m) (x.run.run m)

variable {w} {α β γ δ : Type} {m m' : Memory}

lemma Ready.kept (h : w.Ready m) (hkept : NamesKept m m') : w.Ready m' := by
  obtain ⟨vs, hframe, hnames⟩ := h
  exact ⟨vs, (hkept.frames _ (Array.getElem?_eq_some_iff.1 hframe).1 vs).2 hframe, hnames⟩

namespace Mirrors

variable {g : α → β} {g' : γ → δ} {p : Play α} {x : Run β} {q : α → Play γ} {y : β → Run δ}

lemma pure (a : α) : w.Mirrors g (pure a) (pure (g a)) := fun _ hm => .ok hm

/-- One after the other. -/
theorem bind (h : w.Mirrors g p x) (h' : ∀ a, w.Mirrors g' (q a) (y (g a))) :
    w.Mirrors g' (p >>= q) (x >>= y) := by
  intro m hm
  have hfirst := h m hm
  generalize hp : p.run.run m = r at hfirst
  generalize hx : x.run.run m = r' at hfirst
  cases hfirst with
  | ok hready =>
    rw [Script.run_bind_ok hp, Script.run_bind_ok hx]
    exact h' _ _ hready
  | fault hopens hline htold =>
    rw [Script.run_bind_error hp, Script.run_bind_error hx]
    exact .fault hopens hline htold
  | beyond =>
    rw [Script.run_bind_error hp]
    exact .beyond

/-- The run looks at something first. -/
lemma after {x : Run γ} {c : γ} {y : γ → Run β} (hx : ∀ m, w.Ready m → Gives x m c m)
    (h : w.Mirrors g p (y c)) : w.Mirrors g p (x >>= y) := by
  intro m hm
  rw [Script.run_bind_ok (hx m hm)]
  exact h m hm

/-- A result that nobody needs. -/
lemma map (h : w.Mirrors g p x) (f : β → δ) :
    w.Mirrors (fun a => f (g a)) p (x >>= fun b => Pure.pure (f b)) := by
  intro m hm
  have hfirst := h m hm
  generalize hp : p.run.run m = r at hfirst ⊢
  generalize hx : x.run.run m = r' at hfirst
  cases hfirst with
  | ok hready =>
    rw [Script.run_bind_ok hx]
    exact .ok hready
  | fault hopens hline htold =>
    rw [Script.run_bind_error hx]
    exact .fault hopens hline htold
  | beyond => exact .beyond

lemma beyond : w.Mirrors g (throw .beyond) x := fun _ _ => .beyond

end Mirrors

/-! ### Actions of tags -/

variable {front : Text} {n : Nat} {x : Run α}

lemma run_act (front : Text) (x : Run α) (m : Memory) :
    (Play.act front x).run.run m = (((x.run.run m).1).mapError (Break.of front), (x.run.run m).2) :=
  rfl

lemma run_located_ok {a : α} (h : x.run.run m = (.ok a, m')) (line : Nat) :
    (Run.located line x).run.run m = (.ok a, m') :=
  Gives.located h line

lemma run_located_fault {f : Fault} (h : x.run.run m = (.error (.fault f), m')) (line : Nat) :
    (Run.located line x).run.run m =
      (.error (.fault { f with line := some (f.line.getD line) }), m') := by
  rw [Run.run_located, h]
  rfl

/-- **The action of a tag, and the same attributed to a line of the code.** -/
theorem mirrors_located_map (hopens : w.Opens front) (hline : w.line n = some (lineBehind front))
    (hx : Orderly x) (f : α → β) :
    w.Mirrors f (Play.act front x) (Run.located n (x >>= fun a => pure (f a))) := by
  intro m hm
  obtain ⟨hkept, htold⟩ := hx m
  rw [run_act]
  cases hrun : x.run.run m with
  | mk r m' =>
    rw [hrun] at hkept htold
    cases r with
    | ok a =>
      have hall := Script.run_bind_ok (f := fun a => (pure (f a) : Run β)) hrun
      rw [run_located_ok hall]
      exact .ok (hm.kept hkept)
    | error s =>
      have hall := Script.run_bind_error (f := fun a => (pure (f a) : Run β)) hrun
      cases s with
      | endless => exact .beyond
      | fault g =>
        have hg := htold g rfl
        rw [run_located_fault hall, hg.unplaced]
        exact .fault hopens hline hg

lemma mirrors_located (hopens : w.Opens front) (hline : w.line n = some (lineBehind front))
    (hx : Orderly x) : w.Mirrors id (Play.act front x) (Run.located n x) := by
  have hall := mirrors_located_map hopens hline hx id
  rwa [bind_pure_comp, id_map] at hall

/-- An action that cannot fail. -/
lemma mirrors_gives (h : ∀ m, w.Ready m → ∃ a m', Gives x m a m' ∧ w.Ready m') :
    w.Mirrors id (Play.act front x) x := by
  intro m hm
  obtain ⟨a, m', hrun, hready⟩ := h m hm
  rw [run_act, hrun]
  exact .ok hready

lemma mirrors_looks (h : Looks x) : w.Mirrors id (Play.act front x) x :=
  mirrors_gives fun m hm => (h m).elim fun a ha => ⟨a, m, ha, hm⟩

/-! ## Values -/

variable {c : Context}

lemma eval_call (l : Nat) (f e : Script.Expr) :
    eval c (.call l f [.plain e]) = (do
      let callee ← eval c f
      let v ← eval c e
      Run.located l (c.call callee { plain := [v] })) := by
  simp [eval, Script.evalPlain, Script.evalNamed, Script.isAlone]

lemma call_output (v : Value) :
    c.call .output { plain := [v] } = (do Script.writeValue v; return .none) := rfl

/-- What is applied is what a call does, and it is orderly. -/
lemma applied_eq_some {callee v : Value} {x : Run Value}
    (h : applied w.context callee v = some x) :
    w.context.call callee { plain := [v] } = x ∧ Orderly x := by
  have hother : Orderly (do
      Run.fail .type ("'" ++ (← callee.typeName) ++ "' object is not callable") : Run Value) :=
    (Script.looks_typeName callee).orderly.bind fun _ => .fail _ _
  cases callee with
  | helper id =>
    obtain ⟨helper, hfind, rfl⟩ := Option.map_eq_some_iff.1 h
    have hmem : helper ∈ w.context.helpers := List.mem_of_find?_eq_some hfind
    refine ⟨?_, w.ordinary helper hmem v⟩
    unfold Context.call Context.call.callPlain
    simp only [hfind]
  | function a => cases h
  | native f => cases h
  | kind k => cases h
  | output => cases h
  | method i m owner => cases h
  | _ =>
    cases h
    exact ⟨rfl, hother⟩

section

variable (hopens : w.Opens front) (hline : w.line n = some (lineBehind front))

include hopens hline

lemma mirrors_name (x : Variable) :
    w.Mirrors id (Play.act front (w.context.valueOf x.id)) (eval w.context (.name n x.id)) := by
  rw [eval]
  exact mirrors_located hopens hline (Script.orderly_valueOf _ _)

lemma mirrors_value (e : Operand) :
    w.Mirrors id (e.value w.context front) (eval w.context (e.expr n)) := by
  cases e with
  | name x => exact mirrors_name hopens hline x
  | call f x =>
    rw [Operand.expr, eval_call]
    refine (mirrors_name hopens hline f).bind fun callee =>
      (mirrors_name hopens hline x).bind fun v => ?_
    cases happlied : applied w.context callee v with
    | none => exact .beyond
    | some run =>
      obtain ⟨hcall, hrun⟩ := applied_eq_some happlied
      show w.Mirrors id _ (Run.located n (w.context.call callee { plain := [v] }))
      rw [hcall]
      exact mirrors_located hopens hline hrun

/-! ## Outputs -/

omit hopens hline in
/-- The output and the escaping of texts are found under their names. -/
lemma gives_ready (l : Nat) (hm : w.Ready m) :
    Gives (eval w.context (.name l outputId)) m .output m ∧
      Gives (eval w.context (.name l Helper.escapeId)) m (.helper Helper.escapeId) m := by
  obtain ⟨vs, hframe, houtput, hescape⟩ := hm
  exact ⟨Script.gives_valueOf w.global hframe houtput l,
    Script.gives_valueOf w.global hframe hescape l⟩

omit hopens hline in
lemma call_escape (v : Value) :
    w.context.call (.helper Helper.escapeId) { plain := [v] } = Helper.escapeValue v := by
  unfold Context.call Context.call.callPlain
  simp only [w.escape]
  rfl

lemma mirrors_shown (b : Bool) (e : Operand) :
    w.Mirrors id (e.shown w.context front b) (eval w.context ((Page.shownValue b e).expr n)) := by
  cases b with
  | false => exact mirrors_value hopens hline e
  | true =>
    show w.Mirrors id (e.value w.context front >>= fun v => Play.act front (Helper.escapeValue v))
      (eval w.context (.call n (.name n Helper.escapeId) [.plain (e.expr n)]))
    rw [eval_call]
    refine .after (fun m hm => (gives_ready n hm).2) ((mirrors_value hopens hline e).bind fun v => ?_)
    show w.Mirrors id _ (Run.located n (w.context.call (.helper Helper.escapeId) { plain := [v] }))
    rw [call_escape]
    exact mirrors_located hopens hline (orderly_escapeValue v)

/-- A value that is appended. -/
lemma mirrors_appends {p : Play Value} {e : Script.Expr}
    (h : w.Mirrors id p (eval w.context e)) :
    w.Mirrors (fun _ => .next) (p >>= fun v => Play.act front (Script.writeValue v))
      (exec w.context (appends n n e)) := by
  have hwrite : ∀ v, w.Mirrors (fun _ => Value.none) (Play.act front (Script.writeValue v))
      (Run.located n (w.context.call .output { plain := [v] })) := by
    intro v
    rw [call_output]
    exact mirrors_located_map hopens hline (Script.orderly_writeValue v) fun _ => Value.none
  rw [appends, exec, eval_call]
  simp only [bind_assoc]
  refine .after (fun m hm => (gives_ready n hm).1) (h.bind fun v => ?_)
  exact (hwrite v).map fun _ => Flow.next

end

/-! ## Statements -/

lemma execAll_pass (ss : Script.Program) : execAll c (.pass :: ss) = execAll c ss := by
  rw [execAll, exec, pure_bind]

/-- A statement in front of others. -/
lemma Mirrors.cons {p : Play Unit} {q : Unit → Play Unit} {s : Script.Statement}
    {ss : Script.Program} (h : w.Mirrors (fun _ => Flow.next) p (exec w.context s))
    (h' : w.Mirrors (fun _ => Flow.next) (q ()) (execAll w.context ss)) :
    w.Mirrors (fun _ => Flow.next) (p >>= q) (execAll w.context (s :: ss)) := by
  rw [execAll]
  exact h.bind fun _ => h'

lemma mirrors_nil : w.Mirrors (fun _ => Flow.next) (pure ()) (execAll w.context []) := by
  rw [execAll]
  exact .pure ()

/-- Binding a name of the fragment leaves the other names alone. -/
lemma gives_bind (x : Variable) (v : Value) (hm : w.Ready m) :
    ∃ m', Gives (w.context.bindName x.id v) m () m' ∧ w.Ready m' := by
  obtain ⟨vs, hframe, houtput, hescape⟩ := hm
  have hcell : w.context.frame = w.context.globals := by rw [Context.frame, w.global]
  have hsize := (Array.getElem?_eq_some_iff.1 hframe).1
  refine ⟨{ m with cells := m.cells.setIfInBounds w.context.globals (.frame (vs.put x.id v)) }, ?_,
    vs.put x.id v, Array.getElem?_setIfInBounds_self_of_lt hsize, ?_, ?_⟩
  · unfold Context.bindName
    rw [hcell]
    exact (Run.gives_frameAt hframe).bind (Run.gives_store _)
  · rw [Names.find?_put_of_ne (Ne.symm x.ne_output), houtput]
  · rw [Names.find?_put_of_ne (Ne.symm x.ne_escape), hescape]

/-- **The rounds of a loop.** -/
theorem mirrors_rounds {next : Play (Option Value)} {next' : Run (Option Value)}
    {body : Value → Play Unit} {body' : Value → Run Flow} (hnext : w.Mirrors id next next')
    (hbody : ∀ v, w.Mirrors (fun _ => Flow.next) (body v) (body' v)) (count : Nat) :
    w.Mirrors (fun _ => Flow.next) (Play.rounds next body count)
      (Script.forLoop next' body' (execAll w.context []) count) := by
  induction count with
  | zero => exact .beyond
  | succ count ih =>
    rw [Play.rounds, Script.forLoop]
    refine hnext.bind fun v => ?_
    cases v with
    | none => exact mirrors_nil
    | some v => exact (hbody v).bind fun _ => ih

section

variable (hopens : w.Opens front) (hline : w.line n = some (lineBehind front))

include hopens hline

/-- A loop. -/
lemma mirrors_each (x xs : Variable) {body : Play Unit} {bs : Script.Program}
    (hbody : w.Mirrors (fun _ => Flow.next) body (execAll w.context bs)) :
    w.Mirrors (fun _ => Flow.next) (do
        let v ← Play.act front (w.context.valueOf xs.id)
        let a ← Play.act front (Script.iterate v)
        let count ← Play.act front (Script.roundsOver v)
        Play.rounds (.act front (Script.next a)) (fun e => do
          Play.act front (w.context.bindName x.id e)
          body) count)
      (exec w.context (.forEach n (.name x.id) (.name n xs.id) (.pass :: bs) [])) := by
  rw [exec]
  refine (mirrors_name hopens hline xs).bind fun v => ?_
  refine (mirrors_located hopens hline (Script.orderly_iterate v)).bind fun a => ?_
  refine (mirrors_looks (Script.looks_roundsOver v)).bind fun count => ?_
  refine mirrors_rounds (mirrors_located hopens hline (Script.orderly_next a)) (fun e => ?_) count
  have hbind : w.Mirrors id (Play.act front (w.context.bindName x.id e))
      (w.context.bindName x.id e) :=
    mirrors_gives fun m hm => (gives_bind x e hm).elim fun m' h => ⟨(), m', h⟩
  rw [execAll_pass, Script.assign]
  exact hbind.bind fun _ => hbody

/-- A choice. -/
lemma mirrors_branch (k : Variable) {yes no : Play Unit} {ys ns : Script.Program}
    (hyes : w.Mirrors (fun _ => Flow.next) yes (execAll w.context ys))
    (hno : w.Mirrors (fun _ => Flow.next) no (execAll w.context ns)) :
    w.Mirrors (fun _ => Flow.next)
      (Play.act front (w.context.valueOf k.id) >>= fun v => Play.choose front v yes no)
      (exec w.context (.branch (.name n k.id) ys ns)) := by
  rw [exec]
  refine (mirrors_name hopens hline k).bind fun v => ?_
  refine (mirrors_looks (Script.looks_isTrue v)).bind fun b => ?_
  cases b with
  | true => exact hyes
  | false => exact hno

end

/-! ## Pages -/

/-- From line `n` of the code on, the lines come from these lines of the source. -/
def Placed (w : Scene) (n : Nat) (ls : List Int) : Prop :=
  ∀ i l, ls[i]? = some l → w.line (n + i) = some l

lemma Placed.head {l : Int} {ls : List Int} (h : w.Placed n (l :: ls)) : w.line n = some l :=
  h 0 l rfl

lemma Placed.tail {l : Int} {ls : List Int} (h : w.Placed n (l :: ls)) : w.Placed (n + 1) ls := by
  intro i l' hl
  rw [Nat.add_assoc, Nat.add_comm 1]
  exact h (i + 1) l' hl

lemma Placed.left {ls ls' : List Int} (h : w.Placed n (ls ++ ls')) : w.Placed n ls := fun i l hl =>
  h i l (by rw [List.getElem?_append_left (List.getElem?_eq_some_iff.1 hl).1, hl])

lemma Placed.right {ls ls' : List Int} (h : w.Placed n (ls ++ ls')) :
    w.Placed (n + ls.length) ls' := by
  intro i l hl
  rw [Nat.add_assoc]
  refine h (ls.length + i) l ?_
  rw [List.getElem?_append_right (Nat.le_add_right _ _), Nat.add_sub_cancel_left, hl]

/-- A text is shown, wherever the line of the code comes from. -/
lemma mirrors_literal {t : Text} {q : Play Unit} {rest : Outline} {line : Int}
    (h : ∀ n, w.Placed n rest.lines →
      w.Mirrors (fun _ => Flow.next) q (execAll w.context (rest.script n)))
    (hplaced : w.Placed n (Outline.literal line t rest).lines) :
    w.Mirrors (fun _ => Flow.next) (Play.act front (showText t) >>= fun _ => q)
      (execAll w.context ((Outline.literal line t rest).script n)) := by
  unfold Outline.literal at hplaced ⊢
  cases ht : t.isEmpty with
  | true =>
    -- nothing is shown of a text that is trimmed away, and no line of the code stands for it
    simp only [ht, if_true] at hplaced ⊢
    have hshow : Play.act front (showText t) = pure () := by
      rw [showText, ht]
      rfl
    rw [hshow, pure_bind]
    exact h n hplaced
  | false =>
    simp only [ht, Bool.false_eq_true, if_false] at hplaced ⊢
    have hshow : showText t = Run.write t := by
      rw [showText, ht]
      rfl
    refine Mirrors.cons (fun m hm => ?_) (h (n + 1) hplaced.tail)
    obtain ⟨vs, hframe, houtput, hescape⟩ := hm
    have hrun : Gives (exec w.context (appends n n (Appended.expr n (.literal t)))) m .next _ :=
      gives_literal w.global hframe houtput
    rw [hshow, run_act, Run.gives_write t, hrun]
    exact .ok ⟨vs, hframe, houtput, hescape⟩

section

variable {s r : Text}

/-- A tag stands behind the text. -/
lemma opens_of_tag {z : Closer} {marker : Marker} {inside : Text}
    (h : front ++ (z.tag marker inside ++ r) <+: w.source) (hm : marker.isOpen = true) :
    w.Opens front := by
  refine ⟨marker, hm, List.IsPrefix.trans ?_ h⟩
  rw [Closer.tag, List.append_assoc]
  exact (List.prefix_append_right_inj front).2 (List.prefix_append _ _)

lemma behind (h : front ++ (s ++ r) <+: w.source) : (front ++ s) ++ r <+: w.source := by
  rwa [List.append_assoc]

lemma within (h : front ++ (s ++ r) <+: w.source) : front ++ s <+: w.source :=
  ((List.prefix_append_right_inj front).2 (List.prefix_append s r)).trans h

end

/-- **The script of a page does what the page does.** -/
theorem mirrors_page (p : Page) {trim : Bool} (hplaced : w.Placed n (p.outline front trim).lines)
    (hsource : front ++ p.source <+: w.source) :
    w.Mirrors (fun _ => Flow.next) (p.play w.context front trim)
      (execAll w.context ((p.outline front trim).script n)) := by
  induction p generalizing front trim n with
  | done => exact mirrors_nil
  | text t rest ih => exact mirrors_literal (fun n hn => ih hn (behind hsource)) hplaced
  | shown b e z rest ih =>
    have hopens := opens_of_tag hsource (by cases b <;> rfl)
    have hstatement := mirrors_appends hopens hplaced.head
      (mirrors_shown hopens hplaced.head b e)
    rw [Page.play, ← bind_assoc]
    exact hstatement.cons (ih hplaced.tail (behind hsource))
  | comment k rest ih => exact ih hplaced (behind hsource)
  | each x xs z body z' rest ihbody ih =>
    have hopens := opens_of_tag hsource rfl
    have hinside := behind hsource
    have hbody := ihbody hplaced.tail.tail.left (within hinside)
    have hrest := hplaced.tail.tail.right
    rw [Outline.length_lines] at hrest
    rw [← List.append_assoc body.source] at hinside
    have hloop := mirrors_each hopens hplaced.head x xs hbody
    have hall := hloop.cons (q := fun _ => _) (ih hrest (behind hinside))
    simp only [bind_assoc] at hall
    exact hall
  | branch k z yes z' rest ihyes ih =>
    have hopens := opens_of_tag hsource rfl
    have hinside := behind hsource
    have hyes := ihyes hplaced.tail.tail.left (within hinside)
    have hrest := hplaced.tail.tail.right
    rw [Outline.length_lines] at hrest
    rw [← List.append_assoc yes.source] at hinside
    have hchoice := mirrors_branch hopens hplaced.head k
      ((execAll_pass _).symm ▸ hyes) mirrors_nil
    have hall := hchoice.cons (q := fun _ => _) (ih hrest (behind hinside))
    simp only [bind_assoc] at hall
    exact hall
  | choice k z yes z' no z'' rest ihyes ihno ih =>
    have hopens := opens_of_tag hsource rfl
    have hinside := behind hsource
    have hyes := ihyes hplaced.tail.tail.left (within hinside)
    have hother := hplaced.tail.tail.right
    rw [Outline.length_lines] at hother
    have hinside' := behind (behind hinside)
    have hno := ihno hother.tail.tail.left (within hinside')
    have hrest := hother.tail.tail.right
    rw [Outline.length_lines] at hrest
    rw [← List.append_assoc no.source] at hinside'
    have hchoice := mirrors_branch hopens hplaced.head k
      ((execAll_pass _).symm ▸ hyes) ((execAll_pass _).symm ▸ hno)
    have hall := hchoice.cons (q := fun _ => _) (ih hrest (behind hinside'))
    simp only [bind_assoc] at hall
    exact hall

end Scene

end ViewEngine.Fragment

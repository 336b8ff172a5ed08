/-
# Views show what their trees mean

The whole way of a view, from its source to its output: it is cut into tags, turned into code,
compiled, and run on data of the host.  What comes out is what the tree means.

* `bindings_eq`: the names that a view without registered helpers sees;
* `gives_loadBindings`: the values that stand for them when the run begins;
* `compileAndRun_source`: the output of a view is the meaning of its tree.
-/
import Mathlib.Tactic.Common
import Mathlib.Tactic.Lemma
import ViewEngine.Proofs.Engine.Bindings
import ViewEngine.Proofs.Fragment.Execution

namespace ViewEngine.Fragment

open Mapping (dictOf)
open Script (Address Cell Context Datum Memory Run Value exec execAll recursionLimit)
open Script.Run (Gives Kept)

/-- Data of the fragment under different names, none of which is that of the escaping of texts. -/
structure Admissible (data : Names Datum) : Prop where
  distinct : data.ids.Nodup
  free : Helper.escapeId ∉ data.ids
  /-- Lists lie inside each other at most as deep as the language follows them when it shows one.  The
  bound is a limit of the host like the one on loops: how much of it is left when a view is rendered
  depends on the calls that the host has open, and is a few levels less. -/
  plain : ∀ e ∈ data, Plain recursionLimit e.2

variable {data : Names Datum}

/-! ## The names of a view -/

/-- The names that a view without registered helpers sees. -/
lemma bindings_eq (h : Admissible data) : bindings [] data =
    Names.put outputId .output
      ((Helper.escapeId, .helper Helper.escapeId) :: data.map fun e => (e.1, .datum e.2)) := by
  have hbind : bindings.bind data = data.map fun e => (e.1, .datum e.2) := by
    refine List.map_congr_left fun e he => ?_
    have hplain := h.plain e he
    cases hd : e.2 with
    | helper id =>
      rw [hd] at hplain
      exact hplain.elim
    | _ => rfl
  -- no name is bound twice, so each is appended as it comes
  have hids : (Names.ids (bindings.bind standardHelpers ++ bindings.bind data)).Nodup := by
    have hsame : Names.ids (bindings.bind data) = data.ids := by
      rw [hbind, Names.ids, List.map_map]
      rfl
    rw [Names.ids, List.map_append]
    show (Helper.escapeId :: Names.ids (bindings.bind data)).Nodup
    rw [hsame]
    exact List.nodup_cons.2 ⟨h.free, h.distinct⟩
  have hall := Names.putAll_of_nodup hids
  show Names.put outputId .output ((bindings.bind standardHelpers).putAll (bindings.bind data)) = _
  rw [hall, hbind]
  rfl

/-- Data that the names of a view stand for are of the fragment. -/
lemma plain_of_mem_bindings (h : Admissible data) {e : Text × Binding} (he : e ∈ bindings [] data)
    {d : Datum} (hd : e.2 = .datum d) : Plain recursionLimit d := by
  rw [bindings_eq h] at he
  rcases Names.mem_put he with rfl | he
  · cases hd
  · rcases List.mem_cons.1 he with rfl | he
    · cases hd
    · obtain ⟨f, hf, rfl⟩ := List.mem_map.1 he
      cases hd
      exact h.plain f hf

/-- **The names of a view are loaded as values that stand for them.** -/
theorem gives_loadBindings (bs : Names Binding)
    (hbs : ∀ e ∈ bs, ∀ d, e.2 = .datum d → Plain recursionLimit d) (m : Memory) :
    ∃ vs m', Gives (Template.loadBindings bs) m vs m' ∧ m'.output = m.output ∧
      ∀ id b, bs.find? id = some b → ∃ v, vs.find? id = some v ∧
        b.Represents (Stands m'.cells recursionLimit m'.cells.size) v := by
  obtain ⟨vs, m', hload, hout, -, -, hvs⟩ := Template.gives_loadBindings
    (D := fun m => Stands m.cells recursionLimit m.cells.size)
    (fun hkept h => Stands.mono h hkept.grows fun a ha => hkept.same a ha id)
    (fun e he d hd m => by
      obtain ⟨v, m₁, hload, hkept, hout, hv⟩ := gives_load (hbs e he d hd) m
      exact ⟨v, m₁, hload, hout, hkept, hv⟩) m
  exact ⟨vs, m', hload, hout, hvs⟩

/-- With the names of a view bound, the memory knows the data. -/
lemma knows_of_bindings (h : Admissible data) {m : Memory} {vs : Names Value}
    (hvs : ∀ id b, (bindings [] data).find? id = some b →
      ∃ v, vs.find? id = some v ∧
        b.Represents (Stands m.cells recursionLimit m.cells.size) v) :
    Knows m.cells.size data { m with cells := m.cells.push (.frame vs) } := by
  rw [bindings_eq h] at hvs
  refine ⟨vs, Array.getElem?_push_size, ?_, ?_, fun x d hd => ?_⟩
  · obtain ⟨v, hv, rfl⟩ := hvs outputId .output (Names.find?_put_self _ _ _)
    exact hv
  · have hescape : Helper.escapeId ≠ outputId := by decide
    obtain ⟨v, hv, rfl⟩ := hvs Helper.escapeId (.helper Helper.escapeId) (by
      rw [Names.find?_put_of_ne hescape, Names.find?, if_pos rfl])
    exact hv
  · obtain ⟨v, hv, hstands⟩ := hvs x.id (.datum d) (by
      rw [Names.find?_put_of_ne x.ne_output, Names.find?, if_neg (Ne.symm x.ne_escape),
        Names.find?_map, hd]
      rfl)
    have hkept : Kept (fun _ => False) m { m with cells := m.cells.push (.frame vs) } := .alloc _
    exact ⟨v, hv, Stands.mono hstands (Nat.le_refl _) fun a ha => hkept.same a ha id⟩

/-! ## From the source to the output -/

/-- **The output of a view is what its tree means.**  The host provides its stock of helpers; none is
registered under another name.  The view may have any name that code can have. -/
theorem compileAndRun_source (t : Tree) (hparted : t.Parted) (hloops : t.loops ≤ 20)
    (hblocks : t.blocks < 100) (hdata : Admissible data) {out : Text} {env : Names Datum}
    (heval : t.eval data = some (out, env)) {name : Option Text} (hname : ∀ n ∈ name, '\x00' ∉ n)
    (coloured : Bool) :
    ∃ g, generate t.source name = .ok g ∧
      compileAndRun { helpers := Helper.stock, coloured } g (dictOf data) [] = .ok out := by
  obtain ⟨g, ss, hgenerate, hcompile, hss⟩ := Tree.compile_source hparted hloops
    (Nat.le_of_lt_succ hblocks) name
  have hgname : ∀ n ∈ g.name, '\x00' ∉ n := (name_of_generate hgenerate).symm ▸ hname
  refine ⟨g, hgenerate, ?_⟩
  let template : Template := { generated := g, script := ss }
  have htemplate : Template.compile g [] [] = .ok template := Template.compile_ok hgname hcompile
  -- the run begins with the data loaded and the names bound to them
  obtain ⟨vs, m, hload, hout, hvs⟩ := gives_loadBindings (bindings [] data)
    (fun _ he _ hd => plain_of_mem_bindings hdata he hd) { coloured }
  let c : Context :=
    { helpers := Helper.stock, globals := m.cells.size,
      builtins := vs.find? Script.builtinsId,
      run := Script.runBody Helper.stock m.cells.size recursionLimit }
  have hescape : Script.findHelper c.helpers Helper.escapeId = some Helper.escape := rfl
  obtain ⟨m', hrun, -, -, htext⟩ :=
    (hss.shows (c := c) rfl hescape heval) _ (knows_of_bindings hdata hvs)
  have hscript : Gives (Script.runScript Helper.stock ss vs) m () m' :=
    (Run.gives_alloc (.frame vs)).bind (hrun.bind .pure)
  have houtput : m'.outputText = out := by
    rw [htext]
    show m.output.reverse.flatten ++ out = out
    rw [hout]
    rfl
  have hresult : template.runWith { helpers := Helper.stock, coloured } (dictOf data) = .ok out := by
    rw [Template.runWith, Mapping.context_dictOf hdata.distinct]
    exact (Template.run_of_gives hload hscript).trans (congrArg Except.ok houtput)
  rw [compileAndRun, htemplate]
  exact hresult

/-! ### A view with all kinds of tags -/

/-- `<<%= x %><%# x %><% for y in y: %><% if y: %><%- y %><% else: %>"<% end %><% end %><%- y %>` -/
def mixedTree : Tree :=
  .text ⟨['<'], by decide, by intro m; cases m <;> decide⟩ (.escaped nameX (.comment nameX
    (.each nameY nameY
      (.choice nameY (.raw nameY .done)
        (.text ⟨['"'], by decide, by intro m; cases m <;> decide⟩ .done) .done)
      (.raw nameY .done))))

/-- A text under `x`, and a list under `y`. -/
def mixedData : Names Datum :=
  [(['x'], .text ['<']), (['y'], .list [.int 12, .none, .list [.bool true]])]

lemma admissible_mixedData : Admissible mixedData where
  distinct := by decide
  free := by decide
  plain := by
    have hroom : recursionLimit = 997 + 1 + 1 + 1 := rfl
    have htwelve : 12 < numberLimit := by decide +kernel
    rw [hroom]
    simpa [mixedData, Plain] using htwelve

theorem compileAndRun_mixedTree :
    mixedTree.Parted ∧ mixedTree.loops ≤ 20 ∧ mixedTree.blocks < 100 ∧ Admissible mixedData ∧
    mixedTree.eval mixedData = some ("<&lt;12\"[True][True]".toList,
      [(['x'], .text ['<']), (['y'], .list [.bool true])]) ∧
    ∃ g, generate mixedTree.source none = .ok g ∧
      compileAndRun { helpers := Helper.stock, coloured := false } g (dictOf mixedData) [] =
        .ok "<&lt;12\"[True][True]".toList := by
  have hparted : mixedTree.Parted := by
    simp [mixedTree, Tree.Parted, Tree.beginsWithText]
  have hname : ∀ n ∈ (none : Option Text), '\x00' ∉ n := nofun
  have heval : mixedTree.eval mixedData = some ("<&lt;12\"[True][True]".toList,
      [(['x'], .text ['<']), (['y'], .list [.bool true])]) := rfl
  exact ⟨hparted, by decide, by decide, admissible_mixedData, heval,
    compileAndRun_source mixedTree hparted (by decide) (by decide) admissible_mixedData heval hname
      false⟩

end ViewEngine.Fragment

/-
# Running the script of a tree

A script of a tree appends to the output what the tree shows.  Between two statements the memory of
the run and the names that are bound belong together: the names of the script have values that stand
for the data, and the data lie in cells below the one of the names, which no statement changes.

* `Knows`: the memory knows the data of some names;
* `Shows`: a run appends a text and changes the data of some names;
* `shows_each`: a loop, round by round;
* `Compiled.shows`: the script of a tree shows what the tree means.
-/
import Mathlib.Tactic.Common
import Mathlib.Tactic.Lemma
import ViewEngine.Proofs.Fragment.Scripts

namespace ViewEngine.Fragment

open Script (Address Context Datum Flow Memory Run Value eval exec execAll recursionLimit)
open Script.Run (Gives Kept)

/-! ## Names in the memory -/

/-- The names in a cell have values that stand for the data; the output and the escaping of texts have
their names as well. -/
def Knows (globals : Address) (env : Names Datum) (m : Memory) : Prop :=
  ∃ vs, m.cells[globals]? = some (.frame vs) ∧ vs.find? outputId = some .output ∧
    vs.find? Helper.escapeId = some (.helper Helper.escapeId) ∧
    ∀ (x : Variable) (d : Datum), env.find? x.id = some d →
      ∃ v, vs.find? x.id = some v ∧ Stands m.cells recursionLimit globals d v

section

variable {globals : Address} {env : Names Datum} {m m' : Memory}

lemma lt_size_of_some {a : Address} {cell : Script.Cell} (h : m.cells[a]? = some cell) :
    a < m.cells.size :=
  (Array.getElem?_eq_some_iff.1 h).1

lemma Knows.lt_size (h : Knows globals env m) : globals < m.cells.size := by
  obtain ⟨vs, hframe, -⟩ := h
  exact lt_size_of_some hframe

/-- Cells above that of the names do not matter. -/
lemma Knows.kept (h : Knows globals env m) {p : Address → Prop} (hkept : Kept p m m')
    (hp : ∀ a ≤ globals, ¬ p a) : Knows globals env m' := by
  have hsize := h.lt_size
  obtain ⟨vs, hframe, houtput, hescape, hdata⟩ := h
  refine ⟨vs, ?_, houtput, hescape, fun x d hd => ?_⟩
  · rw [hkept.same _ hsize (hp _ (Nat.le_refl _)), hframe]
  · obtain ⟨v, hv, hstands⟩ := hdata x d hd
    exact ⟨v, hv, hstands.mono (Nat.le_refl _) fun a ha =>
      hkept.same a (Nat.lt_trans ha hsize) (hp a (Nat.le_of_lt ha))⟩

end

variable {c : Context} {env env₁ env₂ : Names Datum} {m : Memory}

/-- Binding a name. -/
lemma gives_bindName (hscopes : c.scopes = []) (h : Knows c.globals env m) (x : Variable)
    {d : Datum} {v : Value} (hv : Stands m.cells recursionLimit c.globals d v) :
    ∃ m', Gives (c.bindName x.id v) m () m' ∧ Knows c.globals (env.put x.id d) m' ∧
      Kept (· = c.globals) m m' ∧ m'.output = m.output := by
  have hsize := h.lt_size
  obtain ⟨vs, hframe, houtput, hescape, hdata⟩ := h
  have hcell : c.frame = c.globals := by rw [Context.frame, hscopes]
  let m' : Memory :=
    { m with cells := m.cells.setIfInBounds c.globals (.frame (vs.put x.id v)) }
  have hkept : Kept (· = c.globals) m m' := .store _ rfl
  have hlow : ∀ a < c.globals, m'.cells[a]? = m.cells[a]? := fun a ha =>
    hkept.same a (Nat.lt_trans ha hsize) (Nat.ne_of_lt ha)
  refine ⟨m', ?_, ⟨vs.put x.id v, ?_, ?_, ?_, ?_⟩, hkept, rfl⟩
  · unfold Context.bindName
    rw [hcell]
    exact (Run.gives_frameAt hframe).bind (Run.gives_store _)
  · exact Array.getElem?_setIfInBounds_self_of_lt hsize
  · rw [Names.find?_put_of_ne (Ne.symm x.ne_output), houtput]
  · rw [Names.find?_put_of_ne (Ne.symm x.ne_escape), hescape]
  -- the data of the other names lie below the cell that was written
  · intro y e he
    by_cases hxy : y.id = x.id
    · rw [hxy, Names.find?_put_self] at he ⊢
      cases he
      exact ⟨v, rfl, hv.mono (Nat.le_refl _) hlow⟩
    · rw [Names.find?_put_of_ne hxy] at he ⊢
      obtain ⟨w, hw, hstands⟩ := hdata y e he
      exact ⟨w, hw, hstands.mono (Nat.le_refl _) hlow⟩

/-! ## What runs show -/

/-- The run appends a text and leaves other data under the names. -/
def Shows (c : Context) (x : Run Flow) (env : Names Datum) (t : Text) (env' : Names Datum) : Prop :=
  ∀ m, Knows c.globals env m → ∃ m', Gives x m .next m' ∧ Knows c.globals env' m' ∧
    Kept (· = c.globals) m m' ∧ m'.outputText = m.outputText ++ t

lemma gives_execAll_nil : Gives (execAll c []) m .next m := by
  rw [execAll]
  exact .pure

lemma shows_nil : Shows c (execAll c []) env [] env :=
  fun m hm => ⟨m, gives_execAll_nil, hm, .refl, (List.append_nil _).symm⟩

/-- A statement in front of others. -/
lemma Shows.cons {s : Script.Statement} {ss : List Script.Statement} {t u : Text}
    (hs : Shows c (exec c s) env t env₁) (hss : Shows c (execAll c ss) env₁ u env₂) :
    Shows c (execAll c (s :: ss)) env (t ++ u) env₂ := by
  intro m hm
  obtain ⟨m₁, hrun, hm₁, hkept, hout⟩ := hs m hm
  obtain ⟨m₂, hrun', hm₂, hkept', hout'⟩ := hss m₁ hm₁
  refine ⟨m₂, ?_, hm₂, hkept.trans hkept', ?_⟩
  · rw [execAll]
    exact hrun.bind hrun'
  · rw [hout', hout, List.append_assoc]

/-- The statement that does nothing in front of others. -/
lemma Shows.pass {ss : List Script.Statement} {t : Text} (h : Shows c (execAll c ss) env t env₁) :
    Shows c (execAll c (.pass :: ss)) env t env₁ := by
  intro m hm
  obtain ⟨m', hrun, hm'⟩ := h m hm
  refine ⟨m', ?_, hm'⟩
  have hpass : Gives (exec c .pass) m .next m := by
    rw [exec]
    exact .pure
  rw [execAll]
  exact hpass.bind hrun

/-! ## Outputs -/

section

variable {l l' : Nat} {t : Text}

/-- A value that is appended; the name of the output has to be bound. -/
lemma gives_appends {e : Script.Expr} {vs : Names Value} {v : Value} {m₁ m₂ : Memory}
    (hscopes : c.scopes = []) (hframe : m.cells[c.globals]? = some (.frame vs))
    (houtput : vs.find? outputId = some .output) (heval : Gives (eval c e) m v m₁)
    (hwrite : Gives (Script.writeValue v) m₁ () m₂) :
    Gives (exec c (appends l l' e)) m .next m₂ := by
  have hname := Script.gives_valueOf hscopes hframe houtput l'
  rw [appends, exec]
  exact (Script.gives_call hname heval (Script.gives_output hwrite)).bind .pure

/-- A run of text that is appended. -/
lemma gives_literal {vs : Names Value} (hscopes : c.scopes = [])
    (hframe : m.cells[c.globals]? = some (.frame vs))
    (houtput : vs.find? outputId = some .output) :
    Gives (exec c (appends l l' (.constant (.text t)))) m .next
      { m with output := t :: m.output } := by
  have hconstant : Gives (eval c (.constant (.text t))) m (.text .common t) m := by
    rw [eval]
    exact .pure
  exact gives_appends hscopes hframe houtput hconstant (Gives.bind (a := t) .pure (Run.gives_write t))

lemma shows_appends {e : Script.Expr} (hscopes : c.scopes = [])
    (h : ∀ m, Knows c.globals env m → ∃ v m₁ m₂, Gives (eval c e) m v m₁ ∧
      Gives (Script.writeValue v) m₁ () m₂ ∧ Adds m t m₂) :
    Shows c (exec c (appends l l' e)) env t env := by
  intro m hm
  obtain ⟨v, m₁, m₂, heval, hwrite, hadds⟩ := h m hm
  have hkept : Kept (fun _ => False) m m₂ := .of_cells hadds.cells
  have hm₂ : Knows c.globals env m₂ := hm.kept hkept fun _ _ => id
  obtain ⟨vs, hframe, houtput, -⟩ := hm
  exact ⟨m₂, gives_appends hscopes hframe houtput heval hwrite, hm₂,
    hkept.mono fun _ _ => False.elim, hadds.output⟩

/-- A run of text. -/
lemma shows_literal (hscopes : c.scopes = []) :
    Shows c (exec c (appends l l' (.constant (.text t)))) env t env := by
  intro m hm
  have hadds := adds_write (m := m) t
  have hkept : Kept (fun _ => False) m _ := .of_cells hadds.cells
  have hm' := hm.kept hkept fun _ _ => id
  obtain ⟨vs, hframe, houtput, -⟩ := hm
  exact ⟨_, gives_literal hscopes hframe houtput, hm',
    hkept.mono fun _ _ => False.elim, hadds.output⟩

variable {x : Variable} {d : Datum} {j : Nat}

/-- The value of a name. -/
lemma gives_name (hscopes : c.scopes = []) (hd : env.find? x.id = some d)
    (hm : Knows c.globals env m) :
    ∃ v, Gives (eval c (.name j x.id)) m v m ∧ Stands m.cells recursionLimit c.globals d v := by
  obtain ⟨vs, hframe, -, -, hdata⟩ := hm
  obtain ⟨v, hv, hstands⟩ := hdata x d hd
  exact ⟨v, Script.gives_valueOf hscopes hframe hv j, hstands⟩

lemma shows_raw (hscopes : c.scopes = []) (hd : env.find? x.id = some d) :
    Shows c (exec c (appends l l' (.name j x.id))) env (rawText d) env := by
  refine shows_appends hscopes fun m hm => ?_
  obtain ⟨v, heval, hstands⟩ := gives_name hscopes hd hm
  obtain ⟨m', hwrite, hadds⟩ := gives_writeValue hstands
  exact ⟨v, m, m', heval, hwrite, hadds⟩

lemma shows_escaped (hscopes : c.scopes = [])
    (hescape : Script.findHelper c.helpers Helper.escapeId = some Helper.escape)
    (hd : env.find? x.id = some d) {k k' : Nat} :
    Shows c (exec c (appends l l'
      (.call k (.name k' Helper.escapeId) [.plain (.name j x.id)]))) env (escapedText d) env := by
  refine shows_appends hscopes fun m hm => ?_
  obtain ⟨v, heval, hstands⟩ := gives_name (j := j) hscopes hd hm
  obtain ⟨i, marks, hvalue⟩ := gives_escapeValue hstands
  obtain ⟨vs, hframe, -, hname, -⟩ := hm
  have hcall : Gives (c.call (.helper Helper.escapeId) { plain := [v] }) m
      (.text i (escapedText d)) { m with marks } :=
    Script.gives_helper hescape (Gives.bind (a := [("value".toList, v)]) .pure hvalue)
  have hescaped : Gives (eval c (.call k _ _)) m _ _ :=
    Script.gives_call (Script.gives_valueOf hscopes hframe hname k') heval hcall
  refine ⟨_, _, _, hescaped, Gives.bind (a := escapedText d) .pure (Run.gives_write _), rfl, ?_⟩
  exact (adds_write (m := m) _).output

end

/-! ## Choices -/

lemma shows_branch (hscopes : c.scopes = []) {x : Variable} {d : Datum} {j : Nat}
    {ys ns : List Script.Statement} {t : Text} (hd : env.find? x.id = some d)
    (h : Shows c (execAll c (if truth d = true then ys else ns)) env t env₁) :
    Shows c (exec c (.branch (.name j x.id) ys ns)) env t env₁ := by
  intro m hm
  obtain ⟨m', hrun, hm'⟩ := h m hm
  obtain ⟨v, heval, hstands⟩ := gives_name (j := j) hscopes hd hm
  refine ⟨m', ?_, hm'⟩
  rw [exec]
  refine heval.bind ((gives_isTrue hstands).bind ?_)
  split
  · rename_i htrue
    rwa [if_pos htrue] at hrun
  · rename_i hfalse
    rwa [if_neg hfalse] at hrun

/-! ## Loops -/

/-- The items of a list from a place on stand for data. -/
lemma item_of_drop {cells : Array Script.Cell} {a : Address} {vs : List Value} {i : Nat} {d : Datum}
    {ds : List Datum} (h : List.Forall₂ (Stands cells recursionLimit a) (d :: ds) (vs.drop i)) :
    ∃ v, vs[i]? = some v ∧ Stands cells recursionLimit a d v ∧
      List.Forall₂ (Stands cells recursionLimit a) ds (vs.drop (i + 1)) := by
  cases hdrop : vs.drop i with
  | nil =>
    rw [hdrop] at h
    cases h
  | cons v ws =>
    rw [hdrop] at h
    cases h with
    | cons hd hds =>
      have hget : (vs.drop i)[0]? = some v := by rw [hdrop]; rfl
      have htail : vs.drop (i + 1) = ws := by
        rw [← List.drop_drop, hdrop]
        rfl
      rw [List.getElem?_drop, Nat.add_zero] at hget
      exact ⟨v, hget, hd, htail ▸ hds⟩

/-- **The rounds of a loop.**  What is left of the list stands for what is left of the data; neither a
round nor the binding of the name touches the iteration, which lies above the names. -/
theorem gives_rounds (hscopes : c.scopes = []) {x : Variable} {bs : List Script.Statement}
    {body : Names Datum → Shown}
    (hbody : ∀ env t env', body env = some (t, env') → Shows c (execAll c bs) env t env')
    (line : Nat) {it a : Address} {vs : List Value} (ha : a < c.globals) (hit : c.globals < it)
    (ds : List Datum) (i fuel : Nat) (hfuel : ds.length < fuel) {t : Text} {env' : Names Datum}
    (heval : rounds x.id body ds env = some (t, env')) (hm : Knows c.globals env m)
    (hlist : m.cells[a]? = some (.list vs))
    (hds : List.Forall₂ (Stands m.cells recursionLimit a) ds (vs.drop i))
    (hiter : m.cells[it]? = some (.iterator (.list a i))) :
    ∃ m', Gives (Script.forLoop (Run.located line (Script.next it))
        (fun w => do Script.assign c (.name x.id) w; execAll c bs) (execAll c []) fuel) m .next m' ∧
      Knows c.globals env' m' ∧ Kept (fun b => b = c.globals ∨ b = it) m m' ∧
      m'.outputText = m.outputText ++ t := by
  have habove : ∀ b ≤ c.globals, ¬ b = it := fun b hb heq =>
    absurd (heq ▸ hb) (Nat.not_le.2 hit)
  induction ds generalizing env m i fuel t with
  | nil =>
    obtain ⟨n, rfl⟩ := Nat.exists_eq_add_of_lt hfuel
    cases heval
    have hend : vs[i]? = none := by
      cases hdrop : vs.drop i with
      | nil => exact List.getElem?_eq_none (List.drop_eq_nil_iff.1 hdrop)
      | cons v ws =>
        rw [hdrop] at hds
        cases hds
    have hnext := (Script.gives_next_none hiter hlist hend).located line
    have hkept : Kept (· = it) m _ := .store (.iterator (.values [])) rfl
    refine ⟨_, ?_, hm.kept hkept habove, hkept.mono fun _ _ => .inr, (List.append_nil _).symm⟩
    exact hnext.bind gives_execAll_nil
  | cons d ds ih =>
    obtain ⟨n, rfl⟩ := Nat.exists_eq_add_of_lt hfuel
    obtain ⟨v, hv, hstands, hrest⟩ := item_of_drop hds
    obtain ⟨t₁, env₁, t₂, hround, hrounds, rfl⟩ := Shown.andThen_eq_some heval
    -- the iteration moves on, the name is bound, and the body runs
    let m₁ : Memory :=
      { m with cells := m.cells.setIfInBounds it (.iterator (.list a (i + 1))) }
    have hnext : Gives (Run.located line (Script.next it)) m (some v) m₁ :=
      (Script.gives_next_some hiter hlist hv).located line
    have hkept₁ : Kept (· = it) m m₁ := .store _ rfl
    have hm₁ := hm.kept hkept₁ habove
    have hlow₁ : ∀ b < c.globals, m₁.cells[b]? = m.cells[b]? := fun b hb =>
      hkept₁.same b (Nat.lt_trans hb hm.lt_size) (habove b (Nat.le_of_lt hb))
    obtain ⟨m₂, hbind, hm₂, hkept₂, hout₂⟩ := gives_bindName hscopes hm₁ x
      (hstands.mono (Nat.le_of_lt ha) fun b hb => hlow₁ b (Nat.lt_trans hb ha))
    obtain ⟨m₃, hrun, hm₃, hkept₃, hout₃⟩ := hbody _ _ _ hround m₂ hm₂
    have hkept := hkept₂.trans hkept₃
    have hlow : ∀ b < c.globals, m₃.cells[b]? = m.cells[b]? := fun b hb =>
      (hkept.same b (Nat.lt_trans hb hm₁.lt_size) (Nat.ne_of_lt hb)).trans (hlow₁ b hb)
    have hiter₃ : m₃.cells[it]? = some (.iterator (.list a (i + 1))) := by
      have hsize := lt_size_of_some hiter
      have hstored : it < m₁.cells.size := Nat.lt_of_lt_of_le hsize hkept₁.grows
      rw [hkept.same it hstored (Nat.ne_of_gt hit)]
      exact Array.getElem?_setIfInBounds_self_of_lt hsize
    obtain ⟨m', hloop, hm', hkept', hout'⟩ := ih (i + 1) (ds.length + 1 + n)
      (by omega) hrounds hm₃ ((hlow a ha).trans hlist)
      (List.Forall₂.imp (fun _ _ hw => hw.mono (Nat.le_refl a) fun b hb =>
        hlow b (Nat.lt_trans hb ha)) hrest) hiter₃
    have hround₁ : Kept (fun b => b = c.globals ∨ b = it) m m₃ :=
      (hkept₁.mono fun _ _ => .inr).trans (hkept.mono fun _ _ => .inl)
    refine ⟨m', ?_, hm', hround₁.trans hkept', ?_⟩
    · have hassign : Gives (do Script.assign c (.name x.id) v; execAll c bs) m₁ .next m₃ := by
        rw [Script.assign]
        exact hbind.bind hrun
      exact hnext.bind (hassign.bind hloop)
    · rw [hout', hout₃, List.append_assoc]
      exact congrArg (· ++ (t₁ ++ t₂)) (congrArg (fun o => (List.reverse o).flatten) hout₂)

/-- A loop over a list. -/
lemma shows_each (hscopes : c.scopes = []) {x xs : Variable} {bs : List Script.Statement}
    {body : Names Datum → Shown}
    (hbody : ∀ env t env', body env = some (t, env') → Shows c (execAll c bs) env t env')
    {l l' : Nat} {ds : List Datum} {t : Text} (hd : env.find? xs.id = some (.list ds))
    (heval : rounds x.id body ds env = some (t, env₁)) :
    Shows c (exec c (.forEach l (.name x.id) (.name l' xs.id) bs [])) env t env₁ := by
  intro m hm
  obtain ⟨v, hname, hstands⟩ := gives_name (j := l') hscopes hd hm
  have hroom : recursionLimit = 999 + 1 := rfl
  rw [hroom] at hstands
  obtain ⟨a, vs, rfl, ha, hlist, hvs⟩ := hstands
  let m₁ : Memory := { m with cells := m.cells.push (.iterator (.list a 0)) }
  have hkept : Kept (fun _ => False) m m₁ := .alloc _
  have hsize := hm.lt_size
  -- the iteration gets a new cell, so the list and its items stay
  have hlist' := (hkept.same a (lt_size_of_some hlist) id).trans hlist
  have hvs' : List.Forall₂ (Stands m₁.cells recursionLimit a) ds (vs.drop 0) :=
    List.Forall₂.imp (fun _ _ hw => (Stands.succ hw).mono (Nat.le_refl a) fun b hb =>
      hkept.same b (Nat.lt_trans hb (lt_size_of_some hlist)) id) hvs
  have hlength : Gives (Script.roundsOver (.list a)) m₁ (Script.stepLimit + vs.length) m₁ := by
    have hlen : Gives (Script.length? (.list a)) m₁ (some vs.length) m₁ :=
      (Run.gives_listAt hlist').bind .pure
    exact hlen.bind .pure
  have hfuel : ds.length < Script.stepLimit + vs.length := by
    have hpos : 0 < Script.stepLimit := by decide
    have hlen : ds.length = vs.length := hvs.length_eq
    omega
  obtain ⟨m', hloop, hm', hkept', hout⟩ := gives_rounds hscopes hbody l ha hsize ds 0
    _ hfuel heval (hm.kept hkept fun _ _ => id) hlist' hvs' Array.getElem?_push_size
  refine ⟨m', ?_, hm', ?_, hout⟩
  · rw [exec]
    exact hname.bind (((Script.gives_iterate_list a).located l).bind (hlength.bind hloop))
  · have hall : Kept (fun b => b = c.globals ∨ b = m.cells.size) m m' :=
      (hkept.mono fun _ _ => False.elim).trans hkept'
    exact hall.mono fun b hb heq => heq.resolve_right (Nat.ne_of_lt hb)

/-! ## Whole scripts -/

/-- **The script of a tree shows what the tree means.** -/
theorem Compiled.shows {t : Tree} {ss : List Script.Statement} (h : Compiled t ss)
    (hscopes : c.scopes = [])
    (hescape : Script.findHelper c.helpers Helper.escapeId = some Helper.escape)
    {out : Text} (heval : t.eval env = some (out, env₁)) :
    Shows c (execAll c ss) env out env₁ := by
  induction h generalizing env env₁ out with
  | done =>
    cases heval
    exact shows_nil
  | comment _ ih => exact ih heval
  | text l l' _ ih =>
    obtain ⟨t, env₂, r, hfirst, hrest, rfl⟩ := Shown.andThen_eq_some heval
    cases hfirst
    exact (shows_literal hscopes).cons (ih hrest)
  | escaped l l' k k' j _ ih =>
    rw [Tree.eval] at heval
    split at heval
    · rename_i d hd
      obtain ⟨t, env₂, r, hfirst, hrest, rfl⟩ := Shown.andThen_eq_some heval
      cases hfirst
      exact (shows_escaped hscopes hescape hd).cons (ih hrest)
    · cases heval
  | raw l l' j _ ih =>
    rw [Tree.eval] at heval
    split at heval
    · rename_i d hd
      obtain ⟨t, env₂, r, hfirst, hrest, rfl⟩ := Shown.andThen_eq_some heval
      cases hfirst
      exact (shows_raw hscopes hd).cons (ih hrest)
    · cases heval
  | each l l' _ _ ihbody ih =>
    rw [Tree.eval] at heval
    split at heval
    · rename_i ds hd
      obtain ⟨t, env₂, r, hrounds, hrest, rfl⟩ := Shown.andThen_eq_some heval
      exact (shows_each hscopes (fun _ _ _ he => (ihbody he).pass) hd hrounds).cons (ih hrest)
    · cases heval
  | branch l _ _ ihyes ih =>
    rw [Tree.eval] at heval
    split at heval
    · rename_i d hd
      obtain ⟨t, env₂, r, htaken, hrest, rfl⟩ := Shown.andThen_eq_some heval
      refine (shows_branch hscopes hd ?_).cons (ih hrest)
      split
      · rename_i htrue
        rw [if_pos htrue] at htaken
        exact (ihyes htaken).pass
      · rename_i hfalse
        rw [if_neg hfalse] at htaken
        cases htaken
        exact shows_nil
    · cases heval
  | choice l _ _ _ ihyes ihno ih =>
    rw [Tree.eval] at heval
    split at heval
    · rename_i d hd
      obtain ⟨t, env₂, r, htaken, hrest, rfl⟩ := Shown.andThen_eq_some heval
      refine (shows_branch hscopes hd ?_).cons (ih hrest)
      split
      · rename_i htrue
        rw [if_pos htrue] at htaken
        exact (ihyes htaken).pass
      · rename_i hfalse
        rw [if_neg hfalse] at htaken
        exact (ihno htaken).pass
    · cases heval

end ViewEngine.Fragment

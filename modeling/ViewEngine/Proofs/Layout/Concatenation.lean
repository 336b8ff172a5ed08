/-
# Particles of a text that is put together

The particles of a text are replaced from left to right, and what is put in the place of one does not
depend on what stands around it.  So a text that is put together from two parts can be expanded part by
part, if no particle lies across the border between them: the texts, the warnings and the names that
the store is asked for follow each other, and the second part is not looked at if the first one fails.

* `inTurn`: one expansion, and then another;
* `fillPieces_join`: joined pieces are filled in turn;
* `expandParticles_append`: the expansion of a text that is put together.
-/
import ViewEngine.Proofs.Layout.Directive
import ViewEngine.Proofs.Layout.Rules
import ViewEngine.Proofs.Text.Borders

namespace ViewEngine.Layout

/-- A directive is found by the characters that it is written with. -/
lemma named?_local (head : Text) : (named? head).Local where
  append h v := by
    obtain ⟨hname, rfl, hwritten⟩ := named?_eq_some_iff.1 h
    exact named?_eq_some_iff.2 ⟨hname, rfl, hwritten.trans (List.prefix_append _ v)⟩
  left h hlength := by
    obtain ⟨hname, rfl, hwritten⟩ := named?_eq_some_iff.1 h
    exact named?_eq_some_iff.2
      ⟨hname, rfl, List.prefix_of_prefix_length_le hwritten (List.prefix_append _ _) hlength⟩

/-! ## Expansions in turn -/

/-- One expansion, and then another: the second is only begun if the first succeeds. -/
def inTurn (x y : Traced Expansion) : Traced Expansion := do
  let a ← x
  let b ← y
  pure (a ++ b)

section

variable {x y z : Traced Expansion} {e e' : Expansion} {f : ResolveFault}

lemma inTurn_of_ok (hx : x.result = .ok e) :
    inTurn x y = ⟨x.events ++ y.events, y.result.map (e ++ ·)⟩ := by
  rcases x with ⟨events, result⟩
  rcases y with ⟨events', _ | e'⟩
  · cases hx
    simp [inTurn, bind, Traced.andThen, Except.map]
  · cases hx
    simp [inTurn, bind, Traced.andThen, Except.map, pure]

lemma inTurn_of_error (hx : x.result = .error f) : inTurn x y = x := by
  rcases x with ⟨events, result⟩
  cases hx
  rfl

lemma Expansion.append_assoc (a b c : Expansion) : a ++ b ++ c = a ++ (b ++ c) :=
  congrArg₂ Expansion.mk (List.append_assoc a.text b.text c.text)
    (List.append_assoc a.warnings b.warnings c.warnings)

/-- A text in front of which nothing happens. -/
lemma inTurn_pure (a : Expansion) : inTurn (pure a) y = ⟨y.events, y.result.map (a ++ ·)⟩ :=
  inTurn_of_ok rfl

lemma inTurn_nil : inTurn (pure ⟨[], []⟩) y = y := by
  rw [inTurn_pure]
  rcases y with ⟨events, f | e⟩
  · rfl
  · rfl

lemma inTurn_assoc : inTurn (inTurn x y) z = inTurn x (inTurn y z) := by
  rcases hx : x.result with f | a
  · rw [inTurn_of_error hx, inTurn_of_error hx, inTurn_of_error hx]
  rcases hy : y.result with f | b
  · have hboth : (inTurn x y).result = .error f := by
      rw [inTurn_of_ok hx, hy]
      rfl
    rw [inTurn_of_error hboth, inTurn_of_error hy]
  · have hboth : (inTurn x y).result = .ok (a ++ b) := by
      rw [inTurn_of_ok hx, hy]
      rfl
    rw [inTurn_of_ok hboth, inTurn_of_ok hx, inTurn_of_ok hx, inTurn_of_ok hy]
    rcases hz : z.result with f | c
    · simp [Except.map]
    · simp [Except.map, Expansion.append_assoc]

end

variable {fill : Text → Text → Traced Expansion}

lemma fillPieces_plain_cons (t : Text) (ps : List (Text.Piece Text)) :
    fillPieces fill (.plain t :: ps) = inTurn (pure ⟨t, []⟩) (fillPieces fill ps) := rfl

lemma fillPieces_found_cons (n t : Text) (ps : List (Text.Piece Text)) :
    fillPieces fill (.found n t :: ps) = inTurn (fill n t) (fillPieces fill ps) := rfl

/-- A run that two runs make together is filled like the two. -/
lemma fillPieces_plain_append (s t : Text) (ps : List (Text.Piece Text)) :
    fillPieces fill (.plain (s ++ t) :: ps) =
      inTurn (fillPieces fill [.plain s]) (fillPieces fill (.plain t :: ps)) := by
  have hboth : inTurn (pure ⟨s, []⟩) (pure ⟨t, []⟩) = pure ⟨s ++ t, []⟩ := rfl
  have hsingle : fillPieces fill [.plain s] = inTurn (pure ⟨s, []⟩) (pure ⟨[], []⟩) := rfl
  rw [hsingle, fillPieces_plain_cons, fillPieces_plain_cons, inTurn_assoc, inTurn_nil, ← inTurn_assoc,
    hboth]

/-- **Joined pieces are filled in turn.** -/
theorem fillPieces_join (ps qs : List (Text.Piece Text)) :
    fillPieces fill (Text.Piece.join ps qs) = inTurn (fillPieces fill ps) (fillPieces fill qs) := by
  fun_induction Text.Piece.join ps qs with
  | case1 qs => exact inTurn_nil.symm
  | case2 t s qs => exact fillPieces_plain_append t s qs
  | case3 p ps qs _ ih =>
    cases p with
    | plain t => rw [fillPieces_plain_cons, fillPieces_plain_cons, ih, inTurn_assoc]
    | found n t => rw [fillPieces_found_cons, fillPieces_found_cons, ih, inTurn_assoc]

/-! ## The particles of both parts -/

lemma expandParticles_eq_fillPieces (ask : Ask) (origin : Option Text) (stack : List Text)
    (limit : Int) : ∃ fill, ∀ t,
      expandParticles ask t origin stack limit = fillPieces fill (Text.pieces particle? t) := by
  unfold expandParticles
  cases roomFor limit stack with
  | zero => exact ⟨_, fun t => by rw [expandWithin]⟩
  | succ room => exact ⟨_, fun t => by rw [expandWithin]⟩

/-- The parts of a text are expanded in turn. -/
lemma expandParticles_inTurn (ask : Ask) {u v : Text} (origin : Option Text) (stack : List Text)
    (limit : Int) (h : ¬ Text.Straddled particle? u v) :
    expandParticles ask (u ++ v) origin stack limit =
      inTurn (expandParticles ask u origin stack limit)
        (expandParticles ask v origin stack limit) := by
  obtain ⟨fill, hfill⟩ := expandParticles_eq_fillPieces ask origin stack limit
  have hpieces : Text.pieces particle? (u ++ v) =
      Text.Piece.join (Text.pieces particle? u) (Text.pieces particle? v) :=
    Text.pieces_append (named?_sound particleHead) (named?_local particleHead) u h
  rw [hfill, hfill, hfill, hpieces, fillPieces_join]

/-- **Particles are replaced part by part.**  Take a text that is put together from two parts, such
that no particle that is taken in it begins in the first part and ends in the second.  It can be
expanded if and only if both parts can be; the texts, the warnings and the names that the store is asked
for are then those of the first part and behind them those of the second.  If it cannot, the fault
is that of the first part, if this one has a fault, and otherwise that of the second; what the store is
asked for up to the fault is the same. -/
theorem expandParticles_append (ask : Ask) (u v : Text) (origin : Option Text) (stack : List Text)
    (limit : Int) (h : ¬ Text.Straddled particle? u v) :
    let whole := expandParticles ask (u ++ v) origin stack limit
    let first := expandParticles ask u origin stack limit
    let second := expandParticles ask v origin stack limit
    ((∃ e, whole.result = .ok e) ↔ (∃ e, first.result = .ok e) ∧ ∃ e, second.result = .ok e) ∧
    (∀ e₁ e₂, first.result = .ok e₁ → second.result = .ok e₂ →
      whole.result = .ok ⟨e₁.text ++ e₂.text, e₁.warnings ++ e₂.warnings⟩ ∧
        whole.asked = first.asked ++ second.asked) ∧
    (∀ f, first.result = .error f →
      whole.result = .error f ∧ whole.asked = first.asked) ∧
    ∀ e f, first.result = .ok e → second.result = .error f →
      whole.result = .error f ∧ whole.asked = first.asked ++ second.asked := by
  intro whole first second
  have hwhole : whole = inTurn first second := expandParticles_inTurn ask origin stack limit h
  have hok : ∀ e, first.result = .ok e → whole.result = second.result.map (e ++ ·) ∧
      whole.asked = first.asked ++ second.asked := by
    intro e hfirst
    rw [hwhole, inTurn_of_ok hfirst]
    exact ⟨rfl, List.filterMap_append⟩
  have herror : ∀ f, first.result = .error f → whole.result = .error f ∧
      whole.asked = first.asked := by
    intro f hfirst
    rw [hwhole, inTurn_of_error hfirst]
    exact ⟨hfirst, rfl⟩
  refine ⟨⟨?_, ?_⟩, ?_, herror, ?_⟩
  · rintro ⟨e, he⟩
    rcases hfirst : first.result with f | e₁
    · rw [(herror f hfirst).1] at he
      cases he
    · rw [(hok e₁ hfirst).1] at he
      obtain ⟨e₂, hsecond, -⟩ := ok_of_map he
      exact ⟨⟨e₁, rfl⟩, e₂, hsecond⟩
  · rintro ⟨⟨e₁, hfirst⟩, e₂, hsecond⟩
    exact ⟨e₁ ++ e₂, by rw [(hok e₁ hfirst).1, hsecond]; rfl⟩
  · intro e₁ e₂ hfirst hsecond
    rw [(hok e₁ hfirst).1, hsecond]
    exact ⟨rfl, (hok e₁ hfirst).2⟩
  · intro e f hfirst hsecond
    rw [(hok e hfirst).1, hsecond]
    exact ⟨rfl, (hok e hfirst).2⟩

/-- The name of the first particle holds the head of another one, which would go on behind the border;
the second part has a missing particle. -/
theorem expandParticles_append_overlapping :
    let ask : Ask := fun n =>
      if n = "x@particle(" then .ok "[@particle('dot')]"
      else if n = "dot" then .ok "."
      else .error (.missing n)
    let u : Text := "a@particle('x@particle(')"
    let v : Text := "y')@particle('icon')"
    ¬ Text.Straddled particle? u v ∧
      (expandParticles ask (u ++ v) none [] 50).result =
        .ok ⟨"a[.]y')", [.missingParticle "icon" "<string>"]⟩ ∧
      (expandParticles ask (u ++ v) none [] 50).asked =
        [("x@particle(" : Text), ("dot" : Text), ("icon" : Text)] := by
  intro ask u v
  have hpieces : Text.pieces particle? (u ++ v) = [.plain "a",
      .found "x@particle(" "@particle('x@particle(')", .plain "y')",
      .found "icon" "@particle('icon')"] := by
    decide +kernel
  have hborder : ¬ Text.Straddled particle? u v := by
    rintro ⟨before, n, w, after, hsplit, hbegin, hend⟩
    rw [hpieces] at hsplit
    -- the match is the second of the pieces or the fourth
    rcases before with _ | ⟨p, _ | ⟨q, _ | ⟨r, _ | ⟨s, before⟩⟩⟩⟩
    · cases hsplit
    · cases hsplit
      exact absurd hend (by decide)
    · cases hsplit
    · cases hsplit
      exact absurd hbegin (by decide)
    · simp at hsplit
  obtain ⟨-, hboth, -⟩ := expandParticles_append ask u v none [] 50 hborder
  have hfirst : (expandParticles ask u none [] 50).result = .ok ⟨"a[.]", []⟩ := by decide +kernel
  have hsecond : (expandParticles ask v none [] 50).result =
      .ok ⟨"y')", [.missingParticle "icon" "<string>"]⟩ := by decide +kernel
  obtain ⟨hresult, hasked⟩ := hboth _ _ hfirst hsecond
  refine ⟨hborder, hresult, hasked.trans ?_⟩
  decide +kernel

end ViewEngine.Layout

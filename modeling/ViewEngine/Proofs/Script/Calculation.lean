/-
# Calculations are orderly

Arithmetic, the joining and repeating of sequences, and comparisons never touch the names of a script:
they look at their operands, perhaps put a new list into the memory, and fail with a text.  So the
failures of a helper that calculates with the values it is given can be told like any other.

* `Number.orderly_apply`: an operation on two numbers;
* `orderly_operate`: an operation on two values, unless a text is filled in;
* `orderly_equal`, `orderly_ordered`: comparisons;
* `orderly_toInt`: the whole number that a value stands for;
* `orderly_valueOf`: the value of a name, wherever it is looked up.
-/
import Mathlib.Tactic.Common
import Mathlib.Tactic.Lemma
import ViewEngine.Proofs.Script.Orderly
import ViewEngine.Script.Operation

namespace ViewEngine.Script

open Run (Gives Looks Orderly looks_dictAt looks_faultAt looks_frameAt looks_listAt)

namespace Run.Orderly

lemma newFloat (x : Float) : Orderly (Run.newFloat x) := mark.bind fun _ => pure _

lemma newList (vs : List Value) : Orderly (Run.newList vs) := (alloc _).bind fun _ => pure _

end Run.Orderly

/-! ## Numbers -/

namespace Number

lemma orderly_rounded (n : Int) : Orderly (rounded n) := by
  unfold rounded
  split
  · exact .pure _
  · exact .fail _ _

lemma orderly_toFloat (n : Number) : Orderly n.toFloat := by
  cases n with
  | int n => exact orderly_rounded n
  | float x => exact .pure x

lemma orderly_specialPower {x y : Float} {r : Run Value} (h : specialPower? x y = some r) :
    Orderly r := by
  unfold specialPower? at h
  repeat' split at h
  all_goals cases h
  all_goals first | exact .newFloat _ | exact .fail _ _

/-- A whole number of two digits has a text. -/
lemma gives_intText_small {n : Int} {m : Memory} (h : n.natAbs < 100) :
    Gives (intText n) m (Text.ofInt n) m := by
  have hpow : ∀ i j, i ≤ j → Nat.pow 10 i ≤ Nat.pow 10 j :=
    fun _ _ hij => Nat.pow_le_pow_right (by decide) hij
  have hlimit : 100 ≤ textLimit := by
    unfold textLimit
    exact hpow 2 4300 (by decide)
  rw [intText, if_pos (Nat.lt_of_lt_of_le h hlimit)]
  exact .pure

/-- The failure of a power that is out of range has a text. -/
lemma told_outOfRange (i j : Identity) (t : Text) (m : Memory) :
    Fault.Told m { kind := .overflow, arguments := [.int i 34, .text j t] } where
  unplaced := rfl
  text := by
    have hcode : Value.quoted (.int i 34) = intText 34 := by
      unfold Value.quoted recursionLimit quotedWithin
      rfl
    have hquoted : List.Forall₂ (fun v s => Gives (Value.quoted v) m s m)
        [.int i 34, .text j t] [Text.ofInt 34, Text.quoted t] :=
      .cons (hcode ▸ gives_intText_small (by decide)) (.cons .pure .nil)
    have hgives := (Gives.mapM hquoted).bind
      (f := fun ts => (pure (tupleText ts) : Run Text)) .pure
    exact ⟨_, congrArg Prod.fst hgives⟩

lemma orderly_floatPower (x y : Float) : Orderly (floatPower x y) := by
  unfold floatPower
  refine .ite (.newFloat _) ?_
  split
  · next r h => exact orderly_specialPower h
  · refine .ite (fun m => ?_) (.newFloat _)
    obtain ⟨i, k, hcode⟩ := Run.gives_newInt (m := m) 34
    obtain ⟨j, l, htext⟩ := Run.gives_newText (m := { m with marks := k })
      "Numerical result out of range"
    refine ((Orderly.newInt 34) m).bind fun v m₁ hv _ => ((Orderly.newText _) m₁).bind
      fun w m₂ hw _ => ?_
    cases hcode.symm.trans hv
    cases htext.symm.trans hw
    exact ⟨.refl _, fun f hf => by cases hf; exact told_outOfRange i j _ _⟩

lemma orderly_intQuotient (a b : Int) : Orderly (intQuotient a b) := by
  refine .ite (.fail _ _) ?_
  split
  · exact .newFloat _
  · exact .fail _ _

lemma orderly_onInts (op : BinaryOp) (a b : Int) : Orderly (onInts op a b) := by
  cases op with
  | divide => exact orderly_intQuotient a b
  | floorDivide => exact .ite (.fail _ _) (.newInt _)
  | remainder => exact .ite (.fail _ _) (.newInt _)
  | power =>
    refine .ite (.newInt _) ?_
    exact (orderly_rounded a).bind fun _ => (orderly_rounded b).bind fun _ => orderly_floatPower _ _
  | _ => exact .newInt _

lemma orderly_onFloats (op : BinaryOp) (x y : Float) : Orderly (onFloats op x y) := by
  cases op with
  | divide => exact .ite (.fail _ _) (.newFloat _)
  | floorDivide => exact .ite (.fail _ _) (.newFloat _)
  | remainder => exact .ite (.fail _ _) (.newFloat _)
  | power => exact orderly_floatPower x y
  | _ => exact .newFloat _

/-- An operation on two numbers. -/
theorem orderly_apply (op : BinaryOp) (a b : Number) : Orderly (a.apply op b) := by
  have hfloats : Orderly (do onFloats op (← a.toFloat) (← b.toFloat)) :=
    (orderly_toFloat a).bind fun _ => (orderly_toFloat b).bind fun _ => orderly_onFloats op _ _
  cases a with
  | float x => exact hfloats
  | int m =>
    cases b with
    | float y => exact hfloats
    | int n => exact orderly_onInts op m n

end Number

lemma orderly_exact (v : Value) (n : Int) : Orderly (v.exact n) := by
  unfold Value.exact
  split
  · exact .pure _
  · exact .newInt _

/-! ## Joining and repeating -/

section

variable {α : Type}

lemma orderly_unsupported (op : BinaryOp) (inPlace : Bool) (v w : Value) :
    Orderly (unsupported op inPlace v w : Run α) :=
  (looks_typeName v).orderly.bind fun _ => (looks_typeName w).orderly.bind fun _ => .fail _ _

lemma orderly_onlyJoins (kind : Text) (w : Value) : Orderly (onlyJoins kind w : Run α) :=
  (looks_typeName w).orderly.bind fun _ => .fail _ _

end

lemma orderly_timesOf (w : Value) : Orderly (timesOf w) := by
  unfold timesOf
  split
  · exact .ite (.fail _ _) (.pure _)
  · exact (looks_typeName w).orderly.bind fun _ => .fail _ _

lemma orderly_repeatCount (length : Nat) (w : Value) : Orderly (repeatCount length w) :=
  (orderly_timesOf w).bind fun _ => .ite (.raise _) (.pure _)

lemma orderly_textCount (length : Nat) (w : Value) : Orderly (textCount length w) :=
  (orderly_timesOf w).bind fun _ => .ite (.fail _ _) (orderly_repeatCount length w)

/-- A sequence that is repeated is a new one. -/
lemma orderly_repeat {v w : Value} {r : Run Value} (h : repeat? false v w = some r) : Orderly r := by
  unfold repeat? at h
  split at h
  all_goals cases h
  · exact (orderly_textCount _ w).bind fun _ => .ite (.pure _) (.newText _)
  · exact (orderly_repeatCount _ w).bind fun _ => .ite (.pure _) (.newTuple _)
  · exact (looks_listAt _).orderly.bind fun _ => (orderly_repeatCount _ w).bind fun _ => .newList _

lemma orderly_join (v w : Value) : Orderly (join false v w) := by
  unfold join
  split
  · exact .ite (.pure _) (.ite (.pure _) (.newText _))
  · exact orderly_onlyJoins _ _
  · exact .ite (.pure _) (.ite (.pure _) (.newTuple _))
  · exact orderly_onlyJoins _ _
  · rw [if_neg (by decide)]
    split
    · exact (looks_listAt _).orderly.bind fun _ => (looks_listAt _).orderly.bind fun _ => .newList _
    · exact orderly_onlyJoins _ _
  · exact orderly_unsupported _ _ _ _

lemma looks_refusesRepeating (v : Value) : Looks v.refusesRepeating := by
  cases v with
  | fault a => exact (looks_faultAt a).bind fun f => by split <;> exact .pure _
  | _ => exact .pure _

lemma orderly_product (v w : Value) : Orderly (product false v w) := by
  unfold product
  split
  · next r h => exact orderly_repeat h
  · have hrest := orderly_unsupported (α := Value) .multiply false v w
    split
    · next r h =>
      exact (looks_refusesRepeating v).orderly.bind fun _ => .ite hrest (orderly_repeat h)
    · exact (looks_refusesRepeating v).orderly.bind fun _ => .ite hrest hrest

/-- An operation on two values that does not replace the left one.  The remainder of a text is the
text with its places filled in, for which the values are asked for their texts in many ways. -/
theorem orderly_operate {op : BinaryOp} {v : Value} (w : Value)
    (h : ∀ i t, op = .remainder → v ≠ .text i t) : Orderly (operate op false v w) := by
  unfold operate
  split
  · exact .ite (orderly_exact v _) (Number.orderly_onInts _ _ _)
  · exact Number.orderly_apply _ _ _
  · split
    · exact orderly_join v w
    · exact orderly_product v w
    · exact absurd rfl (h _ _ rfl)
    · exact orderly_unsupported _ _ _ _

/-! ## Comparisons -/

section

variable {eq : Value → Value → Run Bool} (heq : ∀ a b, Orderly (eq a b))

include heq

lemma orderly_allEqual (as bs : List Value) : Orderly (allEqual eq as bs) := by
  induction as generalizing bs with
  | nil => cases bs <;> exact .pure _
  | cons a as ih =>
    cases bs with
    | nil => exact .pure _
    | cons b bs => exact (heq a b).bind fun _ => .ite (ih bs) (.pure _)

lemma orderly_findEntry (key : Value) (es : List (Value × Value)) :
    Orderly (findEntry eq key es) := by
  induction es with
  | nil => exact .pure _
  | cons e es ih => exact (heq _ _).bind fun _ => .ite (.pure _) ih

lemma orderly_allEntries (others es : List (Value × Value)) :
    Orderly (allEntries eq others es) := by
  induction es with
  | nil => exact .pure _
  | cons e es ih =>
    refine (orderly_findEntry heq _ _).bind fun v => ?_
    split
    · exact (heq _ _).bind fun _ => .ite ih (.pure _)
    · exact .pure _

end

/-- Lists and dictionaries are refused as keys, also behind other elements of a tuple. -/
lemma orderly_demandKey (v : Value) : Orderly (demandKey v) := by
  induction v using demandKey.induct with
  | case5 i a as ihfirst ihrest =>
    rw [demandKey]
    exact ihfirst.bind fun _ => ihrest
  | case2 | case3 =>
    rw [demandKey]
    exact (looks_typeName _).orderly.bind fun _ => .fail _ _
  | case4 i p a hp =>
    rw [demandKey]
    exact (looks_typeName _).orderly.bind fun _ => .fail _ _
    exact hp
  | case1 | case6 =>
    rw [demandKey]
    exact .pure _
    all_goals assumption

section

variable {eq : Value → Value → Run Bool} (heq : ∀ a b, Orderly (eq a b))

include heq

lemma orderly_inView (q : DictPart) (es : List (Value × Value)) (v : Value) :
    Orderly (inView eq q es v) := by
  unfold inView
  split
  · refine (orderly_demandKey _).bind fun _ => (orderly_findEntry heq _ _).bind fun x => ?_
    split
    · exact heq _ _
    · exact .pure _
  · exact .pure _
  · exact (orderly_demandKey _).bind fun _ => (orderly_findEntry heq _ _).bind fun _ => .pure _

lemma orderly_viewWithin (p q : DictPart) (others es : List (Value × Value)) :
    Orderly (viewWithin eq p q others es) := by
  induction es with
  | nil => exact .pure _
  | cons e es ih =>
    exact (orderly_dictPart p e).bind fun _ => (orderly_inView heq q others _).bind fun _ =>
      .ite ih (.pure _)

end

lemma orderly_equalWithin (room : Nat) (v w : Value) : Orderly (equalWithin room v w) := by
  induction room generalizing v w with
  | zero => exact orderly_tooDeep _
  | succ n ih =>
    have hinside : ∀ a b : Value,
        Orderly (if a.isSame b then return true else equalWithin n a b) :=
      fun a b => .ite (.pure _) (ih a b)
    unfold equalWithin
    dsimp only
    split
    · exact .pure _
    · split
      · exact .pure _
      · exact orderly_allEqual hinside _ _
      · refine (looks_listAt _).orderly.bind fun _ => (looks_listAt _).orderly.bind fun _ => ?_
        exact .ite (orderly_allEqual hinside _ _) (.pure _)
      · refine (looks_dictAt _).orderly.bind fun _ => (looks_dictAt _).orderly.bind fun _ => ?_
        exact .ite (orderly_allEntries hinside _ _) (.pure _)
      · refine .ite (.pure _) ?_
        refine (looks_dictAt _).orderly.bind fun _ => (looks_dictAt _).orderly.bind fun _ => ?_
        exact .ite (orderly_viewWithin hinside _ _ _ _) (.pure _)
      all_goals exact .pure _

/-- Equality of values. -/
theorem orderly_equal (v w : Value) : Orderly (equal v w) := orderly_equalWithin _ v w

lemma orderly_equalInside (v w : Value) : Orderly (equalInside v w) :=
  .ite (.pure _) (orderly_equal v w)

lemma orderly_noOrder (c : Comparison) (v w : Value) : Orderly (noOrder c v w) :=
  (looks_typeName v).orderly.bind fun _ => (looks_typeName w).orderly.bind fun _ => .fail _ _

lemma orderly_firstDifference {decide : Value → Value → Run Bool}
    (hdecide : ∀ a b, Orderly (decide a b)) (c : Comparison) (as bs : List Value) :
    Orderly (firstDifference decide c as bs) := by
  induction as generalizing bs with
  | nil => cases bs <;> exact .pure _
  | cons a as ih =>
    cases bs with
    | nil => exact .pure _
    | cons b bs => exact (orderly_equalInside a b).bind fun _ => .ite (ih bs) (hdecide a b)

lemma orderly_orderedWithin (room : Nat) (c : Comparison) (v w : Value) :
    Orderly (orderedWithin room c v w) := by
  induction room generalizing v w with
  | zero => exact orderly_tooDeep _
  | succ n ih =>
    unfold orderedWithin
    split
    · exact .pure _
    · split
      · exact .pure _
      · exact orderly_firstDifference ih c _ _
      · refine (looks_listAt _).orderly.bind fun _ => (looks_listAt _).orderly.bind fun _ => ?_
        exact orderly_firstDifference ih c _ _
      · refine .ite (orderly_noOrder c _ _) ?_
        refine (looks_dictAt _).orderly.bind fun _ => (looks_dictAt _).orderly.bind fun _ => ?_
        have hwithin := fun p q => orderly_viewWithin orderly_equalInside p q
        exact .ite (.pure _) (.ite (hwithin _ _ _ _) (hwithin _ _ _ _))
      · exact orderly_noOrder c _ _

/-- An order comparison of values. -/
theorem orderly_ordered (c : Comparison) (v w : Value) : Orderly (ordered c v w) :=
  orderly_orderedWithin _ c v w

/-! ## Whole numbers -/

lemma orderly_readInt (base : Nat) (t : Text) : Orderly (readInt base t) := by
  unfold readInt
  dsimp only
  split
  · exact .ite (.fail _ _) (.newInt _)
  · exact .fail _ _

/-- The whole number that a value stands for. -/
theorem orderly_toInt (v : Value) : Orderly (toInt v) := by
  unfold toInt
  split
  · exact orderly_readInt _ _
  · split
    · exact .newInt _
    · exact .fail _ _
    · exact .fail _ _
  · split
    · exact orderly_exact v _
    · exact (looks_typeName v).orderly.bind fun _ => .fail _ _

/-! ## Names -/

lemma orderly_nameInScopes (here : Bool) (id : Text) (ss : List Scope) :
    Orderly (nameInScopes here id ss) := by
  induction ss generalizing here with
  | nil => exact .pure _
  | cons s ss ih =>
    unfold nameInScopes
    refine .ite ((looks_frameAt _).orderly.bind fun vs => ?_) (ih false)
    split
    · exact .pure _
    · exact .ite (.fail _ _) (.fail _ _)

lemma orderly_lookUp (key : Value) (es : List (Value × Value)) : Orderly (lookUp key es) :=
  (orderly_demandKey key).bind fun _ => orderly_findEntry orderly_equalInside key es

/-- A text is no place in a list. -/
lemma orderly_elementAt_text (vs : List Value) (kind missing : Text) (i : Identity) (t : Text) :
    Orderly (elementAt vs kind missing (.text i t)) := by
  have hplace : Orderly (placeOf vs.length kind missing (.text i t)) :=
    (looks_typeName (.text i t)).orderly.bind fun _ => .fail _ _
  refine hplace.bind fun n => ?_
  split
  · exact .pure _
  · exact .fail _ _

/-- Something is looked up under a text. -/
lemma orderly_lookAt_text (v : Value) (i : Identity) (t : Text) :
    Orderly (lookAt v (.text i t)) := by
  have hrefused : Orderly (do
      Run.fail .type ((← ownerName v) ++ " is not subscriptable") : Run Value) := by
    refine Orderly.bind ?_ fun _ => .fail _ _
    have htype : Orderly v.typeName := (looks_typeName v).orderly
    cases v with
    | kind k => exact .pure _
    | native f => exact htype.bind fun _ => .ite (.pure _) (.pure _)
    | _ => exact htype.bind fun _ => .pure _
  have htype := (looks_typeName (.text i t)).orderly
  cases v with
  | text j s => exact htype.bind fun _ => .fail _ _
  | list a => exact (looks_listAt a).orderly.bind fun vs => orderly_elementAt_text vs _ _ i t
  | tuple j vs => exact orderly_elementAt_text vs _ _ i t
  | range => exact htype.bind fun _ => .fail _ _
  | dict a =>
    refine (looks_dictAt a).orderly.bind fun es => (orderly_lookUp _ es).bind fun v => ?_
    split
    · exact .pure _
    · exact fun m => ⟨.refl _, fun f hf => by cases hf; exact told_message _ _ _ m⟩
  | _ => exact hrefused

lemma orderly_standardValue (builtins : Option Value) (id : Text) :
    Orderly (standardValue builtins id) := by
  unfold standardValue
  split
  · split
    · exact .pure _
    · exact .fail _ _
  · refine (looks_dictAt _).orderly.bind fun es => (orderly_lookUp _ es).bind fun v => ?_
    split
    · exact .pure _
    · exact .fail _ _
  · exact orderly_lookAt_text _ _ _

/-- **The value of a name**: it is found in a scope, among the names of the script or elsewhere, or it
is said that there is none. -/
theorem orderly_valueOf (c : Context) (id : Text) : Orderly (c.valueOf id) := by
  refine (orderly_nameInScopes true id c.scopes).bind fun v => ?_
  split
  · exact .pure _
  · refine (looks_frameAt _).orderly.bind fun vs => ?_
    split
    · exact .pure _
    · exact orderly_standardValue _ _

end ViewEngine.Script

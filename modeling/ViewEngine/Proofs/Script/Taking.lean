/-
# What parsers of expressions take

A parser that succeeds has taken tokens from the front of those it was given.  Inside an expression no
line ends, and no expression ends in a colon.  A parser may be one of a part of an expression, which is
perhaps empty or ends in a colon, so this is said with properties of tokens that go with each other
(`Calm`, `Idle`, `Solid`, `Firm`), and with rules for parsers behind each other.

* `Takes.bind`, `Takes.accept`, …: what parsers behind each other take;
* `steady`: what the parsers of expressions take.
-/
import Mathlib.Tactic.Common
import Mathlib.Tactic.Lemma
import ViewEngine.Proofs.Script.Parsing

namespace ViewEngine.Script.Parser

variable {α β : Type}

/-! ## Properties of tokens -/

/-- No line ends. -/
def Calm (u : List TokenKind) : Prop := .newline ∉ u

/-- There are none. -/
def Idle (u : List TokenKind) : Prop := u = []

/-- No line ends, and no colon stands last. -/
def Solid (u : List TokenKind) : Prop := .newline ∉ u ∧ u.getLast? ≠ some (op ":")

/-- No line ends, and something that is no colon stands last. -/
def Firm (u : List TokenKind) : Prop := .newline ∉ u ∧ ∃ k, u.getLast? = some k ∧ k ≠ op ":"

section

variable {u v : List TokenKind} {k : TokenKind}

lemma Firm.solid (h : Firm u) : Solid u := by
  obtain ⟨hu, k, hk, hne⟩ := h
  exact ⟨hu, fun heq => hne (Option.some.inj (hk.symm.trans heq))⟩

lemma Solid.calm (h : Solid u) : Calm u := h.1

lemma Firm.calm (h : Firm u) : Calm u := h.1

lemma solid_nil : Solid [] := ⟨List.not_mem_nil, by simp⟩

lemma Calm.append (hu : Calm u) (hv : Calm v) : Calm (u ++ v) := by
  unfold Calm
  rw [List.mem_append, not_or]
  exact ⟨hu, hv⟩

lemma Calm.append_firm (hu : Calm u) (hv : Firm v) : Firm (u ++ v) := by
  obtain ⟨hv, k, hk, hne⟩ := hv
  refine ⟨hu.append hv, k, ?_, hne⟩
  rw [List.getLast?_append, hk]
  rfl

lemma Solid.append (hu : Solid u) (hv : Solid v) : Solid (u ++ v) := by
  refine ⟨hu.calm.append hv.calm, ?_⟩
  rw [List.getLast?_append]
  cases hlast : v.getLast? with
  | none => exact hu.2
  | some k => exact fun h => hv.2 (hlast.trans h)

lemma Firm.append_solid (hu : Firm u) (hv : Solid v) : Firm (u ++ v) := by
  obtain ⟨hu, k, hk, hne⟩ := hu
  refine ⟨Calm.append hu hv.calm, ?_⟩
  rw [List.getLast?_append]
  cases hlast : v.getLast? with
  | none => exact ⟨k, hk, hne⟩
  | some k' => exact ⟨k', rfl, fun h => hv.2 (hlast.trans (congrArg some h))⟩

lemma Firm.append (hu : Firm u) (hv : Firm v) : Firm (u ++ v) := hu.append_solid hv.solid

lemma firm_single (hk : k ≠ .newline) (hcolon : k ≠ op ":") : Firm [k] :=
  ⟨by simpa using Ne.symm hk, k, rfl, hcolon⟩

lemma calm_single (hk : k ≠ .newline) : Calm [k] := by
  unfold Calm
  simpa using Ne.symm hk

end

/-! ## What is taken -/

/-- If the parser succeeds, it has taken tokens with a property. -/
def Takes (p : Parser α) (ts : List Token) (Q : List TokenKind → Prop) : Prop :=
  ∀ a rest, p ts = some (a, rest) → ∃ used, ts = used ++ rest ∧ Q (used.map (·.kind))

/-- Whatever tokens it is given. -/
def Always (p : Parser α) (Q : List TokenKind → Prop) : Prop := ∀ ts, Takes p ts Q

section

variable {p : Parser α} {f : α → Parser β} {ts : List Token} {Q R S : List TokenKind → Prop}
  {k : TokenKind}

lemma Takes.mono (h : Takes p ts Q) (hQ : ∀ u, Q u → R u) : Takes p ts R := by
  intro a rest ha
  obtain ⟨used, hts, hused⟩ := h a rest ha
  exact ⟨used, hts, hQ _ hused⟩

lemma Always.mono (h : Always p Q) (hQ : ∀ u, Q u → R u) : Always p R := fun ts => (h ts).mono hQ

lemma always_fail : Always (fail : Parser α) Q := fun _ _ _ h => by cases h

lemma always_of_eq_fail (h : p = fail) : Always p Q := h ▸ always_fail

lemma always_pure_idle (a : α) : Always (pure a) Idle := by
  rintro ts b rest ⟨⟩
  exact ⟨[], rfl, rfl⟩

lemma always_pure {a : α} (h : Q []) : Always (pure a) Q := by
  rintro ts b rest ⟨⟩
  exact ⟨[], rfl, h⟩

/-- One parser after another. -/
theorem Takes.bind (hp : Takes p ts Q) (hf : ∀ a, Always (f a) R)
    (hS : ∀ u v, Q u → R v → S (u ++ v)) : Takes (p >>= f) ts S := by
  intro b rest h
  rw [bind_apply, Option.bind_eq_some_iff] at h
  obtain ⟨⟨a, mid⟩, ha, hb⟩ := h
  obtain ⟨used, rfl, hused⟩ := hp a mid ha
  obtain ⟨used', rfl, hused'⟩ := hf a mid b rest hb
  refine ⟨used ++ used', by rw [List.append_assoc], ?_⟩
  rw [List.map_append]
  exact hS _ _ hused hused'

lemma Always.bind (hp : Always p Q) (hf : ∀ a, Always (f a) R)
    (hS : ∀ u v, Q u → R v → S (u ++ v)) : Always (p >>= f) S :=
  fun ts => (hp ts).bind hf hS

lemma Takes.here {f : Nat → Parser β} (h : ∀ l, Takes (f l) ts S) : Takes (here >>= f) ts S :=
  h _

lemma Takes.peek {f : Option TokenKind → Parser β}
    (h : ∀ k, ts.head?.map (·.kind) = k → Takes (f k) ts S) : Takes (peek >>= f) ts S :=
  h _ rfl

lemma Takes.peekSecond {f : Option TokenKind → Parser β}
    (h : ∀ k, ts.tail.head?.map (·.kind) = k → Takes (f k) ts S) : Takes (peekSecond >>= f) ts S :=
  h _ (by rw [List.head?_tail])

lemma Takes.atToken {f : Bool → Parser β} (h : ∀ b, Takes (f b) ts S) :
    Takes (atToken k >>= f) ts S :=
  h _

/-- A parser that takes nothing is passed over. -/
lemma Takes.idle_bind (hp : Always p Idle) (hf : ∀ a, Takes (f a) ts S) :
    Takes (p >>= f) ts S := by
  intro b rest h
  rw [bind_apply, Option.bind_eq_some_iff] at h
  obtain ⟨⟨a, mid⟩, ha, hb⟩ := h
  obtain ⟨used, rfl, hused⟩ := hp ts a mid ha
  obtain rfl := List.map_eq_nil_iff.1 hused
  exact hf a b rest hb

/-- The next token, which is known, is taken. -/
lemma Takes.skip {f : Unit → Parser β} (hk : ts.head?.map (·.kind) = some k)
    (hf : Takes (f ()) ts.tail R) (hS : ∀ v, R v → S (k :: v)) : Takes (skip >>= f) ts S := by
  cases ts with
  | nil => cases hk
  | cons t ts =>
    cases hk
    intro b rest h
    obtain ⟨used, hts, hused⟩ := hf b rest h
    exact ⟨t :: used, congrArg (t :: ·) hts, hS _ hused⟩

lemma accept_of_eq (hk : ts.head?.map (·.kind) = some k) :
    accept k ts = (Parser.skip >>= fun _ => pure true) ts := by
  have hat : atToken k ts = some (true, ts) := by rw [atToken_apply, hk, decide_eq_true rfl]
  show (atToken k >>= _) ts = _
  rw [bind_apply, hat]
  rfl

lemma accept_of_ne (hk : ts.head?.map (·.kind) ≠ some k) : accept k ts = some (false, ts) := by
  have hat : atToken k ts = some (false, ts) := by rw [atToken_apply, decide_eq_false hk]
  show (atToken k >>= _) ts = _
  rw [bind_apply, hat]
  rfl

/-- A token is taken if it comes next. -/
lemma Takes.accept {p q : Parser β} (hp : Always p R) (hS : ∀ v, R v → S (k :: v))
    (hq : Takes q ts S) : Takes (accept k >>= fun b => if b = true then p else q) ts S := by
  intro b rest h
  rw [bind_apply] at h
  by_cases hk : ts.head?.map (·.kind) = some k
  · rw [accept_of_eq hk] at h
    cases ts with
    | nil => cases hk
    | cons t ts =>
      cases hk
      obtain ⟨used, rfl, hused⟩ := hp ts b rest h
      exact ⟨t :: used, rfl, hS _ hused⟩
  · rw [accept_of_ne hk] at h
    exact hq b rest h

/-- The next token has to be of a kind, and is taken. -/
lemma Takes.expect {f : Unit → Parser β} (hf : Always (f ()) R) (hS : ∀ v, R v → S (k :: v)) :
    Takes (expect k >>= f) ts S := by
  intro b rest h
  by_cases hk : ts.head?.map (·.kind) = some k
  · have hexpect : Parser.expect k ts = Parser.skip ts := by
      have hat : Parser.atToken k ts = some (true, ts) := by
        rw [atToken_apply, hk, decide_eq_true rfl]
      show (Parser.atToken k >>= _) ts = _
      rw [bind_apply, hat]
      rfl
    rw [bind_apply, hexpect] at h
    exact Takes.skip hk (hf _) hS b rest h
  · have hexpect : Parser.expect k ts = none := by
      have hat : Parser.atToken k ts = some (false, ts) := by rw [atToken_apply, decide_eq_false hk]
      show (Parser.atToken k >>= _) ts = _
      rw [bind_apply, hat]
      rfl
    rw [bind_apply, hexpect] at h
    cases h

end

/-! ## Expressions -/

section

variable {k : TokenKind} {v : List TokenKind}

lemma Solid.cons (hk : k ≠ .newline) (hcolon : k ≠ op ":") (h : Solid v) : Solid (k :: v) :=
  ((firm_single hk hcolon).append_solid h).solid

lemma Solid.firm_cons (hk : k ≠ .newline) (hcolon : k ≠ op ":") (h : Solid v) : Firm (k :: v) :=
  (firm_single hk hcolon).append_solid h

/-- A colon in front of something that is firm. -/
lemma Firm.cons (hk : k ≠ .newline) (h : Firm v) : Firm (k :: v) := (calm_single hk).append_firm h

end

section

variable {p : Parser α} {f : α → Parser β} {ts : List Token}

lemma always_nothing {a : α} : Always (pure a) Solid := always_pure solid_nil

lemma Takes.firm_bind (hp : Takes p ts Firm) (hf : ∀ a, Always (f a) Solid) :
    Takes (p >>= f) ts Firm :=
  hp.bind hf fun _ _ => Firm.append_solid

lemma Takes.solid_bind (hp : Takes p ts Solid) (hf : ∀ a, Always (f a) Solid) :
    Takes (p >>= f) ts Solid :=
  hp.bind hf fun _ _ => Solid.append

lemma Takes.bind_firm (hp : Takes p ts Solid) (hf : ∀ a, Always (f a) Firm) :
    Takes (p >>= f) ts Firm :=
  hp.bind hf fun _ _ hu => hu.calm.append_firm

lemma Takes.solid (hp : Takes p ts Firm) : Takes p ts Solid := hp.mono fun _ => Firm.solid

lemma Always.solid (hp : Always p Firm) : Always p Solid := fun ts => (hp ts).solid

/-- A token other than a colon, and something solid behind it. -/
lemma Takes.accept_solid {p q : Parser β} {k : TokenKind} (hk : k ≠ .newline) (hcolon : k ≠ op ":")
    (hp : Always p Solid) (hq : Takes q ts Solid) :
    Takes (Parser.accept k >>= fun b => if b = true then p else q) ts Solid :=
  Takes.accept hp (fun _ => Solid.cons hk hcolon) hq

lemma Takes.accept_firm {p q : Parser β} {k : TokenKind} (hk : k ≠ .newline) (hcolon : k ≠ op ":")
    (hp : Always p Solid) (hq : Takes q ts Firm) :
    Takes (Parser.accept k >>= fun b => if b = true then p else q) ts Firm :=
  Takes.accept hp (fun _ => Solid.firm_cons hk hcolon) hq

lemma Takes.expect_firm {f : Unit → Parser β} {k : TokenKind} (hk : k ≠ .newline)
    (hcolon : k ≠ op ":") (hf : Always (f ()) Solid) : Takes (Parser.expect k >>= f) ts Firm :=
  Takes.expect hf fun _ => Solid.firm_cons hk hcolon

lemma Takes.skip_firm {f : Unit → Parser β} {k : TokenKind} (hnext : ts.head?.map (·.kind) = some k)
    (hk : k ≠ .newline) (hcolon : k ≠ op ":") (hf : Takes (f ()) ts.tail Solid) :
    Takes (Parser.skip >>= f) ts Firm :=
  Takes.skip hnext hf fun _ => Solid.firm_cons hk hcolon

lemma Takes.skip_pure {k : TokenKind} (hnext : ts.head?.map (·.kind) = some k) (hk : k ≠ .newline)
    (hcolon : k ≠ op ":") (b : β) : Takes (Parser.skip >>= fun _ => pure b) ts Firm :=
  Takes.skip_firm hnext hk hcolon (always_nothing _)

lemma always_accept {k : TokenKind} (hk : k ≠ .newline) (hcolon : k ≠ op ":") :
    Always (Parser.accept k) Solid := by
  intro ts b rest h
  by_cases hnext : ts.head?.map (·.kind) = some k
  · rw [accept_of_eq hnext] at h
    exact (Takes.skip_pure hnext hk hcolon true).solid b rest h
  · rw [accept_of_ne hnext] at h
    cases h
    exact ⟨[], rfl, solid_nil⟩

end

lemma always_name : Always name Firm := by
  intro ts
  rw [name]
  refine Takes.peek fun k hk => ?_
  split
  · exact Takes.skip_firm hk (by simp) (by simp [op]) (always_nothing _)
  · exact always_fail ts

lemma always_target (e : Expr) : Always (target e) Idle := by
  intro ts
  unfold target
  split
  · exact always_pure_idle _ ts
  · exact always_fail ts

/-- What the parsers of expressions take, with so much room for the recursion. -/
structure Steady (n : Nat) : Prop where
  expression : Always (expression n) Firm
  disjunction : Always (disjunction n) Firm
  disjunctionRest : ∀ a, Always (disjunctionRest n a) Solid
  conjunction : Always (conjunction n) Firm
  conjunctionRest : ∀ a, Always (conjunctionRest n a) Solid
  inversion : Always (inversion n) Firm
  comparisonLinks : Always (comparisonLinks n) Solid
  sum : Always (sum n) Firm
  sumRest : ∀ line a, Always (sumRest n line a) Solid
  product : Always (product n) Firm
  productRest : ∀ line a, Always (productRest n line a) Solid
  factor : Always (factor n) Firm
  primary : Always (primary n) Firm
  primaryRest : ∀ line a, Always (primaryRest n line a) Solid
  arguments : ∀ named, Always (arguments n named) Firm
  argument : ∀ named, Always (argument n named) Firm
  subscript : ∀ line a, Always (subscript n line a) Firm
  bound : Always (bound n) Solid
  atom : Always (atom n) Firm
  strings : ∀ first, Always (strings n first) Solid
  strings_firm : ∀ first ts, (∃ raw formatted body,
    ts.head?.map (·.kind) = some (.string raw formatted body)) → Takes (Parser.strings n first) ts Firm
  group : ∀ line, Always (group n line) Firm
  listDisplay : ∀ line, Always (listDisplay n line) Firm
  moreItems : ∀ first, Always (moreItems n first) Solid
  item : Always (item n) Firm
  entries : Always (entries n) Firm
  clauses : Always (clauses n) Solid
  loopTarget : Always (loopTarget n) Firm
  moreTargets : Always (moreTargets n) Solid

namespace Steady

variable {n : Nat}

/-! ### Operators -/

lemma expression_succ (h : Steady n) : Always (Parser.expression (n + 1)) Firm := by
  intro ts
  rw [Parser.expression]
  refine (h.disjunction ts).firm_bind fun a ts => ?_
  refine Takes.accept_solid (by decide) (by decide) (fun ts => ?_) (always_nothing ts)
  refine (h.disjunction ts).solid.solid_bind fun c ts => ?_
  refine (Takes.expect_firm (by decide) (by decide) fun ts => ?_).solid
  exact (h.expression ts).solid.solid_bind fun _ => always_nothing

lemma disjunction_succ (h : Steady n) : Always (Parser.disjunction (n + 1)) Firm := by
  intro ts
  rw [Parser.disjunction]
  exact (h.conjunction ts).firm_bind h.disjunctionRest

lemma disjunctionRest_succ (h : Steady n) (a : Expr) :
    Always (Parser.disjunctionRest (n + 1) a) Solid := by
  intro ts
  rw [Parser.disjunctionRest]
  refine Takes.accept_solid (by decide) (by decide) (fun ts => ?_) (always_nothing ts)
  exact (h.conjunction ts).solid.solid_bind fun b => h.disjunctionRest _

lemma conjunction_succ (h : Steady n) : Always (Parser.conjunction (n + 1)) Firm := by
  intro ts
  rw [Parser.conjunction]
  exact (h.inversion ts).firm_bind h.conjunctionRest

lemma conjunctionRest_succ (h : Steady n) (a : Expr) :
    Always (Parser.conjunctionRest (n + 1) a) Solid := by
  intro ts
  rw [Parser.conjunctionRest]
  refine Takes.accept_solid (by decide) (by decide) (fun ts => ?_) (always_nothing ts)
  exact (h.inversion ts).solid.solid_bind fun b => h.conjunctionRest _

lemma inversion_succ (h : Steady n) : Always (Parser.inversion (n + 1)) Firm := by
  intro ts
  rw [Parser.inversion]
  refine Takes.accept_firm (by decide) (by decide) (fun ts => ?_) (Takes.here fun line => ?_)
  · exact (h.inversion ts).solid.solid_bind fun _ => always_nothing
  · exact (h.sum ts).firm_bind fun a ts =>
      (h.comparisonLinks ts).solid_bind fun links => always_nothing

/-- An operator is neither a line end nor a colon. -/
lemma comparisonOp?_ne {k : TokenKind} {c : Comparison} (h : comparisonOp? k = some c) :
    k ≠ .newline ∧ k ≠ op ":" := by
  constructor <;> rintro rfl <;> cases h

lemma sumOp?_ne {k : TokenKind} {o : BinaryOp} (h : sumOp? k = some o) :
    k ≠ .newline ∧ k ≠ op ":" := by
  constructor <;> rintro rfl <;> cases h

lemma productOp?_ne {k : TokenKind} {o : BinaryOp} (h : productOp? k = some o) :
    k ≠ .newline ∧ k ≠ op ":" := by
  constructor <;> rintro rfl <;> cases h

lemma always_comparison? : Always comparison? Solid := by
  intro ts
  rw [comparison?]
  refine Takes.peek fun k hk => ?_
  cases k with
  | none => exact always_nothing ts
  | some k =>
    dsimp only
    split
    · next c hc =>
      obtain ⟨hnewline, hcolon⟩ := comparisonOp?_ne hc
      exact (Takes.skip_pure hk hnewline hcolon _).solid
    split
    · next hin =>
      subst hin
      exact (Takes.skip_pure hk (by decide) (by decide) _).solid
    split
    · next hnot =>
      subst hnot
      refine Takes.peekSecond fun k' hk' => ?_
      split
      · next hin =>
        subst hin
        refine (Takes.skip_firm hk (by decide) (by decide) ?_).solid
        exact (Takes.skip_pure hk' (by decide) (by decide) _).solid
      · exact always_nothing ts
    split
    · next his =>
      subst his
      refine (Takes.skip_firm hk (by decide) (by decide) ?_).solid
      exact (always_accept (by decide) (by decide) _).solid_bind fun _ => always_nothing
    · exact always_nothing ts

lemma comparisonLinks_succ (h : Steady n) : Always (Parser.comparisonLinks (n + 1)) Solid := by
  intro ts
  rw [Parser.comparisonLinks]
  refine (always_comparison? ts).solid_bind fun c => ?_
  cases c with
  | none => exact always_nothing
  | some c =>
    exact fun ts => (h.sum ts).solid.solid_bind fun b ts =>
      (h.comparisonLinks ts).solid_bind fun rest => always_nothing

lemma sum_succ (h : Steady n) : Always (Parser.sum (n + 1)) Firm := by
  intro ts
  rw [Parser.sum]
  exact Takes.here fun line => (h.product ts).firm_bind (h.sumRest line)

lemma sumRest_succ (h : Steady n) (line : Nat) (a : Expr) :
    Always (Parser.sumRest (n + 1) line a) Solid := by
  intro ts
  rw [Parser.sumRest]
  refine Takes.peek fun k hk => ?_
  split
  · next o ho =>
    obtain ⟨k, rfl, ho⟩ := Option.bind_eq_some_iff.1 ho
    refine (Takes.skip_firm hk (sumOp?_ne ho).1 (sumOp?_ne ho).2 ?_).solid
    exact (h.product _).solid.solid_bind fun b => h.sumRest _ _
  · exact always_nothing ts

lemma product_succ (h : Steady n) : Always (Parser.product (n + 1)) Firm := by
  intro ts
  rw [Parser.product]
  exact Takes.here fun line => (h.factor ts).firm_bind (h.productRest line)

lemma productRest_succ (h : Steady n) (line : Nat) (a : Expr) :
    Always (Parser.productRest (n + 1) line a) Solid := by
  intro ts
  rw [Parser.productRest]
  refine Takes.peek fun k hk => ?_
  split
  · next o ho =>
    obtain ⟨k, rfl, ho⟩ := Option.bind_eq_some_iff.1 ho
    refine (Takes.skip_firm hk (productOp?_ne ho).1 (productOp?_ne ho).2 ?_).solid
    exact (h.factor _).solid.solid_bind fun b => h.productRest _ _
  · exact always_nothing ts

lemma factor_succ (h : Steady n) : Always (Parser.factor (n + 1)) Firm := by
  intro ts
  rw [Parser.factor]
  refine Takes.here fun line => ?_
  refine Takes.accept_firm (by decide) (by decide) (fun ts => ?_) ?_
  · exact (h.factor ts).solid.solid_bind fun _ => always_nothing
  refine Takes.accept_firm (by decide) (by decide) (fun ts => ?_) ?_
  · exact (h.factor ts).solid.solid_bind fun _ => always_nothing
  refine (h.primary ts).firm_bind fun a ts => ?_
  refine Takes.accept_solid (by decide) (by decide) (fun ts => ?_) (always_nothing ts)
  exact (h.factor ts).solid.solid_bind fun _ => always_nothing

/-! ### Operands -/

lemma primary_succ (h : Steady n) : Always (Parser.primary (n + 1)) Firm := by
  intro ts
  rw [Parser.primary]
  exact Takes.here fun line => (h.atom ts).firm_bind (h.primaryRest line)

lemma primaryRest_succ (h : Steady n) (line : Nat) (a : Expr) :
    Always (Parser.primaryRest (n + 1) line a) Solid := by
  intro ts
  rw [Parser.primaryRest]
  refine Takes.accept_solid (by decide) (by decide) (fun ts => Takes.here fun l => ?_) ?_
  · exact (always_name ts).solid.solid_bind fun id => h.primaryRest _ _
  refine Takes.accept_solid (by decide) (by decide) (fun ts => ?_) ?_
  · exact (h.arguments false ts).solid.solid_bind fun items => h.primaryRest _ _
  refine Takes.accept_solid (by decide) (by decide) (fun ts => ?_) (always_nothing ts)
  exact (h.subscript line a ts).solid.solid_bind fun e => h.primaryRest _ _

lemma arguments_succ (h : Steady n) (named : Bool) :
    Always (Parser.arguments (n + 1) named) Firm := by
  intro ts
  rw [Parser.arguments]
  refine Takes.accept_firm (by decide) (by decide) always_nothing ?_
  refine (h.argument named ts).firm_bind fun item ts => ?_
  refine Takes.accept_solid (by decide) (by decide) (fun ts => ?_) ?_
  · exact (h.arguments _ ts).solid.solid_bind fun _ => always_nothing
  · refine (Takes.expect_firm (by decide) (by decide) ?_).solid
    exact always_nothing

lemma argument_succ (h : Steady n) (named : Bool) : Always (Parser.argument (n + 1) named) Firm := by
  intro ts
  rw [Parser.argument]
  refine Takes.accept_firm (by decide) (by decide) (fun ts => ?_) (Takes.here fun line => ?_)
  · exact (h.expression ts).solid.solid_bind fun _ => always_nothing
  refine Takes.peek fun k hk => Takes.peekSecond fun k' hk' => ?_
  split
  · refine Takes.skip_firm hk (by simp) (by simp [op]) ?_
    refine (Takes.skip_firm hk' (by simp) (by decide) ?_).solid
    exact ((h.expression _).solid.solid_bind fun _ => always_nothing)
  · split
    · exact always_fail ts
    · exact (h.expression ts).firm_bind fun _ => always_nothing

/-- The brackets close behind what stands in them, so colons in them do not matter. -/
lemma subscript_succ (h : Steady n) (line : Nat) (a : Expr) :
    Always (Parser.subscript (n + 1) line a) Firm := by
  intro ts
  rw [Parser.subscript]
  refine Takes.here fun start => (h.bound ts).bind_firm fun first ts => ?_
  have hclose : ∀ e : Expr, Always (Parser.expect (op "]") >>= fun _ => pure e) Firm :=
    fun e ts => Takes.expect_firm (by decide) (by decide) always_nothing
  refine Takes.accept (R := Firm) (fun ts => ?_) (fun _ => Firm.cons (by decide)) ?_
  · refine (h.bound ts).bind_firm fun high ts => ?_
    refine Takes.accept (R := Firm) (fun ts => ?_) (fun _ => Firm.cons (by decide)) ?_
    · exact (h.bound ts).bind_firm fun step => hclose _
    · exact hclose _ ts
  · cases first with
    | none => exact always_fail ts
    | some e =>
      refine Takes.atToken fun b => ?_
      cases b with
      | true =>
        exact (h.moreItems (.plain e) ts).bind_firm fun items => hclose _
      | false => exact hclose _ ts

lemma bound_succ (h : Steady n) : Always (Parser.bound (n + 1)) Solid := by
  intro ts
  rw [Parser.bound]
  refine Takes.atToken fun b => Takes.atToken fun b' => ?_
  split
  · exact always_nothing ts
  · exact (h.expression ts).solid.solid_bind fun e => always_nothing

/-- A hole is read from tokens of its own. -/
lemma always_hole (n line : Nat) (written : Text) : Always (Parser.hole n line written) Idle := by
  cases n with
  | zero =>
    rw [Parser.hole]
    exact always_fail
  | succ n =>
    intro ts a rest h
    rw [Parser.hole] at h
    dsimp only at h
    split at h
    · cases h
      exact ⟨[], rfl, rfl⟩
    · cases h

lemma always_pieces (n : Nat) (raw : Bool) (first line : Nat) (rest : List FormatPart)
    (ps : List Piece) : Always (Parser.pieces n raw first line rest ps) Idle := by
  have happend : ∀ u v, Idle u → Idle v → Idle (u ++ v) := by
    rintro u v rfl rfl
    rfl
  induction n generalizing line rest ps with
  | zero =>
    rw [Parser.pieces]
    exact always_fail
  | succ n ih =>
    intro ts
    cases ps with
    | nil =>
      have hnil : Parser.pieces (n + 1) raw first line rest [] = pure rest :=
        Parser.pieces.eq_2 _ _ _ _ _ (Nat.succ_ne_zero n)
      rw [hnil]
      exact always_pure_idle _ ts
    | cons p ps =>
      cases p with
      | text written =>
        rw [Parser.pieces]
        refine (ih line rest ps ts).bind (fun behind ts => ?_) happend
        split
        · exact always_pure_idle _ ts
        · exact always_fail ts
      | hole breaks written shown conversion =>
        rw [Parser.pieces]
        refine (always_hole n _ written ts).bind (fun e ts => ?_) happend
        exact (ih line rest ps ts).bind (fun behind => always_pure_idle _) happend

/-- At least one literal is taken if one comes next. -/
lemma strings_firm_succ (h : Steady n) (first : Nat) (ts : List Token) (hts : ∃ raw formatted body,
    ts.head?.map (·.kind) = some (.string raw formatted body)) :
    Takes (Parser.strings (n + 1) first) ts Firm := by
  obtain ⟨raw, formatted, body, hk⟩ := hts
  rw [Parser.strings]
  refine Takes.here fun line => Takes.peek fun k hk' => ?_
  rw [hk] at hk'
  subst hk'
  refine Takes.skip_firm hk (by simp) (by simp [op]) ?_
  refine (h.strings first _).solid_bind fun p ts => ?_
  dsimp only
  split
  · split
    · refine Takes.bind (always_pieces n _ _ _ _ _ ts) (fun _ => always_nothing) ?_
      rintro u v rfl hv
      exact hv
    · exact always_fail ts
  · split
    · exact always_nothing ts
    · exact always_fail ts

lemma strings_succ (h : Steady n) (first : Nat) : Always (Parser.strings (n + 1) first) Solid := by
  intro ts
  by_cases hk : ∃ raw formatted body, ts.head?.map (·.kind) = some (.string raw formatted body)
  · exact (h.strings_firm_succ first ts hk).solid
  · rw [Parser.strings]
    refine Takes.here fun line => Takes.peek fun k hk' => ?_
    split
    · exact absurd ⟨_, _, _, hk'⟩ hk
    · exact always_nothing ts

lemma atom_succ (h : Steady n) : Always (Parser.atom (n + 1)) Firm := by
  intro ts
  rw [Parser.atom]
  refine Takes.here fun line => Takes.peek fun k hk => ?_
  split
  · exact Takes.skip_pure hk (by simp) (by simp [op]) _
  · split
    · exact always_fail ts
    · exact Takes.skip_pure hk (by simp) (by simp [op]) _
  · exact Takes.skip_pure hk (by simp) (by simp [op]) _
  · exact (h.strings_firm line ts ⟨_, _, _, hk⟩).firm_bind fun p => always_nothing
  · split
    · exact Takes.skip_pure hk (by simp) (by simp [op]) _
    split
    · exact Takes.skip_pure hk (by simp) (by simp [op]) _
    split
    · exact Takes.skip_pure hk (by simp) (by simp [op]) _
    · exact always_fail ts
  · split
    · next o ho =>
      subst ho
      exact Takes.skip_firm hk (by simp) (by decide) (h.group line _).solid
    split
    · next o _ ho =>
      subst ho
      exact Takes.skip_firm hk (by simp) (by decide) (h.listDisplay line _).solid
    split
    · next o _ _ ho =>
      subst ho
      refine Takes.skip_firm hk (by simp) (by decide) ?_
      exact (h.entries _).solid.solid_bind fun _ => always_nothing
    · exact always_fail ts
  · exact always_fail ts

/-! ### Displays -/

lemma group_succ (h : Steady n) (line : Nat) : Always (Parser.group (n + 1) line) Firm := by
  intro ts
  rw [Parser.group]
  refine Takes.accept_firm (by decide) (by decide) always_nothing ?_
  refine (h.item ts).firm_bind fun first ts => Takes.atToken fun b => ?_
  have hclose : ∀ e : Expr, Always (Parser.expect (op ")") >>= fun _ => pure e) Solid :=
    fun e => Always.solid fun ts => Takes.expect_firm (by decide) (by decide) always_nothing
  split
  · exact (h.moreItems first ts).solid_bind fun items => hclose _
  · split
    · exact hclose _ ts
    · exact always_fail ts

lemma listDisplay_succ (h : Steady n) (line : Nat) :
    Always (Parser.listDisplay (n + 1) line) Firm := by
  intro ts
  rw [Parser.listDisplay]
  refine Takes.accept_firm (by decide) (by decide) always_nothing ?_
  refine (h.item ts).firm_bind fun first ts => Takes.atToken fun b => ?_
  have hclose : ∀ e : Expr, Always (Parser.expect (op "]") >>= fun _ => pure e) Solid :=
    fun e => Always.solid fun ts => Takes.expect_firm (by decide) (by decide) always_nothing
  split
  · exact (h.clauses ts).solid_bind fun cs => hclose _
  · exact (h.moreItems first ts).solid_bind fun items => hclose _

lemma always_startsItem : Always startsItem Solid := by
  intro ts
  rw [startsItem]
  refine Takes.peek fun k hk => ?_
  split
  · exact always_nothing ts
  · exact always_fail ts

lemma moreItems_succ (h : Steady n) (first : Item) :
    Always (Parser.moreItems (n + 1) first) Solid := by
  intro ts
  rw [Parser.moreItems]
  refine Takes.accept_solid (by decide) (by decide) (fun ts => ?_) (always_nothing ts)
  refine (always_startsItem ts).solid_bind fun b ts => ?_
  split
  · exact (h.item ts).solid.solid_bind fun i ts =>
      (h.moreItems i ts).solid_bind fun _ => always_nothing
  · exact always_nothing ts

lemma item_succ (h : Steady n) : Always (Parser.item (n + 1)) Firm := by
  intro ts
  rw [Parser.item]
  refine Takes.accept_firm (by decide) (by decide) (fun ts => ?_) ?_
  · exact (h.sum ts).solid.solid_bind fun _ => always_nothing
  · exact (h.expression ts).firm_bind fun _ => always_nothing

lemma entries_succ (h : Steady n) : Always (Parser.entries (n + 1)) Firm := by
  intro ts
  rw [Parser.entries]
  refine Takes.accept_firm (by decide) (by decide) always_nothing ?_
  refine (h.expression ts).solid.bind_firm fun key ts => ?_
  refine Takes.expect (R := Firm) (fun ts => ?_) fun _ => Firm.cons (by decide)
  refine (h.expression ts).firm_bind fun value ts => ?_
  refine Takes.accept_solid (by decide) (by decide) (fun ts => ?_) ?_
  · exact (h.entries ts).solid.solid_bind fun _ => always_nothing
  · refine (Takes.expect_firm (by decide) (by decide) ?_).solid
    exact always_nothing

lemma clauses_succ (h : Steady n) : Always (Parser.clauses (n + 1)) Solid := by
  intro ts
  rw [Parser.clauses]
  refine Takes.here fun line => ?_
  refine Takes.accept_solid (by decide) (by decide) (fun ts => ?_) ?_
  · refine (h.loopTarget ts).solid.solid_bind fun t ts => ?_
    refine (Takes.expect_firm (by decide) (by decide) fun ts => ?_).solid
    exact (h.disjunction ts).solid.solid_bind fun source ts =>
      (h.clauses ts).solid_bind fun _ => always_nothing
  refine Takes.accept_solid (by decide) (by decide) (fun ts => ?_) (always_nothing ts)
  exact (h.disjunction ts).solid.solid_bind fun c ts =>
    (h.clauses ts).solid_bind fun _ => always_nothing

lemma loopTarget_succ (h : Steady n) : Always (Parser.loopTarget (n + 1)) Firm := by
  intro ts
  rw [Parser.loopTarget]
  refine Takes.here fun line => (h.primary ts).firm_bind fun first ts => Takes.atToken fun b => ?_
  have htarget : ∀ e, Always (target e) Solid :=
    fun e => (always_target e).mono fun u hu => hu ▸ solid_nil
  split
  · exact (h.moreTargets ts).solid_bind fun es => htarget _
  · exact htarget _ ts

lemma moreTargets_succ (h : Steady n) : Always (Parser.moreTargets (n + 1)) Solid := by
  intro ts
  rw [Parser.moreTargets]
  refine Takes.accept_solid (by decide) (by decide) (fun ts => Takes.atToken fun b => ?_)
    (always_nothing ts)
  split
  · exact always_nothing ts
  · exact (h.primary ts).solid.solid_bind fun e ts =>
      (h.moreTargets ts).solid_bind fun _ => always_nothing

lemma zero : Steady 0 where
  expression := always_of_eq_fail (Parser.expression.eq_1)
  disjunction := always_of_eq_fail (Parser.disjunction.eq_1)
  disjunctionRest _ := always_of_eq_fail (Parser.disjunctionRest.eq_1 _)
  conjunction := always_of_eq_fail (Parser.conjunction.eq_1)
  conjunctionRest _ := always_of_eq_fail (Parser.conjunctionRest.eq_1 _)
  inversion := always_of_eq_fail (Parser.inversion.eq_1)
  comparisonLinks := always_of_eq_fail (Parser.comparisonLinks.eq_1)
  sum := always_of_eq_fail (Parser.sum.eq_1)
  sumRest _ _ := always_of_eq_fail (Parser.sumRest.eq_1 _ _)
  product := always_of_eq_fail (Parser.product.eq_1)
  productRest _ _ := always_of_eq_fail (Parser.productRest.eq_1 _ _)
  factor := always_of_eq_fail (Parser.factor.eq_1)
  primary := always_of_eq_fail (Parser.primary.eq_1)
  primaryRest _ _ := always_of_eq_fail (Parser.primaryRest.eq_1 _ _)
  arguments _ := always_of_eq_fail (Parser.arguments.eq_1 _)
  argument _ := always_of_eq_fail (Parser.argument.eq_1 _)
  subscript _ _ := always_of_eq_fail (Parser.subscript.eq_1 _ _)
  bound := always_of_eq_fail (Parser.bound.eq_1)
  atom := always_of_eq_fail (Parser.atom.eq_1)
  strings _ := always_of_eq_fail (Parser.strings.eq_1 _)
  strings_firm first ts _ := always_of_eq_fail (Parser.strings.eq_1 first) ts
  group _ := always_of_eq_fail (Parser.group.eq_1 _)
  listDisplay _ := always_of_eq_fail (Parser.listDisplay.eq_1 _)
  moreItems _ := always_of_eq_fail (Parser.moreItems.eq_1 _)
  item := always_of_eq_fail (Parser.item.eq_1)
  entries := always_of_eq_fail (Parser.entries.eq_1)
  clauses := always_of_eq_fail (Parser.clauses.eq_1)
  loopTarget := always_of_eq_fail (Parser.loopTarget.eq_1)
  moreTargets := always_of_eq_fail (Parser.moreTargets.eq_1)

lemma succ (h : Steady n) : Steady (n + 1) where
  expression := h.expression_succ
  disjunction := h.disjunction_succ
  disjunctionRest := h.disjunctionRest_succ
  conjunction := h.conjunction_succ
  conjunctionRest := h.conjunctionRest_succ
  inversion := h.inversion_succ
  comparisonLinks := h.comparisonLinks_succ
  sum := h.sum_succ
  sumRest := h.sumRest_succ
  product := h.product_succ
  productRest := h.productRest_succ
  factor := h.factor_succ
  primary := h.primary_succ
  primaryRest := h.primaryRest_succ
  arguments := h.arguments_succ
  argument := h.argument_succ
  subscript := h.subscript_succ
  bound := h.bound_succ
  atom := h.atom_succ
  strings := h.strings_succ
  strings_firm := h.strings_firm_succ
  group := h.group_succ
  listDisplay := h.listDisplay_succ
  moreItems := h.moreItems_succ
  item := h.item_succ
  entries := h.entries_succ
  clauses := h.clauses_succ
  loopTarget := h.loopTarget_succ
  moreTargets := h.moreTargets_succ

end Steady

/-- Inside an expression no line ends, and no expression ends in a colon. -/
theorem steady (n : Nat) : Steady n := by
  induction n with
  | zero => exact Steady.zero
  | succ n ih => exact ih.succ

end ViewEngine.Script.Parser

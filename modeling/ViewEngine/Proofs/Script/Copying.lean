/-
# Expressions stand for themselves

An expression is read from its tokens alone.  Wherever these tokens stand again, of the same kinds and
on the same lines, they are read as the same expression, with any greater bound on the recursion, if
what comes next looks the same; and even a semicolon may come next where a closing parenthesis did,
because an expression ends at either.  The brackets that are opened in an expression are closed in it,
and no semicolon belongs to it.

* `Copies`: what is read once is read again from the same tokens;
* `Copies.bind`, `Copies.accept`: the combinators;
* `copying`: all the parsers of expressions.
-/
import Mathlib.Tactic.Common
import Mathlib.Tactic.Lemma
import ViewEngine.Proofs.Script.Literals
import ViewEngine.Proofs.Script.Taking

namespace ViewEngine.Script.Parser

variable {α β : Type}

/-! ## Tokens again -/

/-- What the parsers of expressions see of tokens. -/
def places (ts : List Token) : List (TokenKind × Nat) := ts.map fun t => (t.kind, t.line)

/-- By how many the brackets that are open grow with tokens. -/
def weights (ts : List Token) : Int := (ts.map (·.kind.weight)).sum

/-- The kind of the next token. -/
def nextOf (ts : List Token) : Option TokenKind := ts.head?.map (·.kind)

/-- The kind of the token behind the next one. -/
def secondOf (ts : List Token) : Option TokenKind := ts[1]?.map (·.kind)

/-- The same kind, or a semicolon in the place of a closing parenthesis. -/
def Alike (k k' : Option TokenKind) : Prop := k' = k ∨ k = some (op ")") ∧ k' = some (op ";")

/-- No parser of an expression tells the second tokens from the first, unless it takes one. -/
structure Resembles (ts ts' : List Token) : Prop where
  next : Alike (nextOf ts) (nextOf ts')
  second : nextOf ts = some (word "not") → Alike (secondOf ts) (secondOf ts')

section

variable {used used' rest rest' : List Token} {k k' : Option TokenKind} {c : TokenKind}

lemma weights_cons (t : Token) (ts : List Token) : weights (t :: ts) = t.kind.weight + weights ts := by
  rw [weights, List.map_cons, List.sum_cons]
  rfl

lemma weights_append (ts us : List Token) : weights (ts ++ us) = weights ts + weights us := by
  rw [weights, List.map_append, List.sum_append]
  rfl

lemma Alike.refl (k : Option TokenKind) : Alike k k := .inl rfl

/-- Kinds other than the two are told apart. -/
lemma Alike.eq_iff (h : Alike k k') (hclosing : c ≠ op ")") (hsemicolon : c ≠ op ";") :
    k' = some c ↔ k = some c := by
  rcases h with rfl | ⟨rfl, rfl⟩
  · exact Iff.rfl
  · simp [Ne.symm hclosing, Ne.symm hsemicolon]

/-- What is not there does not appear, unless it is a semicolon. -/
lemma Alike.ne (h : Alike k k') (hsemicolon : c ≠ op ";") (hk : k ≠ some c) : k' ≠ some c := by
  rcases h with rfl | ⟨rfl, rfl⟩
  · exact hk
  · simp [Ne.symm hsemicolon]

lemma Resembles.refl (ts : List Token) : Resembles ts ts := ⟨.refl _, fun _ => .refl _⟩

/-- Tokens stay like others behind the same tokens. -/
lemma Resembles.append (h : Resembles rest rest') (hused : places used' = places used) :
    Resembles (used ++ rest) (used' ++ rest') := by
  rcases used with _ | ⟨t, _ | ⟨u, used⟩⟩
  · obtain rfl : used' = [] := List.map_eq_nil_iff.1 hused
    exact h
  · obtain ⟨t', v, rfl, ht, hv⟩ := List.map_eq_cons_iff.1 hused
    obtain rfl : v = [] := List.map_eq_nil_iff.1 hv
    have hkind : t'.kind = t.kind := congrArg Prod.fst ht
    refine ⟨.inl (by simp [nextOf, hkind]), fun _ => ?_⟩
    have hnext := h.next
    simpa [secondOf, nextOf, List.head?_eq_getElem?] using hnext
  · obtain ⟨t', v, rfl, ht, hv⟩ := List.map_eq_cons_iff.1 hused
    obtain ⟨u', v, rfl, hu, -⟩ := List.map_eq_cons_iff.1 hv
    have hkind : t'.kind = t.kind := congrArg Prod.fst ht
    have hsecond : u'.kind = u.kind := congrArg Prod.fst hu
    exact ⟨.inl (by simp [nextOf, hkind]), fun _ => .inl (by simp [secondOf, hsecond])⟩

end

/-! ## Reading again -/

/-- What the first parser reads, the second reads from the same tokens, whatever resembling tokens
follow; and the tokens have a weight and no semicolon among them. -/
def Copies (w : Int) (p q : Parser α) (ts : List Token) : Prop :=
  ∀ a rest, p ts = some (a, rest) → ∃ used, ts = used ++ rest ∧ weights used = w ∧
    (∀ t ∈ used, t.kind ≠ op ";") ∧ ∀ used' rest', places used' = places used →
      Resembles rest rest' → q (used' ++ rest') = some (a, rest')

namespace Copies

variable {p q : Parser α} {f g : α → Parser β} {ts : List Token} {v w : Int} {k : TokenKind}

lemma fail : Copies w (Parser.fail : Parser α) q ts := fun _ _ h => by cases h

lemma of_eq_fail (h : p = Parser.fail) : Copies w p q ts := h ▸ fail

lemma pure (a : α) : Copies 0 (pure a) (pure a) ts := by
  rintro b rest ⟨⟩
  refine ⟨[], rfl, rfl, by simp, fun used' rest' hused _ => ?_⟩
  obtain rfl : used' = [] := List.map_eq_nil_iff.1 hused
  rfl

/-- One parser after another. -/
theorem bind (hp : Copies v p q ts) (hf : ∀ a ts, Copies w (f a) (g a) ts) :
    Copies (v + w) (p >>= f) (q >>= g) ts := by
  intro b rest h
  rw [bind_apply, Option.bind_eq_some_iff] at h
  obtain ⟨⟨a, mid⟩, ha, hb⟩ := h
  obtain ⟨used₁, rfl, hv, hsemi₁, hq⟩ := hp a mid ha
  obtain ⟨used₂, rfl, hw, hsemi₂, hg⟩ := hf a mid b rest hb
  refine ⟨used₁ ++ used₂, by rw [List.append_assoc], by rw [weights_append, hv, hw], ?_, ?_⟩
  · exact fun t ht => (List.mem_append.1 ht).elim (hsemi₁ t) (hsemi₂ t)
  · intro used' rest' hused hrest
    rw [places, places, List.map_append, List.map_eq_append_iff] at hused
    obtain ⟨used₁', used₂', rfl, hused₁, hused₂⟩ := hused
    rw [List.append_assoc, bind_apply, hq used₁' _ hused₁ (hrest.append hused₂)]
    exact hg used₂' rest' hused₂ hrest

/-- Behind a parser that leaves as many brackets open as it finds. -/
lemma then_bind (hp : Copies 0 p q ts) (hf : ∀ a ts, Copies w (f a) (g a) ts) :
    Copies w (p >>= f) (q >>= g) ts := by
  have h := hp.bind hf
  rwa [Int.zero_add] at h

/-- In front of a parser that leaves as many brackets open as it finds. -/
lemma bind_plain (hp : Copies w p q ts) (hf : ∀ a ts, Copies 0 (f a) (g a) ts) :
    Copies w (p >>= f) (q >>= g) ts := by
  have h := hp.bind hf
  rwa [Int.add_zero] at h

lemma bind_pure {h : α → β} (hp : Copies w p q ts) :
    Copies w (p >>= fun a => Pure.pure (h a)) (q >>= fun a => Pure.pure (h a)) ts :=
  hp.bind_plain fun _ _ => pure _

/-- What is read is read again in the same place. -/
lemma reads {a : α} {rest : List Token} (hp : Copies w p q ts) (h : p ts = some (a, rest)) :
    q ts = some (a, rest) := by
  obtain ⟨used, rfl, -, -, hq⟩ := hp a rest h
  exact hq used rest rfl (.refl rest)

/-! ### Looking at tokens -/

/-- The line of the next token, if that is taken. -/
lemma here_taken {f g : Nat → Parser β} (hne : Takes (Parser.here >>= f) ts (· ≠ []))
    (h : ∀ line, Copies w (f line) (g line) ts) :
    Copies w (Parser.here >>= f) (Parser.here >>= g) ts := by
  intro b rest hb
  obtain ⟨used, hts, hw, hsemi, hg⟩ := h _ b rest hb
  obtain ⟨used₀, hts₀, hne⟩ := hne b rest hb
  obtain rfl : used₀ = used := List.append_cancel_right (hts₀.symm.trans hts)
  refine ⟨used₀, hts, hw, hsemi, fun used' rest' hused hrest => ?_⟩
  -- a token is taken, and it is on the same line
  rcases used₀ with _ | ⟨t, used⟩
  · exact absurd rfl hne
  obtain ⟨t', v', rfl, ht, -⟩ := List.map_eq_cons_iff.1 hused
  have hline : t'.line = t.line := congrArg Prod.snd ht
  have hagain := hg (t' :: v') rest' hused hrest
  show g t'.line (t' :: v' ++ rest') = _
  rw [hline]
  rw [hts] at hagain
  exact hagain

lemma here {f g : Nat → Parser β} (hfirm : Takes (Parser.here >>= f) ts Firm)
    (h : ∀ line, Copies w (f line) (g line) ts) :
    Copies w (Parser.here >>= f) (Parser.here >>= g) ts := by
  refine here_taken (hfirm.mono fun u hu => ?_) h
  obtain ⟨k, hlast, -⟩ := hu.2
  rintro rfl
  cases hlast

/-- The line of the next token, which does not matter. -/
lemma here_idle {f g : Nat → Parser β}
    (hidle : ∀ l l' ts', Resembles ts ts' → g l ts' = g l' ts')
    (h : ∀ line, Copies w (f line) (g line) ts) :
    Copies w (Parser.here >>= f) (Parser.here >>= g) ts := by
  intro b rest hb
  obtain ⟨used, hts, hw, hsemi, hg⟩ := h _ b rest hb
  refine ⟨used, hts, hw, hsemi, fun used' rest' hused hrest => ?_⟩
  have hagain := hg used' rest' hused hrest
  have hlike := hrest.append hused
  rw [← hts] at hlike
  exact (hidle _ _ _ hlike).trans hagain

/-- The kind of the next token. -/
lemma peek {f g : Option TokenKind → Parser β} (hstop : g (some (op ";")) = g (some (op ")")))
    (h : Copies w (f (nextOf ts)) (g (nextOf ts)) ts) : Copies w (peek >>= f) (peek >>= g) ts := by
  intro b rest hb
  obtain ⟨used, hts, hw, hsemi, hg⟩ := h b rest hb
  refine ⟨used, hts, hw, hsemi, fun used' rest' hused hrest => ?_⟩
  have hagain := hg used' rest' hused hrest
  have hnext := (hrest.append hused).next
  rw [← hts] at hnext
  show g (nextOf (used' ++ rest')) (used' ++ rest') = _
  rcases hnext with heq | ⟨heq, heq'⟩
  · rw [heq]
    exact hagain
  · rw [heq] at hagain
    rw [heq', hstop]
    exact hagain

/-- The kind of the token behind the next one, if a token is taken. -/
lemma peekSecond {f g : Option TokenKind → Parser β} (hfirm : Takes (peekSecond >>= f) ts Firm)
    (hstop : g (some (op ";")) = g (some (op ")"))) (h : Copies w (f (secondOf ts)) (g (secondOf ts)) ts) :
    Copies w (peekSecond >>= f) (peekSecond >>= g) ts := by
  intro b rest hb
  obtain ⟨used, hts, hw, hsemi, hg⟩ := h b rest hb
  obtain ⟨used₀, hts₀, hne⟩ := hfirm b rest hb
  obtain rfl : used₀ = used := List.append_cancel_right (hts₀.symm.trans hts)
  refine ⟨used₀, hts, hw, hsemi, fun used' rest' hused hrest => ?_⟩
  have hagain := hg used' rest' hused hrest
  obtain ⟨k, hlast, -⟩ := hne.2
  have hsecond : Alike (secondOf ts) (secondOf (used' ++ rest')) := by
    rw [hts]
    rcases used₀ with _ | ⟨t, used⟩
    · cases hlast
    obtain ⟨t', v', rfl, ht, hv⟩ := List.map_eq_cons_iff.1 hused
    have hnext := (hrest.append hv).next
    simpa [secondOf, nextOf, List.head?_eq_getElem?] using hnext
  show g (secondOf (used' ++ rest')) (used' ++ rest') = _
  rcases hsecond with heq | ⟨heq, heq'⟩
  · rw [heq]
    exact hagain
  · rw [heq] at hagain
    rw [heq', hstop]
    exact hagain

/-- Whether the next token is of a kind. -/
lemma atToken {f g : Bool → Parser β} (hclosing : k ≠ op ")") (hsemicolon : k ≠ op ";")
    (h : Copies w (f (nextOf ts = some k)) (g (nextOf ts = some k)) ts) :
    Copies w (atToken k >>= f) (atToken k >>= g) ts := by
  intro b rest hb
  obtain ⟨used, hts, hw, hsemi, hg⟩ := h b rest hb
  refine ⟨used, hts, hw, hsemi, fun used' rest' hused hrest => ?_⟩
  have hagain := hg used' rest' hused hrest
  have hnext := (hrest.append hused).next
  rw [← hts] at hnext
  show g (decide (nextOf (used' ++ rest') = some k)) (used' ++ rest') = _
  rw [decide_eq_decide.2 (hnext.eq_iff hclosing hsemicolon)]
  exact hagain

/-! ### Taking tokens -/

/-- The next token, which is known, is taken. -/
lemma skip {f g : Unit → Parser β} (hk : nextOf ts = some k) (hsemicolon : k ≠ op ";") (v : Int)
    (hv : k.weight + v = w) (hf : Copies v (f ()) (g ()) ts.tail) :
    Copies w (skip >>= f) (skip >>= g) ts := by
  cases ts with
  | nil => cases hk
  | cons t ts =>
    cases hk
    intro b rest h
    obtain ⟨used, hts, hw, hsemi, hg⟩ := hf b rest h
    refine ⟨t :: used, congrArg (t :: ·) hts, by rw [weights_cons, hw, hv], ?_, ?_⟩
    · exact List.forall_mem_cons.2 ⟨hsemicolon, hsemi⟩
    · intro used' rest' hused hrest
      obtain ⟨t', u', rfl, -, hu⟩ := List.map_eq_cons_iff.1 hused
      exact hg u' rest' hu hrest

lemma skip_pure {b : β} (hk : nextOf ts = some k) (hsemicolon : k ≠ op ";") (hweight : k.weight = 0) :
    Copies 0 (Parser.skip >>= fun _ => Pure.pure b) (Parser.skip >>= fun _ => Pure.pure b) ts :=
  skip hk hsemicolon 0 (by rw [hweight]; rfl) (pure b)

lemma skip_plain {f g : Unit → Parser β} (hk : nextOf ts = some k) (hsemicolon : k ≠ op ";")
    (hweight : k.weight = 0) (hf : Copies w (f ()) (g ()) ts.tail) :
    Copies w (Parser.skip >>= f) (Parser.skip >>= g) ts :=
  skip hk hsemicolon w (by rw [hweight, Int.zero_add]) hf

/-- A token is taken if it comes next. -/
lemma accept {p p' q q' : Parser β} (hsemicolon : k ≠ op ";") (v : Int) (hv : k.weight + v = w)
    (hp : ∀ ts, Copies v p p' ts) (hq : nextOf ts ≠ some k → Copies w q q' ts) :
    Copies w (accept k >>= fun b => if b = true then p else q)
      (accept k >>= fun b => if b = true then p' else q') ts := by
  intro b rest h
  rw [bind_apply] at h
  by_cases hk : nextOf ts = some k
  · rw [accept_of_eq hk] at h
    cases ts with
    | nil => cases hk
    | cons t ts =>
      cases hk
      obtain ⟨used, rfl, hw, hsemi, hg⟩ := hp ts b rest h
      refine ⟨t :: used, rfl, by rw [weights_cons, hw, hv], ?_, ?_⟩
      · exact List.forall_mem_cons.2 ⟨hsemicolon, hsemi⟩
      · intro used' rest' hused hrest
        obtain ⟨t', u', rfl, ht, hu⟩ := List.map_eq_cons_iff.1 hused
        have hkind : t'.kind = t.kind := congrArg Prod.fst ht
        have hagain := hg u' rest' hu hrest
        rw [bind_apply, accept_of_eq (by simp [hkind])]
        exact hagain
  · rw [accept_of_ne hk] at h
    obtain ⟨used, hts, hw, hsemi, hg⟩ := hq hk b rest h
    refine ⟨used, hts, hw, hsemi, fun used' rest' hused hrest => ?_⟩
    have hnext := (hrest.append hused).next
    rw [← hts] at hnext
    rw [bind_apply, accept_of_ne (hnext.ne hsemicolon hk)]
    exact hg used' rest' hused hrest

/-- A token is taken if it comes next, and its line matters only then. -/
lemma here_accept {p p' : Nat → Parser β} {q q' : Parser β} (hsemicolon : k ≠ op ";") (v : Int)
    (hv : k.weight + v = w) (hp : ∀ line ts, Copies v (p line) (p' line) ts)
    (hq : nextOf ts ≠ some k → Copies w q q' ts) :
    Copies w (Parser.here >>= fun line => Parser.accept k >>= fun b => if b = true then p line else q)
      (Parser.here >>= fun line => Parser.accept k >>= fun b => if b = true then p' line else q')
      ts := by
  have hboth := fun line => accept hsemicolon v hv (hp line) hq
  by_cases hk : nextOf ts = some k
  · refine here_taken (Takes.here fun line b rest hb => ?_) hboth
    rw [bind_apply, accept_of_eq hk] at hb
    cases ts with
    | nil => cases hk
    | cons t ts =>
      obtain ⟨used, rfl, -⟩ := hp line ts b rest hb
      exact ⟨t :: used, rfl, by simp⟩
  · refine here_idle (fun l l' ts' hlike => ?_) hboth
    rw [bind_apply, bind_apply, accept_of_ne (hlike.next.ne hsemicolon hk)]
    rfl

/-- A token that is no bracket is taken if it comes next. -/
lemma accept_plain {p p' q q' : Parser β} (hsemicolon : k ≠ op ";") (hweight : k.weight = 0)
    (hp : ∀ ts, Copies w p p' ts) (hq : nextOf ts ≠ some k → Copies w q q' ts) :
    Copies w (Parser.accept k >>= fun b => if b = true then p else q)
      (Parser.accept k >>= fun b => if b = true then p' else q') ts :=
  accept hsemicolon w (by rw [hweight, Int.zero_add]) hp hq

/-- The next token has to be of a kind, and is taken. -/
lemma expect {f g : Unit → Parser β} (hsemicolon : k ≠ op ";") (v : Int) (hv : k.weight + v = w)
    (hf : ∀ ts, Copies v (f ()) (g ()) ts) : Copies w (expect k >>= f) (expect k >>= g) ts := by
  have hexpect : ∀ us : List Token, Parser.expect k us =
      if nextOf us = some k then Parser.skip us else none := by
    intro us
    have hat : Parser.atToken k us = some (decide (nextOf us = some k), us) := atToken_apply k us
    show (Parser.atToken k >>= _) us = _
    rw [bind_apply, hat]
    by_cases hk : nextOf us = some k <;> simp [hk, Parser.fail]
  intro b rest h
  rw [bind_apply, hexpect] at h
  cases ts with
  | nil => cases h
  | cons t ts =>
    split at h
    · next hk =>
      cases hk
      obtain ⟨used, rfl, hw, hsemi, hg⟩ := hf ts b rest h
      refine ⟨t :: used, rfl, by rw [weights_cons, hw, hv], ?_, ?_⟩
      · exact List.forall_mem_cons.2 ⟨hsemicolon, hsemi⟩
      · intro used' rest' hused hrest
        obtain ⟨t', u', rfl, ht, hu⟩ := List.map_eq_cons_iff.1 hused
        have hkind : nextOf (t' :: u' ++ rest') = some t.kind := congrArg some (congrArg Prod.fst ht)
        rw [bind_apply, hexpect, if_pos hkind]
        exact hg u' rest' hu hrest
    · cases h

end Copies

/-- Whether a token that is no bracket comes next; if so, it is taken. -/
lemma copies_accept {k : TokenKind} (hsemicolon : k ≠ op ";") (hweight : k.weight = 0)
    (ts : List Token) : Copies 0 (accept k) (accept k) ts := by
  have hsame : (accept k >>= fun b => if b = true then pure true else pure false) = accept k := by
    refine Eq.trans (congrArg _ (funext fun b => ?_)) (bind_pure (accept k))
    cases b <;> rfl
  rw [← hsame]
  exact .accept_plain hsemicolon hweight (fun ts => .pure true) fun _ => .pure false

/-! ## Expressions -/

/-- What is read with so much room for the recursion is read again with any more. -/
structure Copying (n : Nat) : Prop where
  expression : ∀ {m}, n ≤ m → ∀ ts, Copies 0 (expression n) (expression m) ts
  disjunction : ∀ {m}, n ≤ m → ∀ ts, Copies 0 (disjunction n) (disjunction m) ts
  disjunctionRest : ∀ {m}, n ≤ m → ∀ a ts, Copies 0 (disjunctionRest n a) (disjunctionRest m a) ts
  conjunction : ∀ {m}, n ≤ m → ∀ ts, Copies 0 (conjunction n) (conjunction m) ts
  conjunctionRest : ∀ {m}, n ≤ m → ∀ a ts, Copies 0 (conjunctionRest n a) (conjunctionRest m a) ts
  inversion : ∀ {m}, n ≤ m → ∀ ts, Copies 0 (inversion n) (inversion m) ts
  comparisonLinks : ∀ {m}, n ≤ m → ∀ ts, Copies 0 (comparisonLinks n) (comparisonLinks m) ts
  sum : ∀ {m}, n ≤ m → ∀ ts, Copies 0 (sum n) (sum m) ts
  sumRest : ∀ {m}, n ≤ m → ∀ line a ts, Copies 0 (sumRest n line a) (sumRest m line a) ts
  product : ∀ {m}, n ≤ m → ∀ ts, Copies 0 (product n) (product m) ts
  productRest : ∀ {m}, n ≤ m → ∀ line a ts,
    Copies 0 (productRest n line a) (productRest m line a) ts
  factor : ∀ {m}, n ≤ m → ∀ ts, Copies 0 (factor n) (factor m) ts
  primary : ∀ {m}, n ≤ m → ∀ ts, Copies 0 (primary n) (primary m) ts
  primaryRest : ∀ {m}, n ≤ m → ∀ line a ts,
    Copies 0 (primaryRest n line a) (primaryRest m line a) ts
  /-- The bracket that is closed was opened in front. -/
  arguments : ∀ {m}, n ≤ m → ∀ named ts, Copies (-1) (arguments n named) (arguments m named) ts
  argument : ∀ {m}, n ≤ m → ∀ named ts, Copies 0 (argument n named) (argument m named) ts
  subscript : ∀ {m}, n ≤ m → ∀ line a ts, Copies (-1) (subscript n line a) (subscript m line a) ts
  bound : ∀ {m}, n ≤ m → ∀ ts, Copies 0 (bound n) (bound m) ts
  atom : ∀ {m}, n ≤ m → ∀ ts, Copies 0 (atom n) (atom m) ts
  strings : ∀ {m}, n ≤ m → ∀ first ts, Copies 0 (strings n first) (strings m first) ts
  pieces : ∀ {m}, n ≤ m → ∀ raw first line rest ps ts,
    Copies 0 (pieces n raw first line rest ps) (pieces m raw first line rest ps) ts
  hole : ∀ {m}, n ≤ m → ∀ line written ts, Copies 0 (hole n line written) (hole m line written) ts
  group : ∀ {m}, n ≤ m → ∀ line ts, Copies (-1) (group n line) (group m line) ts
  listDisplay : ∀ {m}, n ≤ m → ∀ line ts, Copies (-1) (listDisplay n line) (listDisplay m line) ts
  moreItems : ∀ {m}, n ≤ m → ∀ first ts, Copies 0 (moreItems n first) (moreItems m first) ts
  item : ∀ {m}, n ≤ m → ∀ ts, Copies 0 (item n) (item m) ts
  entries : ∀ {m}, n ≤ m → ∀ ts, Copies (-1) (entries n) (entries m) ts
  clauses : ∀ {m}, n ≤ m → ∀ ts, Copies 0 (clauses n) (clauses m) ts
  loopTarget : ∀ {m}, n ≤ m → ∀ ts, Copies 0 (loopTarget n) (loopTarget m) ts
  moreTargets : ∀ {m}, n ≤ m → ∀ ts, Copies 0 (moreTargets n) (moreTargets m) ts

namespace Copying

variable {n m : Nat}

/-! ### Operators -/

lemma expression_succ (h : Copying n) (hm : n ≤ m) (ts : List Token) :
    Copies 0 (Parser.expression (n + 1)) (Parser.expression (m + 1)) ts := by
  rw [Parser.expression, Parser.expression]
  refine (h.disjunction hm ts).then_bind fun a ts => ?_
  refine .accept_plain (by decide) rfl (fun ts => ?_) fun _ => .pure a
  refine (h.disjunction hm ts).then_bind fun c ts => ?_
  exact .expect (by decide) 0 rfl fun ts => (h.expression hm ts).bind_pure

lemma disjunction_succ (h : Copying n) (hm : n ≤ m) (ts : List Token) :
    Copies 0 (Parser.disjunction (n + 1)) (Parser.disjunction (m + 1)) ts := by
  rw [Parser.disjunction, Parser.disjunction]
  exact (h.conjunction hm ts).then_bind (h.disjunctionRest hm)

lemma disjunctionRest_succ (h : Copying n) (hm : n ≤ m) (a : Expr) (ts : List Token) :
    Copies 0 (Parser.disjunctionRest (n + 1) a) (Parser.disjunctionRest (m + 1) a) ts := by
  rw [Parser.disjunctionRest, Parser.disjunctionRest]
  refine .accept_plain (by decide) rfl (fun ts => ?_) fun _ => .pure a
  exact (h.conjunction hm ts).then_bind fun b => h.disjunctionRest hm _

lemma conjunction_succ (h : Copying n) (hm : n ≤ m) (ts : List Token) :
    Copies 0 (Parser.conjunction (n + 1)) (Parser.conjunction (m + 1)) ts := by
  rw [Parser.conjunction, Parser.conjunction]
  exact (h.inversion hm ts).then_bind (h.conjunctionRest hm)

lemma conjunctionRest_succ (h : Copying n) (hm : n ≤ m) (a : Expr) (ts : List Token) :
    Copies 0 (Parser.conjunctionRest (n + 1) a) (Parser.conjunctionRest (m + 1) a) ts := by
  rw [Parser.conjunctionRest, Parser.conjunctionRest]
  refine .accept_plain (by decide) rfl (fun ts => ?_) fun _ => .pure a
  exact (h.inversion hm ts).then_bind fun b => h.conjunctionRest hm _

lemma inversion_succ (h : Copying n) (hm : n ≤ m) (ts : List Token) :
    Copies 0 (Parser.inversion (n + 1)) (Parser.inversion (m + 1)) ts := by
  rw [Parser.inversion, Parser.inversion]
  refine .accept_plain (by decide) rfl (fun ts => (h.inversion hm ts).bind_pure) fun _ => ?_
  refine .here (Takes.here fun line => ?_) fun line => ?_
  · exact ((steady n).sum ts).firm_bind fun a ts =>
      ((steady n).comparisonLinks ts).solid_bind fun links => always_nothing
  · exact (h.sum hm ts).then_bind fun a ts => (h.comparisonLinks hm ts).bind_pure

/-- An operator is neither a bracket nor a semicolon. -/
lemma comparisonOp?_plain {k : TokenKind} {c : Comparison} (h : comparisonOp? k = some c) :
    k ≠ op ";" ∧ k.weight = 0 := by
  unfold comparisonOp? at h
  split at h
  all_goals first | exact ⟨by decide, rfl⟩ | cases h

lemma sumOp?_plain {k : TokenKind} {o : BinaryOp} (h : sumOp? k = some o) :
    k ≠ op ";" ∧ k.weight = 0 := by
  unfold sumOp? at h
  split at h
  all_goals first | exact ⟨by decide, rfl⟩ | cases h

lemma productOp?_plain {k : TokenKind} {o : BinaryOp} (h : productOp? k = some o) :
    k ≠ op ";" ∧ k.weight = 0 := by
  unfold productOp? at h
  split at h
  all_goals first | exact ⟨by decide, rfl⟩ | cases h

/-- Behind `not` nothing is taken, unless the token behind it makes it an operator. -/
lemma copies_notIn {ts : List Token} (hk : nextOf ts = some (word "not")) :
    Copies 0
      (peekSecond >>= fun k => if k = some (word "in") then
        skip >>= fun _ => skip >>= fun _ => pure (some Comparison.notMemberOf) else pure none)
      (peekSecond >>= fun k => if k = some (word "in") then
        skip >>= fun _ => skip >>= fun _ => pure (some Comparison.notMemberOf) else pure none) ts := by
  by_cases hin : secondOf ts = some (word "in")
  · have hsecond : nextOf ts.tail = some (word "in") := by
      rw [← hin, nextOf, List.head?_tail, secondOf]
    refine .peekSecond (Takes.peekSecond fun k hk' => ?_) rfl ?_
    · rw [if_pos (hk'.symm.trans hsecond)]
      refine Takes.skip_firm hk (by decide) (by decide) ?_
      exact (Takes.skip_pure hsecond (by decide) (by decide) _).solid
    · rw [if_pos hin]
      exact .skip_plain hk (by decide) rfl (.skip_pure hsecond (by decide) rfl)
  · intro a rest ha
    have hnone : (none, ts) = (a, rest) := by
      have hread : (if secondOf ts = some (word "in") then
          skip >>= fun _ => skip >>= fun _ => pure (some Comparison.notMemberOf)
          else pure none : Parser (Option Comparison)) ts = some (a, rest) := ha
      rw [if_neg hin] at hread
      exact Option.some.inj hread
    cases hnone
    refine ⟨[], rfl, rfl, by simp, fun used' rest' hused hrest => ?_⟩
    obtain rfl : used' = [] := List.map_eq_nil_iff.1 hused
    show (if secondOf rest' = some (word "in") then
        skip >>= fun _ => skip >>= fun _ => pure (some Comparison.notMemberOf)
        else pure none : Parser (Option Comparison)) rest' = _
    rw [if_neg ((hrest.second hk).ne (by decide) hin)]
    rfl

lemma copies_comparison? (ts : List Token) : Copies 0 comparison? comparison? ts := by
  rw [comparison?]
  refine .peek rfl ?_
  cases hk : nextOf ts with
  | none => exact .pure _
  | some k =>
    dsimp only
    cases hc : comparisonOp? k with
    | some c => exact .skip_pure hk (comparisonOp?_plain hc).1 (comparisonOp?_plain hc).2
    | none =>
      dsimp only
      split
      · next h => exact .skip_pure hk (h ▸ by decide) (h ▸ rfl)
      split
      · next h => exact copies_notIn (h ▸ hk)
      split
      · next h =>
        refine .skip_plain hk (h ▸ by decide) (h ▸ rfl) ?_
        exact (copies_accept (by decide) rfl _).bind_pure
      · exact .pure _

lemma comparisonLinks_succ (h : Copying n) (hm : n ≤ m) (ts : List Token) :
    Copies 0 (Parser.comparisonLinks (n + 1)) (Parser.comparisonLinks (m + 1)) ts := by
  rw [Parser.comparisonLinks, Parser.comparisonLinks]
  refine (copies_comparison? ts).then_bind fun c ts => ?_
  cases c with
  | none => exact .pure []
  | some c =>
    exact (h.sum hm ts).then_bind fun b ts => (h.comparisonLinks hm ts).bind_pure

lemma sum_succ (h : Copying n) (hm : n ≤ m) (ts : List Token) :
    Copies 0 (Parser.sum (n + 1)) (Parser.sum (m + 1)) ts := by
  have hfirm := (steady (n + 1)).sum ts
  rw [Parser.sum] at hfirm
  rw [Parser.sum, Parser.sum]
  exact .here hfirm fun line => (h.product hm ts).then_bind (h.sumRest hm line)

lemma sumRest_succ (h : Copying n) (hm : n ≤ m) (line : Nat) (a : Expr) (ts : List Token) :
    Copies 0 (Parser.sumRest (n + 1) line a) (Parser.sumRest (m + 1) line a) ts := by
  rw [Parser.sumRest, Parser.sumRest]
  refine .peek rfl ?_
  split
  · next o ho =>
    obtain ⟨k, hk, ho⟩ := Option.bind_eq_some_iff.1 ho
    refine .skip_plain hk (sumOp?_plain ho).1 (sumOp?_plain ho).2 ?_
    exact (h.product hm _).then_bind fun b => h.sumRest hm _ _
  · exact .pure a

lemma product_succ (h : Copying n) (hm : n ≤ m) (ts : List Token) :
    Copies 0 (Parser.product (n + 1)) (Parser.product (m + 1)) ts := by
  have hfirm := (steady (n + 1)).product ts
  rw [Parser.product] at hfirm
  rw [Parser.product, Parser.product]
  exact .here hfirm fun line => (h.factor hm ts).then_bind (h.productRest hm line)

lemma productRest_succ (h : Copying n) (hm : n ≤ m) (line : Nat) (a : Expr) (ts : List Token) :
    Copies 0 (Parser.productRest (n + 1) line a) (Parser.productRest (m + 1) line a) ts := by
  rw [Parser.productRest, Parser.productRest]
  refine .peek rfl ?_
  split
  · next o ho =>
    obtain ⟨k, hk, ho⟩ := Option.bind_eq_some_iff.1 ho
    refine .skip_plain hk (productOp?_plain ho).1 (productOp?_plain ho).2 ?_
    exact (h.factor hm _).then_bind fun b => h.productRest hm _ _
  · exact .pure a

lemma factor_succ (h : Copying n) (hm : n ≤ m) (ts : List Token) :
    Copies 0 (Parser.factor (n + 1)) (Parser.factor (m + 1)) ts := by
  have hfirm := (steady (n + 1)).factor ts
  rw [Parser.factor] at hfirm
  rw [Parser.factor, Parser.factor]
  refine .here hfirm fun line => ?_
  refine .accept_plain (by decide) rfl (fun ts => (h.factor hm ts).bind_pure) fun _ => ?_
  refine .accept_plain (by decide) rfl (fun ts => (h.factor hm ts).bind_pure) fun _ => ?_
  refine (h.primary hm ts).then_bind fun a ts => ?_
  exact .accept_plain (by decide) rfl (fun ts => (h.factor hm ts).bind_pure) fun _ => .pure a

/-! ### Operands -/

lemma copies_name (ts : List Token) : Copies 0 name name ts := by
  rw [name]
  refine .peek rfl ?_
  cases hk : nextOf ts with
  | none => exact .fail
  | some k =>
    cases k with
    | name id => exact .skip_pure hk (by simp [op]) rfl
    | _ => exact .fail

lemma primary_succ (h : Copying n) (hm : n ≤ m) (ts : List Token) :
    Copies 0 (Parser.primary (n + 1)) (Parser.primary (m + 1)) ts := by
  have hfirm := (steady (n + 1)).primary ts
  rw [Parser.primary] at hfirm
  rw [Parser.primary, Parser.primary]
  exact .here hfirm fun line => (h.atom hm ts).then_bind (h.primaryRest hm line)

lemma primaryRest_succ (h : Copying n) (hm : n ≤ m) (line : Nat) (a : Expr) (ts : List Token) :
    Copies 0 (Parser.primaryRest (n + 1) line a) (Parser.primaryRest (m + 1) line a) ts := by
  rw [Parser.primaryRest, Parser.primaryRest]
  refine .accept_plain (by decide) rfl (fun ts => ?_) fun _ => ?_
  · refine .here (Takes.here fun l => ?_) fun l => ?_
    · exact (always_name ts).firm_bind fun id => (steady n).primaryRest _ _
    · exact (copies_name ts).then_bind fun id => h.primaryRest hm _ _
  refine .accept (by decide) (-1) rfl (fun ts => ?_) fun _ => ?_
  · exact (h.arguments hm false ts).bind_plain fun items => h.primaryRest hm _ _
  refine .accept (by decide) (-1) rfl (fun ts => ?_) fun _ => .pure a
  exact (h.subscript hm line a ts).bind_plain fun e => h.primaryRest hm _ _

lemma arguments_succ (h : Copying n) (hm : n ≤ m) (named : Bool) (ts : List Token) :
    Copies (-1) (Parser.arguments (n + 1) named) (Parser.arguments (m + 1) named) ts := by
  rw [Parser.arguments, Parser.arguments]
  refine .accept (by decide) 0 rfl (fun ts => .pure _) fun _ => ?_
  refine (h.argument hm named ts).then_bind fun item ts => ?_
  refine .accept_plain (by decide) rfl (fun ts => (h.arguments hm _ ts).bind_pure) fun _ => ?_
  exact .expect (by decide) 0 rfl fun ts => .pure _

lemma argument_succ (h : Copying n) (hm : n ≤ m) (named : Bool) (ts : List Token) :
    Copies 0 (Parser.argument (n + 1) named) (Parser.argument (m + 1) named) ts := by
  rw [Parser.argument, Parser.argument]
  refine .accept_plain (by decide) rfl (fun ts => (h.expression hm ts).bind_pure) fun _ => ?_
  refine .here ?whole fun line => .peek rfl (.peekSecond ?behind ?_ ?_)
  case' whole =>
    refine Takes.here fun line => Takes.peek fun k hk => ?_
    obtain rfl : nextOf ts = k := hk
  -- the name and the sign behind it are taken if they are there, and something else if not
  case whole | behind =>
    refine Takes.peekSecond fun k hk => ?_
    split
    · next id hid =>
      refine Takes.skip_firm hid (by simp) (by simp [op]) ?_
      refine (Takes.skip_firm hk (by simp) (by decide) ?_).solid
      exact ((steady n).expression _).solid.solid_bind fun _ => always_nothing
    · split
      · exact always_fail ts
      · exact ((steady n).expression ts).firm_bind fun _ => always_nothing
  · cases nextOf ts with
    | none => rfl
    | some k => cases k <;> rfl
  split
  · next id hid hsign =>
    have hsecond : nextOf ts.tail = some (.op ['=']) := by
      rw [← hsign, nextOf, List.head?_tail, secondOf]
    refine .skip_plain hid (by simp [op]) rfl (.skip_plain hsecond (by decide) rfl ?_)
    exact (h.expression hm _).bind_pure
  · split
    · exact .fail
    · exact (h.expression hm ts).bind_pure

lemma subscript_succ (h : Copying n) (hm : n ≤ m) (line : Nat) (a : Expr) (ts : List Token) :
    Copies (-1) (Parser.subscript (n + 1) line a) (Parser.subscript (m + 1) line a) ts := by
  have hfirm := (steady (n + 1)).subscript line a ts
  rw [Parser.subscript] at hfirm
  rw [Parser.subscript, Parser.subscript]
  refine .here hfirm fun start => (h.bound hm ts).then_bind fun first ts => ?_
  have hclose : ∀ (e : Expr) ts, Copies (-1) (Parser.expect (op "]") >>= fun _ => pure e)
      (Parser.expect (op "]") >>= fun _ => pure e) ts :=
    fun e ts => .expect (by decide) 0 rfl fun ts => .pure e
  refine .accept_plain (by decide) rfl (fun ts => ?_) fun _ => ?_
  · refine (h.bound hm ts).then_bind fun high ts => ?_
    refine .accept_plain (by decide) rfl (fun ts => ?_) fun _ => ?_
    · exact (h.bound hm ts).then_bind fun step => hclose _
    · exact hclose _ ts
  · cases first with
    | none => exact .fail
    | some e =>
      refine .atToken (by decide) (by decide) ?_
      split
      · exact (h.moreItems hm (.plain e) ts).then_bind fun items => hclose _
      · exact hclose _ ts

lemma bound_succ (h : Copying n) (hm : n ≤ m) (ts : List Token) :
    Copies 0 (Parser.bound (n + 1)) (Parser.bound (m + 1)) ts := by
  rw [Parser.bound, Parser.bound]
  refine .atToken (by decide) (by decide) (.atToken (by decide) (by decide) ?_)
  split
  · exact .pure _
  · exact (h.expression hm ts).bind_pure

lemma hole_succ (h : Copying n) (hm : n ≤ m) (line : Nat) (written : Text) (ts : List Token) :
    Copies 0 (Parser.hole (n + 1) line written) (Parser.hole (m + 1) line written) ts := by
  intro e rest he
  rw [Parser.hole] at he
  dsimp only at he
  split at he
  · next e' rest' hread =>
    cases he
    have hinner := ((h.expression hm _).then_bind fun e ts =>
      Copies.expect (f := fun _ => pure e) (g := fun _ => pure e) (by decide) 0 rfl
        fun ts => .pure e).reads hread
    refine ⟨[], rfl, rfl, by simp, fun used' rest' hused _ => ?_⟩
    obtain rfl : used' = [] := List.map_eq_nil_iff.1 hused
    rw [Parser.hole]
    dsimp only
    rw [hinner]
    rfl
  · cases he

lemma pieces_succ (h : Copying n) (hm : n ≤ m) (raw : Bool) (first line : Nat)
    (rest : List FormatPart) (ps : List Piece) (ts : List Token) :
    Copies 0 (Parser.pieces (n + 1) raw first line rest ps)
      (Parser.pieces (m + 1) raw first line rest ps) ts := by
  cases ps with
  | nil =>
    rw [Parser.pieces.eq_2 _ _ _ _ _ (Nat.succ_ne_zero n), Parser.pieces.eq_2 _ _ _ _ _ (Nat.succ_ne_zero m)]
    exact .pure rest
  | cons p ps =>
    cases p with
    | text written =>
      rw [Parser.pieces, Parser.pieces]
      refine (h.pieces hm raw first line rest ps ts).then_bind fun behind ts => ?_
      split
      · exact .pure _
      · exact .fail
    | hole breaks written shown conversion =>
      rw [Parser.pieces, Parser.pieces]
      refine (h.hole hm _ written ts).then_bind fun e ts => ?_
      exact (h.pieces hm raw first line rest ps ts).bind_pure

/-- No string literal comes next. -/
lemma strings_nothing (n first : Nat) {ts : List Token}
    (hk : ¬ ∃ raw formatted body, nextOf ts = some (.string raw formatted body)) :
    Parser.strings (n + 1) first ts = some ((false, []), ts) := by
  have hpeek : ∀ f : Nat → Option TokenKind → Parser (Bool × List FormatPart),
      (Parser.here >>= fun line => peek >>= f line) ts = f ((ts.head?.map (·.line)).getD 0) (nextOf ts) ts :=
    fun _ => rfl
  rw [Parser.strings, hpeek]
  cases hk' : nextOf ts with
  | none => rfl
  | some k =>
    cases k with
    | string raw formatted body => exact absurd ⟨raw, formatted, body, hk'⟩ hk
    | _ => rfl

lemma strings_succ (h : Copying n) (hm : n ≤ m) (first : Nat) (ts : List Token) :
    Copies 0 (Parser.strings (n + 1) first) (Parser.strings (m + 1) first) ts := by
  by_cases hk : ∃ raw formatted body, nextOf ts = some (.string raw formatted body)
  · have hfirm := (steady (n + 1)).strings_firm first ts hk
    obtain ⟨raw, formatted, body, hk⟩ := hk
    rw [Parser.strings] at hfirm
    rw [Parser.strings, Parser.strings]
    refine .here hfirm fun line => .peek rfl ?_
    rw [hk]
    refine .skip_plain hk (by simp [op]) rfl ((h.strings hm first _).then_bind fun p ts => ?_)
    dsimp only
    split
    · split
      · exact (h.pieces hm _ _ _ _ _ ts).bind_pure
      · exact .fail
    · split
      · exact .pure _
      · exact .fail
  · intro a rest ha
    rw [strings_nothing n first hk] at ha
    cases ha
    refine ⟨[], rfl, rfl, by simp, fun used' rest' hused hrest => ?_⟩
    obtain rfl : used' = [] := List.map_eq_nil_iff.1 hused
    refine strings_nothing m first ?_
    rintro ⟨raw, formatted, body, hk'⟩
    exact hk ⟨raw, formatted, body, (hrest.next.eq_iff (by simp [op]) (by simp [op])).1 hk'⟩

lemma atom_succ (h : Copying n) (hm : n ≤ m) (ts : List Token) :
    Copies 0 (Parser.atom (n + 1)) (Parser.atom (m + 1)) ts := by
  have hfirm := (steady (n + 1)).atom ts
  rw [Parser.atom] at hfirm
  rw [Parser.atom, Parser.atom]
  refine .here hfirm fun line => .peek rfl ?_
  cases hk : nextOf ts with
  | none => exact .fail
  | some k =>
    cases k with
    | name id => exact .skip_pure hk (by simp [op]) rfl
    | int v count =>
      dsimp only
      split
      · exact .fail
      · exact .skip_pure hk (by simp [op]) rfl
    | float d e => exact .skip_pure hk (by simp [op]) rfl
    | string raw formatted body => exact (h.strings hm line ts).bind_pure
    | keyword w =>
      dsimp only
      split
      · exact .skip_pure hk (by simp [op]) rfl
      split
      · exact .skip_pure hk (by simp [op]) rfl
      split
      · exact .skip_pure hk (by simp [op]) rfl
      · exact .fail
    | op o =>
      dsimp only
      split
      · next ho => exact .skip hk (ho ▸ by decide) (-1) (ho ▸ rfl) (h.group hm line _)
      split
      · next ho => exact .skip hk (ho ▸ by decide) (-1) (ho ▸ rfl) (h.listDisplay hm line _)
      split
      · next ho => exact .skip hk (ho ▸ by decide) (-1) (ho ▸ rfl) (h.entries hm _).bind_pure
      · exact .fail
    | _ => exact .fail

/-! ### Displays -/

lemma group_succ (h : Copying n) (hm : n ≤ m) (line : Nat) (ts : List Token) :
    Copies (-1) (Parser.group (n + 1) line) (Parser.group (m + 1) line) ts := by
  rw [Parser.group, Parser.group]
  refine .accept (by decide) 0 rfl (fun ts => .pure _) fun _ => ?_
  refine (h.item hm ts).then_bind fun first ts => .atToken (by decide) (by decide) ?_
  have hclose : ∀ (e : Expr) ts, Copies (-1) (Parser.expect (op ")") >>= fun _ => pure e)
      (Parser.expect (op ")") >>= fun _ => pure e) ts :=
    fun e ts => .expect (by decide) 0 rfl fun ts => .pure e
  split
  · exact (h.moreItems hm first ts).then_bind fun items => hclose _
  · cases first with
    | plain e => exact hclose _ ts
    | _ => exact .fail

lemma listDisplay_succ (h : Copying n) (hm : n ≤ m) (line : Nat) (ts : List Token) :
    Copies (-1) (Parser.listDisplay (n + 1) line) (Parser.listDisplay (m + 1) line) ts := by
  rw [Parser.listDisplay, Parser.listDisplay]
  refine .accept (by decide) 0 rfl (fun ts => .pure _) fun _ => ?_
  refine (h.item hm ts).then_bind fun first ts => .atToken (by decide) (by decide) ?_
  have hclose : ∀ (e : Expr) ts, Copies (-1) (Parser.expect (op "]") >>= fun _ => pure e)
      (Parser.expect (op "]") >>= fun _ => pure e) ts :=
    fun e ts => .expect (by decide) 0 rfl fun ts => .pure e
  split
  · exact (h.clauses hm ts).then_bind fun cs => hclose _
  · exact (h.moreItems hm _ ts).then_bind fun items => hclose _

lemma copies_startsItem (ts : List Token) : Copies 0 startsItem startsItem ts := by
  rw [startsItem]
  refine .peek rfl ?_
  cases nextOf ts with
  | none => exact .fail
  | some k => exact .pure _

lemma moreItems_succ (h : Copying n) (hm : n ≤ m) (first : Item) (ts : List Token) :
    Copies 0 (Parser.moreItems (n + 1) first) (Parser.moreItems (m + 1) first) ts := by
  rw [Parser.moreItems, Parser.moreItems]
  refine .accept_plain (by decide) rfl (fun ts => ?_) fun _ => .pure _
  refine (copies_startsItem ts).then_bind fun b ts => ?_
  split
  · exact (h.item hm ts).then_bind fun i ts => (h.moreItems hm i ts).bind_pure
  · exact .pure _

lemma item_succ (h : Copying n) (hm : n ≤ m) (ts : List Token) :
    Copies 0 (Parser.item (n + 1)) (Parser.item (m + 1)) ts := by
  rw [Parser.item, Parser.item]
  refine .accept_plain (by decide) rfl (fun ts => (h.sum hm ts).bind_pure) fun _ => ?_
  exact (h.expression hm ts).bind_pure

lemma entries_succ (h : Copying n) (hm : n ≤ m) (ts : List Token) :
    Copies (-1) (Parser.entries (n + 1)) (Parser.entries (m + 1)) ts := by
  rw [Parser.entries, Parser.entries]
  refine .accept (by decide) 0 rfl (fun ts => .pure _) fun _ => ?_
  refine (h.expression hm ts).then_bind fun key ts => ?_
  refine .expect (by decide) (-1) rfl fun ts => ?_
  refine (h.expression hm ts).then_bind fun value ts => ?_
  refine .accept_plain (by decide) rfl (fun ts => (h.entries hm ts).bind_pure) fun _ => ?_
  exact .expect (by decide) 0 rfl fun ts => .pure _

lemma clauses_succ (h : Copying n) (hm : n ≤ m) (ts : List Token) :
    Copies 0 (Parser.clauses (n + 1)) (Parser.clauses (m + 1)) ts := by
  rw [Parser.clauses, Parser.clauses]
  refine .here_accept (by decide) 0 rfl (fun line ts => ?_) fun _ => ?_
  · refine (h.loopTarget hm ts).then_bind fun t ts => .expect (by decide) 0 rfl fun ts => ?_
    exact (h.disjunction hm ts).then_bind fun source ts => (h.clauses hm ts).bind_pure
  refine .accept_plain (by decide) rfl (fun ts => ?_) fun _ => .pure _
  exact (h.disjunction hm ts).then_bind fun c ts => (h.clauses hm ts).bind_pure

lemma copies_target (e : Expr) (ts : List Token) : Copies 0 (target e) (target e) ts := by
  unfold target
  split
  · exact .pure _
  · exact .fail

lemma loopTarget_succ (h : Copying n) (hm : n ≤ m) (ts : List Token) :
    Copies 0 (Parser.loopTarget (n + 1)) (Parser.loopTarget (m + 1)) ts := by
  have hfirm := (steady (n + 1)).loopTarget ts
  rw [Parser.loopTarget] at hfirm
  rw [Parser.loopTarget, Parser.loopTarget]
  refine .here hfirm fun line => (h.primary hm ts).then_bind fun first ts => ?_
  refine .atToken (by decide) (by decide) ?_
  split
  · exact (h.moreTargets hm ts).then_bind fun es => copies_target _
  · exact copies_target _ ts

lemma moreTargets_succ (h : Copying n) (hm : n ≤ m) (ts : List Token) :
    Copies 0 (Parser.moreTargets (n + 1)) (Parser.moreTargets (m + 1)) ts := by
  rw [Parser.moreTargets, Parser.moreTargets]
  refine .accept_plain (by decide) rfl (fun ts => ?_) fun _ => .pure _
  refine .atToken (by decide) (by decide) ?_
  split
  · exact .pure _
  · exact (h.primary hm ts).then_bind fun e ts => (h.moreTargets hm ts).bind_pure

lemma zero : Copying 0 where
  expression _ _ := .of_eq_fail Parser.expression.eq_1
  disjunction _ _ := .of_eq_fail Parser.disjunction.eq_1
  disjunctionRest _ _ _ := .of_eq_fail (Parser.disjunctionRest.eq_1 _)
  conjunction _ _ := .of_eq_fail Parser.conjunction.eq_1
  conjunctionRest _ _ _ := .of_eq_fail (Parser.conjunctionRest.eq_1 _)
  inversion _ _ := .of_eq_fail Parser.inversion.eq_1
  comparisonLinks _ _ := .of_eq_fail Parser.comparisonLinks.eq_1
  sum _ _ := .of_eq_fail Parser.sum.eq_1
  sumRest _ _ _ _ := .of_eq_fail (Parser.sumRest.eq_1 _ _)
  product _ _ := .of_eq_fail Parser.product.eq_1
  productRest _ _ _ _ := .of_eq_fail (Parser.productRest.eq_1 _ _)
  factor _ _ := .of_eq_fail Parser.factor.eq_1
  primary _ _ := .of_eq_fail Parser.primary.eq_1
  primaryRest _ _ _ _ := .of_eq_fail (Parser.primaryRest.eq_1 _ _)
  arguments _ _ _ := .of_eq_fail (Parser.arguments.eq_1 _)
  argument _ _ _ := .of_eq_fail (Parser.argument.eq_1 _)
  subscript _ _ _ _ := .of_eq_fail (Parser.subscript.eq_1 _ _)
  bound _ _ := .of_eq_fail Parser.bound.eq_1
  atom _ _ := .of_eq_fail Parser.atom.eq_1
  strings _ _ _ := .of_eq_fail (Parser.strings.eq_1 _)
  pieces _ _ _ _ _ _ _ := .of_eq_fail (Parser.pieces.eq_1 _ _ _ _ _)
  hole _ _ _ _ := .of_eq_fail (Parser.hole.eq_1 _ _)
  group _ _ _ := .of_eq_fail (Parser.group.eq_1 _)
  listDisplay _ _ _ := .of_eq_fail (Parser.listDisplay.eq_1 _)
  moreItems _ _ _ := .of_eq_fail (Parser.moreItems.eq_1 _)
  item _ _ := .of_eq_fail Parser.item.eq_1
  entries _ _ := .of_eq_fail Parser.entries.eq_1
  clauses _ _ := .of_eq_fail Parser.clauses.eq_1
  loopTarget _ _ := .of_eq_fail Parser.loopTarget.eq_1
  moreTargets _ _ := .of_eq_fail Parser.moreTargets.eq_1

/-- With room for one more step, in the place of which stands one of more. -/
lemma succ (h : Copying n) : Copying (n + 1) := by
  constructor
  all_goals
    intro m hm
    obtain ⟨m, rfl⟩ : ∃ m', m = m' + 1 := ⟨m - 1, by omega⟩
    have hm := Nat.le_of_succ_le_succ hm
  · exact h.expression_succ hm
  · exact h.disjunction_succ hm
  · exact h.disjunctionRest_succ hm
  · exact h.conjunction_succ hm
  · exact h.conjunctionRest_succ hm
  · exact h.inversion_succ hm
  · exact h.comparisonLinks_succ hm
  · exact h.sum_succ hm
  · exact h.sumRest_succ hm
  · exact h.product_succ hm
  · exact h.productRest_succ hm
  · exact h.factor_succ hm
  · exact h.primary_succ hm
  · exact h.primaryRest_succ hm
  · exact h.arguments_succ hm
  · exact h.argument_succ hm
  · exact h.subscript_succ hm
  · exact h.bound_succ hm
  · exact h.atom_succ hm
  · exact h.strings_succ hm
  · exact h.pieces_succ hm
  · exact h.hole_succ hm
  · exact h.group_succ hm
  · exact h.listDisplay_succ hm
  · exact h.moreItems_succ hm
  · exact h.item_succ hm
  · exact h.entries_succ hm
  · exact h.clauses_succ hm
  · exact h.loopTarget_succ hm
  · exact h.moreTargets_succ hm

end Copying

/-- An expression is read again from the same tokens. -/
theorem copying (n : Nat) : Copying n := by
  induction n with
  | zero => exact .zero
  | succ n ih => exact ih.succ

end ViewEngine.Script.Parser

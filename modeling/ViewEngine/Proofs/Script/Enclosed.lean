/-
# Code in brackets

Code that stands in brackets, and closes none that it has not opened, is cut into tokens without regard
to what surrounds it.  What is cut off it in front of a closing parenthesis is cut off it in front of
any edge and whatever brackets are opened in front.  The blanks, comments and line breaks at its end
hold no token, so they may be replaced by others.

* `Still`: text that holds no token;
* `Enclosed`: the tokens of code in brackets, in every place;
* `exists_enclosed`: code that is cut in one place.
-/
import Mathlib.Tactic.Common
import Mathlib.Tactic.Lemma
import ViewEngine.Proofs.Script.Copying
import ViewEngine.Proofs.Script.Edges

open ViewEngine.Script.Parser (places weights)

namespace ViewEngine.Script

/-! ## Text without tokens -/

/-- Blanks, comments and line breaks inside brackets, with so many of the last.  The end of a comment
belongs to it. -/
inductive Still : Nat → Text → Prop where
  /-- Nothing. -/
  | nil : Still 0 []
  /-- A blank. -/
  | gap {n : Nat} {c : Char} {t : Text} (hc : isGap c = true) (h : Still n t) : Still n (c :: t)
  /-- The end of a line. -/
  | feed {n : Nat} {t : Text} (h : Still n t) : Still (n + 1) ('\n' :: t)
  /-- A backslash that joins the line to the next. -/
  | join {n : Nat} {t : Text} (h : Still n t) : Still (n + 1) ('\\' :: '\n' :: t)
  /-- A comment. -/
  | remark {n : Nat} {w t : Text} (hw : '\n' ∉ w) (h : Still n t) :
      Still (n + 1) ('#' :: (w ++ '\n' :: t))

namespace Still

variable {m n : Nat} {t u r : Text}

lemma append (h : Still m t) (h' : Still n u) : Still (n + m) (t ++ u) := by
  induction h with
  | nil => exact h'
  | gap hc _ ih => exact ih.gap hc
  | feed _ ih => exact ih.feed
  | join _ ih => exact ih.join
  | remark hw _ ih =>
    rw [List.cons_append, List.append_assoc, List.cons_append]
    exact ih.remark hw

/-- Such text begins with a character that may stand behind an expression. -/
lemma edge_append (h : Still n t) (hr : Edge r) : Edge (t ++ r) := by
  cases h with
  | nil => exact hr
  | gap hc =>
    refine edge_cons ?_ _
    rw [isGap, Bool.or_eq_true, Bool.or_eq_true, decide_eq_true_eq, decide_eq_true_eq,
      decide_eq_true_eq] at hc
    rcases hc with (rfl | rfl) | rfl <;> simp [edgeChars]
  | feed | join | remark => exact edge_cons (by simp [edgeChars]) _

end Still

/-- The state so many lines below. -/
def LexState.below (s : LexState) (n : Nat) : LexState := { s with line := s.line + n }

section

variable {s next : LexState} {c : Char} {x t r : Text} {n m room : Nat}

lemma below_below (s : LexState) (m n : Nat) : (s.below m).below n = s.below (n + m) := by
  rw [LexState.below, LexState.below, LexState.below, Nat.add_assoc, Nat.add_comm m]

/-! ### Looks that find no token -/

lemma look_gap (hc : isGap c = true) (s : LexState) (r : Text) : look s c r = .skip 1 s := by
  unfold look
  rw [if_pos hc]

lemma look_remark (s : LexState) (r : Text) :
    look s '#' r = .skip ((r.takeWhile (· ≠ '\n')).length + 1) s := rfl

lemma look_feed (hopen : s.brackets ≠ []) (r : Text) :
    look s '\n' r = .skip 1 { s with line := s.line + 1, lineStart := false } := by
  have hempty : s.brackets.isEmpty = false := by simpa using hopen
  have hlook : look s '\n' r =
      let next := { s with line := s.line + 1, lineStart := s.brackets.isEmpty }
      if s.brackets.isEmpty then .token .newline 1 next else .skip 1 next := rfl
  rw [hlook, hempty]
  rfl

lemma look_join (s : LexState) (hr : r ≠ []) : look s '\\' ('\n' :: r) = .skip 2 (s.below 1) := by
  have hlook : look s '\\' ('\n' :: r) =
      if r.isEmpty then .stop (.stuck (s.bracketLine.getD s.line) s.bracketLine)
      else .skip 2 { s with line := s.line + 1 } := rfl
  have hmore : r.isEmpty = false := by simpa using hr
  rw [hlook, hmore]
  rfl

lemma takeWhile_feed {w : Text} (hw : '\n' ∉ w) (v : Text) :
    (w ++ '\n' :: v).takeWhile (· ≠ '\n') = w := by
  rw [List.takeWhile_append_of_pos fun c hc => by simpa using ne_of_mem_of_not_mem hc hw]
  simp

lemma lexFrom_feed (hs : s.lineStart = false) (hopen : s.brackets ≠ []) (r : Text) :
    lexFrom 0 s ('\n' :: r) = lexFrom 0 (s.below 1) r := by
  rw [lexFrom_inside hs, look_feed hopen, LexState.below, hs]

/-- **No token is cut off such text.** -/
theorem lexFrom_still (h : Still n t) (hs : s.lineStart = false) (hopen : s.brackets ≠ [])
    (hr : r ≠ []) : lexFrom 0 s (t ++ r) = lexFrom 0 (s.below n) r := by
  induction h generalizing s with
  | nil => rfl
  | gap hc _ ih =>
    rw [List.cons_append, lexFrom_inside hs, look_gap hc]
    exact ih hs hopen
  | feed _ ih =>
    rw [List.cons_append, lexFrom_feed hs hopen, ih (s := s.below 1) hs hopen, below_below]
  | @join n t _ ih =>
    have hmore : t ++ r ≠ [] := by simp [hr]
    rw [List.cons_append, List.cons_append, lexFrom_inside hs, look_join s hmore, ← below_below]
    exact ih (s := s.below 1) hs hopen
  | @remark n w t hw _ ih =>
    rw [List.cons_append, List.append_assoc, List.cons_append, lexFrom_inside hs, look_remark,
      takeWhile_feed hw]
    show lexFrom w.length s (w ++ '\n' :: (t ++ r)) = _
    rw [lexFrom_length, lexFrom_feed hs hopen, ih (s := s.below 1) hs hopen,
      below_below]

/-! ## Code in brackets -/

/-- The tokens of code in brackets: it is a part that ends in a token, and text without tokens; and the
tokens are cut off the first part in front of any edge, and whatever brackets, up to so many, were opened
in front.  No bracket is closed that was open in front of it, and one is open behind it. -/
structure Enclosed (room : Nat) (s : LexState) (u core tail : Text) (ts : List Token) (n : Nat)
    (mid : LexState) : Prop where
  split : u = core ++ tail
  still : Still n tail
  start : mid.lineStart = false
  indents : mid.indents = s.indents
  closes : ∃ line, mid.brackets = [('(', line)]
  last : core = [] ∧ ts = [] ∧ mid = s ∨
    ∃ w d, core = w ++ [d] ∧ Text.isBlank d = false ∧ (d = ';' → ∃ t ∈ ts, t.kind = .op [';'])
  mark : ∀ t ∈ ts, t.kind.isMark = false
  inside : ∀ front back, ts = front ++ back → 1 ≤ (s.brackets.length : Int) + weights front
  again : ∀ bs r, Edge r → bs.length ≤ room → ∃ ts', places ts' = places ts ∧
    lexFrom 0 (s.around bs) (core ++ r) = (lexFrom 0 (mid.around bs) r).push ts'

/-- Nothing more stands in the brackets. -/
lemma enclosed_nil (hs : s.lineStart = false)
    (hopen : s.brackets ≠ []) (h : (lexFrom 0 s [')', '\n']).ending = .complete) :
    Enclosed room s [] [] [] [] 0 s := by
  obtain ⟨b, line, rest, hbrackets⟩ : ∃ b line rest, s.brackets = (b, line) :: rest := by
    obtain ⟨p, rest, hp⟩ := List.exists_cons_of_ne_nil hopen
    exact ⟨p.1, p.2, rest, hp⟩
  have hlook : look s ')' ['\n'] = if b = '(' then .token (.op [')']) 1 { s with brackets := rest }
      else .stop (.fault s.line) := by
    show lookSymbol s ')' ['\n'] = _
    have hopening : ¬ (')' = '(' ∨ ')' = '[' ∨ ')' = '{') := by decide
    rw [lookSymbol, if_neg hopening, if_pos (.inl rfl), hbrackets]
    rfl
  rw [lexFrom_inside hs, hlook] at h
  by_cases hb : b = '('
  · subst hb
    rw [if_pos rfl] at h
    by_cases hrest : rest = []
    · subst hrest
      refine ⟨rfl, .nil, hs, rfl, ⟨line, hbrackets⟩, .inl ⟨rfl, rfl, rfl⟩, by simp, ?_, ?_⟩
      · intro front back hsplit
        obtain ⟨rfl, -⟩ := List.append_eq_nil_iff.1 hsplit.symm
        rw [hbrackets]
        exact Int.le_refl 1
      · exact fun bs r _ _ => ⟨[], rfl, rfl⟩
    -- the script cannot end while brackets are open
    · have hend : (lexFrom 0 { s with brackets := rest } ['\n']).ending = .complete := h
      rw [lexFrom_feed (s := { s with brackets := rest }) hs hrest, lexFrom] at hend
      simp [LexState.below, hrest] at hend
  · rw [if_neg hb] at h
    cases h

/-- Text without tokens in front. -/
lemma Enclosed.still_append {u core tail : Text} {ts : List Token} {mid : LexState}
    (hs : s.lineStart = false) (hopen : s.brackets ≠ []) (ht : Still m t)
    (h : Enclosed room (s.below m) u core tail ts n mid) :
    ∃ core tail ts n mid, Enclosed room s (t ++ u) core tail ts n mid := by
  rcases h.last with ⟨rfl, rfl, rfl⟩ | ⟨w, d, rfl, hblank, hsemicolon⟩
  -- all of it holds no token
  · refine ⟨[], t ++ tail, [], n + m, s, by rw [h.split]; rfl, ht.append h.still, hs, rfl,
      h.closes, .inl ⟨rfl, rfl, rfl⟩, by simp, h.inside, fun bs r _ _ => ⟨[], rfl, rfl⟩⟩
  · refine ⟨t ++ (w ++ [d]), tail, ts, n, mid, by simp [h.split], h.still, h.start,
      h.indents, h.closes, .inr ⟨t ++ w, d, by rw [List.append_assoc], hblank, hsemicolon⟩, h.mark, h.inside, ?_⟩
    intro bs r hr hbs
    obtain ⟨ts', hts', hlex⟩ := h.again bs r hr hbs
    have hopen' : (s.around bs).brackets ≠ [] := by simp [LexState.around, hopen]
    refine ⟨ts', hts', ?_⟩
    rw [List.append_assoc, lexFrom_still ht (s := s.around bs) hs hopen' (by simp)]
    exact hlex

lemma weight_of_look {k : TokenKind} (hlook : look s c r = .token k n next) :
    (s.brackets.length : Int) + k.weight = next.brackets.length := by
  have hbite := fits_look s c r
  rw [hlook] at hbite
  have hsum := Bite.weight hbite
  simp only [made, Option.toList_some, List.map_cons, List.map_nil, List.sum_cons, List.sum_nil]
    at hsum
  omega

lemma push_push (ts us : List Token) (rest : Tokens) :
    (rest.push us).push ts = rest.push (ts ++ us) := by
  rw [Tokens.push, Tokens.push, Tokens.push, List.append_assoc]

/-- A token in front. -/
lemma Enclosed.token_append {k : TokenKind} {i : Nat} {core tail : Text} {ts : List Token}
    {mid : LexState} (hs : s.lineStart = false) (hopen : s.brackets ≠ []) (hr : Edge r)
    (hlook : look s c (x ++ r) = .token k n next) (hn : n - 1 ≤ x.length)
    (hroom : next.brackets.length + room ≤ bracketLimit)
    (h : Enclosed room next (x.drop (n - 1)) core tail ts i mid) :
    ∃ core tail ts n mid, Enclosed room s (c :: x) core tail ts n mid := by
  -- the blanks at the end belong to the edge
  have hlength : (x.take (n - 1)).length = n - 1 := by rw [List.length_take, Nat.min_eq_left hn]
  have hx : x = (x.take (n - 1) ++ core) ++ tail := by
    rw [List.append_assoc, ← h.split, List.take_append_drop]
  generalize x.take (n - 1) = y at hlength hx
  have hedge := h.still.edge_append hr
  have hlook' : look s c ((y ++ core) ++ (tail ++ r)) = .token k n next := by
    rw [← List.append_assoc, ← hx]
    exact hlook
  have hfound := found_look hedge (.inl (by rw [List.length_append]; omega)) hopen hlook'
  have htake : (y ++ core).take (n - 1) = y := by rw [← hlength, List.take_left]
  have hweight := weight_of_look hlook
  refine ⟨c :: (y ++ core), tail, ⟨k, s.line, next.brackets.length⟩ :: ts, i, mid,
    congrArg (c :: ·) hx, h.still, h.start, h.indents.trans hfound.indents, h.closes, .inr ?_, ?_, ?_, ?_⟩
  · rcases h.last with ⟨rfl, rfl, -⟩ | ⟨w, d, rfl, hblank, hsemicolon⟩
    · obtain ⟨w, d, hw, hblank, hsemicolon⟩ := hfound.last
      rw [htake] at hw
      exact ⟨w, d, by rw [List.append_nil, hw], hblank,
        fun hd => ⟨_, List.mem_cons_self, hsemicolon hd⟩⟩
    · refine ⟨c :: (y ++ w), d, by simp, hblank, fun hd => ?_⟩
      obtain ⟨t, ht, hkind⟩ := hsemicolon hd
      exact ⟨t, List.mem_cons_of_mem _ ht, hkind⟩
  · exact List.forall_mem_cons.2 ⟨hfound.mark, h.mark⟩
  · intro front back hsplit
    cases front with
    | nil =>
      have hpos : 0 < s.brackets.length := List.length_pos_iff.2 hopen
      simp only [weights, List.map_nil, List.sum_nil]
      omega
    | cons t front =>
      cases hsplit
      have hrest := h.inside front back rfl
      rw [Parser.weights_cons]
      dsimp only
      omega
  · intro bs r' hr' hbs
    obtain ⟨ts', hts', hlex⟩ := h.again bs r' hr' hbs
    have hagain := hfound.again bs r' hr' (by omega)
    refine ⟨⟨k, s.line, (next.around bs).brackets.length⟩ :: ts', congrArg ((k, s.line) :: ·) hts', ?_⟩
    have hdrop : (y ++ core ++ r').drop (n - 1) = core ++ r' := by
      rw [← hlength, List.append_assoc, List.drop_left]
    rw [List.cons_append, lexFrom_inside (s := s.around bs) hs, hagain]
    dsimp only
    rw [lexFrom_drop, hdrop, hlex, push_push]
    rfl

/-- Where no token is found, text without tokens stands at the front.  A comment ends in front of the
parenthesis, or this would not be closed. -/
lemma exists_still (hs : s.lineStart = false) (hopen : s.brackets ≠ [])
    (hlook : look s c (x ++ [')', '\n']) = .skip n next)
    (hend : (lexFrom 0 s (c :: (x ++ [')', '\n']))).ending = .complete) :
    ∃ t u m, c :: x = t ++ u ∧ t ≠ [] ∧ Still m t := by
  have hbite := fits_look s c (x ++ [')', '\n'])
  rw [hlook, Look.Fits] at hbite
  generalize hcs : c :: (x ++ [')', '\n']) = cs at hbite
  generalize (x ++ [')', '\n']).drop (n - 1) = v at hbite
  cases hbite with
  | gap hc =>
    cases hcs
    exact ⟨[c], x, 0, rfl, by simp, .gap hc .nil⟩
  | comment =>
    obtain ⟨rfl, -⟩ := List.cons.inj hcs
    by_cases hfeed : '\n' ∈ x
    · obtain ⟨w, u, rfl, hw⟩ := List.eq_append_cons_of_mem hfeed
      exact ⟨'#' :: (w ++ ['\n']), u, 1, by simp, by simp, .remark hw .nil⟩
    · have hall : '\n' ∉ x ++ [')'] := by simp [hfeed]
      have hcut : x ++ [')', '\n'] = (x ++ [')']) ++ ['\n'] := by simp
      rw [lexFrom_inside hs, look_remark, hcut, takeWhile_feed hall] at hend
      have hrest : (lexFrom (x ++ [')']).length s ((x ++ [')']) ++ ['\n'])).ending = .complete := hend
      rw [lexFrom_length, lexFrom_feed hs hopen, lexFrom] at hrest
      simp [LexState.below, hopen] at hrest
  | join =>
    obtain ⟨rfl, hx⟩ := List.cons.inj hcs
    cases x with
    | nil => cases hx
    | cons d x =>
      cases hx
      exact ⟨['\\', '\n'], x, 1, rfl, by simp, .join .nil⟩
  | feedInside =>
    obtain ⟨rfl, -⟩ := List.cons.inj hcs
    exact ⟨['\n'], x, 1, rfl, by simp, .feed .nil⟩

end

lemma around_nil (s : LexState) : s.around [] = s := by rw [LexState.around, List.append_nil]

/-- **Code that is cut in brackets is cut in any brackets.** -/
theorem exists_enclosed {s : LexState} {u : Text} (hs : s.lineStart = false) (hopen : s.brackets ≠ [])
    (hroom : s.brackets.length + room ≤ bracketLimit)
    (hend : (lexFrom 0 s (u ++ [')', '\n'])).ending = .complete)
    (hlevels : ∀ t ∈ (lexFrom 0 s (u ++ ['\n'])).list, 1 ≤ t.level ∧ t.level + room ≤ bracketLimit) :
    ∃ core tail ts n mid, Enclosed room s u core tail ts n mid := by
  induction hu : u.length using Nat.strong_induction_on generalizing u s with
  | _ l ih =>
    rcases u with _ | ⟨c, x⟩
    · exact ⟨_, _, _, _, _, enclosed_nil hs hopen hend⟩
    rw [List.cons_append] at hend hlevels
    cases hlook : look s c (x ++ [')', '\n']) with
    | stop e =>
      have hfits := fits_look s c (x ++ [')', '\n'])
      rw [lexFrom_inside hs, hlook] at hend
      rw [hlook] at hfits
      exact absurd hend hfits
    | skip n next =>
      obtain ⟨t, v, m, hsplit, hne, ht⟩ := exists_still hs hopen hlook hend
      have hpos := List.length_pos_iff.2 hne
      have hlength := congrArg List.length hsplit
      rw [List.length_append, hu] at hlength
      have hrest : ∀ r, r ≠ [] → lexFrom 0 s (c :: (x ++ r)) = lexFrom 0 (s.below m) (v ++ r) := by
        intro r hr
        rw [← List.cons_append, hsplit, List.append_assoc]
        exact lexFrom_still ht hs hopen (by simp [hr])
      rw [hrest _ (by simp)] at hend hlevels
      obtain ⟨core, tail, ts, n, mid, h⟩ :=
        ih v.length (by omega) (s := s.below m) hs hopen hroom hend hlevels rfl
      rw [hsplit]
      exact h.still_append hs hopen ht
    | token k n next =>
      have hedge : Edge [')', '\n'] := edge_cons (by simp [edgeChars]) _
      have hfound := found_look hedge (.inr (by decide)) hopen hlook
      have hmore : next.brackets.length ≤ bracketLimit := hfound.room (by omega)
      have hfeed := hfound.again [] ['\n'] (edge_cons (by simp [edgeChars]) _) hmore
      rw [around_nil, around_nil] at hfeed
      have hdrop : ∀ r : Text, lexFrom (n - 1) next (x ++ r) = lexFrom 0 next (x.drop (n - 1) ++ r) :=
        fun r => by rw [lexFrom_drop, List.drop_append_of_le_length hfound.within]
      rw [lexFrom_inside hs, hlook] at hend
      rw [lexFrom_inside hs, hfeed] at hlevels
      dsimp only at hend hlevels
      rw [hdrop] at hend hlevels
      obtain ⟨hlevel, hrest⟩ := List.forall_mem_cons.1 hlevels
      have hopen' : next.brackets ≠ [] := List.length_pos_iff.1 hlevel.1
      have hshort : (x.drop (n - 1)).length < l := by
        rw [← hu, List.length_drop, List.length_cons]
        omega
      obtain ⟨core, tail, ts, i, mid, h⟩ :=
        ih _ hshort (hfound.start.trans hs) hopen' hlevel.2 hend hrest rfl
      exact h.token_append hs hopen hedge hlook hfound.within hlevel.2

end ViewEngine.Script

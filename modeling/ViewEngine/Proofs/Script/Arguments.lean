/-
# Texts as arguments

A text is an argument if a call with it between the parentheses compiles to a call with that argument.
The same text then is one in the lines of code that append something, wherever it stands there and
whatever blanks and comments follow it: it is cut into the same tokens, and the parser reads the same
expression in these.  If a semicolon follows it, none of the lines compiles.

* `IsArgument`, `Reading`: texts that are arguments, and how they are read;
* `IsArgument.reading`: a text that is an argument is read as one;
* `Reading.compile_raw`, `Reading.compile_escaped`: it is appended, as it is and escaped;
* `Reading.compile_raw_error`, `Reading.compile_escaped_error`: a semicolon behind it.
-/
import Mathlib.Tactic.Common
import Mathlib.Tactic.Lemma
import ViewEngine.Proofs.Fragment.Compilation
import ViewEngine.Proofs.Script.Calls
import ViewEngine.Proofs.Script.Enclosed

open ViewEngine.Script.Parser (Fails Reads SoleArgument op places spots_eq)

namespace ViewEngine.Script

/-! ## The tokens of a call -/

section

variable {s : LexState} {f r : Text} {sp : List Spot}

/-- What a call begins with. -/
lemma lexFrom_call (hs : s.lineStart = false) (hf : IsWord f) (hfree : f ∉ keywords)
    (hroom : s.brackets.length < bracketLimit) (r : Text) :
    lexFrom 0 s (f ++ '(' :: r) =
      (lexFrom 0 { s with brackets := ('(', s.line) :: s.brackets } r).push
        [⟨.name f, s.line, s.brackets.length⟩, ⟨op "(", s.line, s.brackets.length + 1⟩] := by
  obtain ⟨c, cs, rfl⟩ := List.exists_cons_of_ne_nil hf.ne_nil
  have hkind : wordKind (c :: cs) = .name (c :: cs) := by
    rw [wordKind, if_neg]
    rwa [List.contains_iff_mem]
  have hopening : look s '(' r =
      .token (.op ['(']) 1 { s with brackets := ('(', s.line) :: s.brackets } := by
    have hlen : ¬ bracketLimit ≤ s.brackets.length := by omega
    show lookSymbol s '(' r = _
    unfold lookSymbol
    simp only [true_or, if_true, hlen, if_false]
  rw [List.cons_append, lexFrom_inside hs, look_word (endsWord_opening r) hf, hkind]
  dsimp only
  rw [Nat.add_sub_cancel, lexFrom_length, lexFrom_inside hs, hopening]
  dsimp only
  rw [push_push]
  rfl

/-- The state inside the parentheses of a call at the front of a script. -/
def LexState.inCall : LexState := { line := 1, brackets := [('(', 1)], lineStart := false }

/-- A script that begins with a call. -/
lemma lex_call (hf : IsWord f) (hfree : f ∉ keywords) {code : Text}
    (hcode : closedLines code = f ++ '(' :: r) :
    lex 1 code = (lexFrom 0 .inCall r).push [⟨.name f, 1, 0⟩, ⟨op "(", 1, 1⟩] := by
  have hcall := lexFrom_call (s := { line := 1, lineStart := false }) rfl hf hfree (by decide) r
  rw [lex, hcode]
  obtain ⟨c, cs, rfl⟩ := List.exists_cons_of_ne_nil hf.ne_nil
  have hstart : lineStart { line := 1 } (List.replicate (4 * 0) ' ' ++ c :: (cs ++ '(' :: r)) =
      .code 0 false ⟨4 * 0, 4 * 0⟩ 0 :=
    lineStart_word (hf.isNameLike.nameLike c List.mem_cons_self) (indentChange_margins 0 0) (by simp)
  rw [List.cons_append] at hcall ⊢
  rw [lexFrom_front rfl hstart]
  exact hcall

lemma closedLines_feed {t : Text} (hreturn : '\r' ∉ t) : closedLines (t ++ ['\n']) = t ++ ['\n'] := by
  rw [closedLines, Text.unifyLineEnds_of_not_mem (by simpa using hreturn), if_pos List.getLast?_concat]

lemma closedLines_closing {t : Text} (hreturn : '\r' ∉ t) :
    closedLines (t ++ [')']) = t ++ [')', '\n'] := by
  rw [closedLines, Text.unifyLineEnds_of_not_mem (by simpa using hreturn), if_neg (by simp),
    List.append_assoc]
  rfl

end

section

variable {d line n room : Nat} {b t r core tail u : Text} {sp : List Spot} {ts : List Token} {mid : LexState}

lemma Inner.semicolon (h : Inner d line b t sp) :
    Inner d line b (';' :: t) ((op ";", line) :: sp) := by
  intro bs hbs
  exact .token (u := []) rfl rfl rfl (h bs hbs)

/-- Inside brackets text without tokens may stand anywhere. -/
lemma Inner.still (ht : Still n t) (hb : b ≠ []) (hr : r ≠ []) (h : Inner d (line + n) b r sp) :
    Inner d line b (t ++ r) sp := by
  intro bs hbs
  have hopen : bs ≠ [] := by
    rintro rfl
    exact hb hbs.symm
  have hstill := lexFrom_still ht (s := { line, indents := margins d, brackets := bs, lineStart := false })
    rfl hopen hr
  unfold Lexes
  rw [hstill]
  exact h bs hbs

/-- The tokens of a text in the parentheses of a call, which may stand in those of others. -/
lemma Enclosed.lexes (h : Enclosed room .inCall u core tail ts n mid) (hr : Edge r) (hb : b.length ≤ room)
    (hrest : Inner 0 mid.line ('(' :: b) r sp) {bs : List (Char × Nat)} (hbs : bs.map Prod.fst = b) :
    Lexes { line := 1, brackets := ('(', 1) :: bs, lineStart := false } (core ++ r) (places ts ++ sp) := by
  obtain ⟨ts', hts', hlex⟩ := h.again bs r hr (by rw [← hbs, List.length_map] at hb; exact hb)
  obtain ⟨line', hclose⟩ := h.closes
  have hmid : mid.around bs = { line := mid.line, indents := margins 0,
                                brackets := ('(', line') :: bs, lineStart := false } := by
    rw [LexState.around, hclose, h.start, h.indents]
    rfl
  have hlexes := hrest (('(', line') :: bs) (by rw [List.map_cons, hbs])
  rw [← hmid] at hlexes
  have hstate : LexState.inCall.around bs =
      { line := 1, brackets := ('(', 1) :: bs, lineStart := false } := rfl
  rw [hstate] at hlex
  unfold Lexes
  rw [hlex, LexesAt.map_spot_push, spots_eq h.mark hts', hlexes.1]
  exact ⟨rfl, hlexes.2⟩

end

/-! ## Arguments -/

/-- The text is one argument of a call and is worth the expression.  A call of a function with the text
between its parentheses compiles to that; and all of the text stands between these, where it opens so
few brackets that the call may stand in as many others as `outer` says. -/
structure IsArgument (outer : Nat) (e : Text) (x : Expr) : Prop where
  compiles : compile ("f(" ++ e ++ ")") = .ok [.expression (.call 1 (.name 1 "f") [.plain x])]
  inside : ∀ t ∈ (lex 1 ("f(" ++ e ++ "\n")).list.tail, 1 ≤ t.level ∧ t.level + outer ≤ bracketLimit

/-- The argument of the call, if a script is one such call. -/
def sole? : Program → Option Expr
  | [.expression (.call l (.name l' f) [.plain x])] => if l = 1 ∧ l' = 1 ∧ f = "f" then some x else none
  | _ => none

/-- Whether a text is an argument can be found out. -/
lemma exists_isArgument {outer : Nat} {e : Text}
    (hsole : ((compile ("f(" ++ e ++ ")")).toOption.bind sole?).isSome = true)
    (hinside : ∀ t ∈ (lex 1 ("f(" ++ e ++ "\n")).list.tail, 1 ≤ t.level ∧ t.level + outer ≤ bracketLimit) :
    ∃ x, IsArgument outer e x := by
  obtain ⟨x, hx⟩ := Option.isSome_iff_exists.1 hsole
  obtain ⟨p, hp, hp'⟩ := Option.bind_eq_some_iff.1 hx
  have hcompile : compile ("f(" ++ e ++ ")") = .ok p := by
    cases h : compile ("f(" ++ e ++ ")") with
    | error line =>
      rw [h] at hp
      cases hp
    | ok p' =>
      rw [h] at hp
      cases hp
      rfl
  refine ⟨x, ?_, hinside⟩
  unfold sole? at hp'
  split at hp'
  · split at hp'
    · next h =>
      obtain ⟨rfl, rfl, rfl⟩ := h
      cases hp'
      exact hcompile
    · cases hp'
  · cases hp'

/-- How a text is read as an argument. -/
structure Reading (outer : Nat) (e : Text) (x : Expr) where
  /-- The text up to its last token. -/
  core : Text
  /-- What is behind its last token. -/
  tail : Text
  /-- How many line breaks these are. -/
  breaks : Nat
  /-- Its tokens. -/
  tokens : List Token
  /-- Those of the expression, wherever it was read. -/
  front : List Token
  /-- Those behind the expression. -/
  between : List Token
  /-- The state behind the last token. -/
  mid : LexState
  /-- The bound on the recursion. -/
  depth : Nat
  /-- The expression as it was written. -/
  expr : Expr
  enclosed : Enclosed outer .inCall e core tail tokens breaks mid
  places_eq : places (front ++ between) = places tokens
  sole : SoleArgument depth expr front between
  room : depth + 14 ≤ Parser.depthFor (e.length + 3)
  folded : expr.folded = x
  check : x.check = .ok ()
  no_zero : '\x00' ∉ e
  no_return : '\r' ∉ e

section

variable {e : Text} {x : Expr} {outer : Nat}

/-- What is known of a script that compiles. -/
lemma compile_ok {code : Text} {p : Program} (h : compile code = .ok p) :
    '\x00' ∉ code ∧ ∃ s, parse? code = some s ∧ foldStatements s = p ∧ check code.length p = .ok () := by
  unfold compile at h
  split at h
  · cases h
  next hzero =>
  refine ⟨fun hmem => hzero (List.contains_iff_mem.2 hmem), ?_⟩
  split at h
  · cases h
  · next s hparse =>
    dsimp only at h
    split at h
    · cases h
    · next hcheck =>
      cases h
      exact ⟨s, hparse, rfl, hcheck⟩

/-- What is known of a script that is parsed. -/
lemma parse?_ok {code : Text} {s : Program} (h : parse? code = some s) :
    (lex 1 code).ending = .complete ∧
      ∃ rest, Parser.script (Parser.depthFor code.length) (lex 1 code).list = some (s, rest) := by
  unfold parse? at h
  dsimp only at h
  split at h
  · next hend =>
    obtain ⟨⟨s', rest⟩, hscript, rfl⟩ := Option.map_eq_some_iff.1 h
    exact ⟨hend, rest, hscript⟩
  · cases h

lemma exists_plain {items : List Item} (h : foldItems items = [.plain x]) :
    ∃ y, items = [.plain y] ∧ y.folded = x := by
  rcases items with _ | ⟨i, is⟩
  · cases h
  cases i with
  | plain y =>
    rcases is with _ | ⟨j, is⟩
    · cases h
      exact ⟨y, rfl, rfl⟩
    · cases j <;> cases h
  | spread y => cases h
  | keyword l id y => cases h

/-- What is known of a call that passes all checks. -/
lemma check_call {length l l' : Nat} {f : Text}
    (h : check length [.expression (.call l (.name l' f) [.plain x])] = .ok ()) : x.check = .ok () := by
  cases hx : x.check with
  | ok => rfl
  | error line =>
    have hfails : checkAll (4 * length + 8) {} [.expression (.call l (.name l' f) [.plain x])] =
        .error line := by
      simp only [checkAll, checkOne, Expr.check, checkItems, hx]
      rfl
    change checkAll (4 * length + 8) {} _ = .ok () at h
    rw [hfails] at h
    cases h

/-- **A text that is an argument is read as one.** -/
theorem IsArgument.reading (he : IsArgument outer e x) (houter : outer < bracketLimit)
    (hreturn : '\r' ∉ e) : Nonempty (Reading outer e x) := by
  obtain ⟨hzero, s, hparse, hfold, hcheck⟩ := compile_ok he.compiles
  obtain ⟨hend, rest, hscript⟩ := parse?_ok hparse
  have hf : IsWord "f" := isWord_cons (.inl rfl) (by simp)
  have hfree : ("f" : Text) ∉ keywords := by decide
  -- the text is cut off in the parentheses
  have hlex : lex 1 ("f(" ++ e ++ ")") =
      (lexFrom 0 .inCall (e ++ [')', '\n'])).push [⟨.name "f", 1, 0⟩, ⟨op "(", 1, 1⟩] := by
    have hclosed := closedLines_closing (t := "f(" ++ e) (by simpa using hreturn)
    exact lex_call hf hfree (by simpa using hclosed)
  have hopened : lex 1 ("f(" ++ e ++ "\n") =
      (lexFrom 0 .inCall (e ++ ['\n'])).push [⟨.name "f", 1, 0⟩, ⟨op "(", 1, 1⟩] := by
    have hclosed := closedLines_feed (t := "f(" ++ e) (by simpa using hreturn)
    exact lex_call hf hfree (by simpa using hclosed)
  have hlevels : ∀ t ∈ (lexFrom 0 .inCall (e ++ ['\n'])).list,
      1 ≤ t.level ∧ t.level + outer ≤ bracketLimit := by
    have hinside := he.inside
    rw [hopened] at hinside
    exact (List.forall_mem_cons.1 hinside).2
  rw [hlex] at hend hscript
  obtain ⟨core, tail, ts, n, mid, henclosed⟩ :=
    exists_enclosed (s := .inCall) rfl (by decide) (Nat.add_comm outer 1 ▸ houter) hend hlevels
  -- these are the tokens
  have hinner : Inner 0 mid.line ['('] (tail ++ [')', '\n'])
      [(op ")", mid.line + n), (.newline, mid.line + n), (.finish, 0)] :=
    .still henclosed.still (by simp) (by simp) (.closing (.newline (.nil 0 _)))
  have hedge : Edge (tail ++ [')', '\n']) := henclosed.still.edge_append (edge_cons (by simp [edgeChars]) _)
  have htokens := (henclosed.lexes (b := []) hedge (Nat.zero_le outer) hinner List.map_nil).1
  rw [← List.append_assoc, ← henclosed.split] at htokens
  have hspots : ((lexFrom 0 .inCall (e ++ [')', '\n'])).push
      [⟨.name "f", 1, 0⟩, ⟨op "(", 1, 1⟩]).list.map Token.spot =
      (.name "f", 1) :: (op "(", 1) :: (places ts ++
        [(op ")", mid.line + n), (.newline, mid.line + n), (.finish, 0)]) := by
    rw [LexesAt.map_spot_push]
    exact congrArg ([(.name "f", 1), (op "(", 1)] ++ ·) htokens
  -- and this is what the parser reads in them
  have hlength : ("f(" ++ e ++ ")").length = e.length + 3 := by
    simp only [List.length_append]
    show 2 + e.length + 1 = _
    omega
  obtain ⟨m, hm⟩ : ∃ m, Parser.depthFor (e.length + 3) = m + 14 :=
    ⟨Parser.depthFor (e.length + 3) - 14, by rw [Parser.depthFor]; omega⟩
  rw [hlength, hm] at hscript
  have hfronts : ∀ front back, ts = front ++ back → 0 ≤ Parser.weights front := by
    intro front back hsplit
    have hinside := henclosed.inside front back hsplit
    have hone : (LexState.inCall.brackets.length : Int) = 1 := rfl
    omega
  obtain ⟨items, rfl, hitems⟩ := Parser.script_call henclosed.mark hfronts hspots hscript
  have hfolded : foldItems items = [.plain x] := by
    have hcall : [Statement.expression (.call 1 (Expr.name 1 "f").folded (foldItems items))] = _ := hfold
    simp only [List.cons.injEq, Statement.expression.injEq, Expr.call.injEq, and_true, true_and] at hcall
    exact hcall.2
  obtain ⟨y, rfl, hy⟩ := exists_plain hfolded
  obtain ⟨front, between, hplaces, hsole⟩ := hitems y rfl
  exact ⟨⟨core, tail, n, ts, front, between, mid, m, y, henclosed, hplaces, hsole, hm.ge, hy,
    check_call hcheck, fun hmem => hzero (by simp [hmem]), hreturn⟩⟩

end

/-! ## The argument in other calls -/

lemma parse?_of_reads {code : Text} {sp : List Spot} {s : Program}
    (hlex : (lex 1 code).list.map Token.spot = sp) (hend : (lex 1 code).ending = .complete)
    (hread : Reads (Parser.script (Parser.depthFor code.length)) sp [] s) : parse? code = some s := by
  obtain ⟨rest, hscript, -⟩ := hread _ (by rw [hlex, List.append_nil])
  unfold parse?
  simp only [hend, if_true]
  show ((Parser.script (Parser.depthFor code.length)) (lex 1 code).list).map (·.1) = _
  rw [hscript]
  rfl

lemma parse?_of_fails {code : Text}
    (h : Fails (Parser.script (Parser.depthFor code.length)) (lex 1 code).list) : parse? code = none := by
  unfold parse?
  dsimp only
  split
  · show ((Parser.script (Parser.depthFor code.length)) (lex 1 code).list).map (·.1) = none
    rw [h]
    rfl
  · rfl

lemma compile_of_parse {code : Text} {s p : Program} (hzero : '\x00' ∉ code) (hparse : parse? code = some s)
    (hfold : foldStatements s = p) (hcheck : ∀ n, check n p = .ok ()) : compile code = .ok p := by
  have hnone : code.contains '\x00' = false := by
    rw [← Bool.not_eq_true, List.contains_iff_mem]
    exact hzero
  unfold compile
  simp only [hnone, Bool.false_eq_true, if_false, hparse, hfold, hcheck]

lemma compile_of_none {code : Text} (h : parse? code = none) : ∃ l, compile code = .error l := by
  unfold compile
  split
  · exact ⟨_, rfl⟩
  · rw [h]
    exact ⟨_, rfl⟩

/-- A call inside brackets. -/
lemma Lexes.call {s : LexState} {f r : Text} {sp : List Spot} (hs : s.lineStart = false) (hf : IsWord f)
    (hfree : f ∉ keywords) (hroom : s.brackets.length < bracketLimit)
    (h : Lexes { s with brackets := ('(', s.line) :: s.brackets } r sp) :
    Lexes s (f ++ '(' :: r) ((.name f, s.line) :: (op "(", s.line) :: sp) := by
  unfold Lexes at h ⊢
  rw [lexFrom_call hs hf hfree hroom, LexesAt.map_spot_push, h.1]
  exact ⟨rfl, h.2⟩

lemma appendEscaped_eq (t : Text) :
    appendEscaped t = appendRaw (Helper.escapeId ++ '(' :: (t ++ [')'])) := by
  show outputId ++ ['('] ++ Helper.escapeId ++ ['('] ++ t ++ [')', ')'] =
    outputId ++ ['('] ++ (Helper.escapeId ++ '(' :: (t ++ [')'])) ++ [')']
  simp

section

variable {inside : Text} {sp : List Spot} {n l : Nat} {x y : Expr}

lemma row_appendRaw (inside : Text) :
    row 0 (appendRaw inside) = outputId ++ '(' :: (inside ++ [')']) ++ ['\n'] := by
  show outputId ++ ['('] ++ inside ++ [')'] ++ ['\n'] = _
  simp

lemma not_mem_shown {c : Char} (hinside : c ∉ inside) (hc : c ∉ outputId ++ ['(', ')', '\n']) :
    c ∉ row 0 (appendRaw inside) := by
  rw [row_appendRaw]
  simp only [List.mem_append, List.mem_cons, List.not_mem_nil, or_false, not_or] at hc ⊢
  exact ⟨⟨hc.1, hc.2.1, hinside, hc.2.2.1⟩, hc.2.2.2⟩

lemma not_mem_escapeCall {c : Char} {t : Text} (ht : c ∉ t) (hc : c ∉ Helper.escapeId ++ ['(', ')']) :
    c ∉ Helper.escapeId ++ '(' :: (t ++ [')']) := by
  simp only [List.mem_append, List.mem_cons, List.not_mem_nil, or_false, not_or] at hc ⊢
  exact ⟨hc.1, hc.2.1, ht, hc.2.2⟩

/-- The tokens of a line that appends something. -/
lemma lex_shown (hreturn : '\r' ∉ inside) (h : Lexes .inCall (inside ++ [')', '\n']) sp) :
    (lex 1 (row 0 (appendRaw inside))).list.map Token.spot =
        (.name outputId, 1) :: (op "(", 1) :: sp ∧
      (lex 1 (row 0 (appendRaw inside))).ending = .complete := by
  have hclosed : closedLines (row 0 (appendRaw inside)) =
      outputId ++ '(' :: (inside ++ [')', '\n']) := by
    have hfeed := closedLines_feed (t := outputId ++ '(' :: (inside ++ [')'])) (by
      simp only [List.mem_append, List.mem_cons, List.not_mem_nil, or_false, not_or]
      exact ⟨by decide, by decide, hreturn, by decide⟩)
    rw [row_appendRaw, hfeed]
    simp
  rw [lex_call Fragment.isWord_output (by decide) hclosed, LexesAt.map_spot_push, h.1]
  exact ⟨rfl, h.2⟩

/-- What a line that appends something is compiled to. -/
lemma compile_shown (hreturn : '\r' ∉ inside) (hzero : '\x00' ∉ inside)
    (hlex : Lexes .inCall (inside ++ [')', '\n']) (sp ++ [(.newline, l), (.finish, 0)]))
    (hread : Reads (Parser.primary n) ((.name outputId, 1) :: (op "(", 1) :: sp)
      [(.newline, l), (.finish, 0)] (.call 1 (.name 1 outputId) [.plain y]))
    (hfuel : Parser.depthFor (row 0 (appendRaw inside)).length = n + 11) (hfold : y.folded = x)
    (hcheck : x.check = .ok ()) :
    compile (row 0 (appendRaw inside)) = .ok [Fragment.appends 1 1 x] := by
  obtain ⟨hspots, hend⟩ := lex_shown hreturn hlex
  have hall := Parser.reads_singleLine hread (.inl ⟨outputId, rfl⟩) rfl
  rw [← hfuel] at hall
  have hparse : parse? (row 0 (appendRaw inside)) = some [Fragment.appends 1 1 y] :=
    parse?_of_reads (by rw [hspots]; simp) hend hall
  have hfolded : foldStatements [Fragment.appends 1 1 y] = [Fragment.appends 1 1 x] := by
    show [Statement.expression (.call 1 (Expr.name 1 outputId).folded [.plain y.folded])] = _
    rw [Fragment.folded_name (by decide), hfold]
    rfl
  have hchecks : ∀ n, check n [Fragment.appends 1 1 x] = .ok () := fun n =>
    Fragment.Outline.checkAll_cons (Fragment.Outline.checkOne_appends hcheck)
      Fragment.Outline.checkAll_nil _
  exact compile_of_parse (not_mem_shown hzero (by decide)) hparse hfolded hchecks

/-- A line that appends something is not compiled if no arguments are read. -/
lemma compile_shown_error (hreturn : '\r' ∉ inside) (hlex : Lexes .inCall (inside ++ [')', '\n']) sp)
    (hfails : ∀ n us, us.map Token.spot = sp → Fails (Parser.arguments (n + 11) false) us) :
    ∃ line, compile (row 0 (appendRaw inside)) = .error line := by
  obtain ⟨hspots, -⟩ := lex_shown hreturn hlex
  obtain ⟨n, hfuel⟩ : ∃ n, Parser.depthFor (row 0 (appendRaw inside)).length = n + 11 + 13 :=
    ⟨Parser.depthFor (row 0 (appendRaw inside)).length - 24, by rw [Parser.depthFor]; omega⟩
  refine compile_of_none (parse?_of_fails ?_)
  obtain ⟨t, us, htokens, ht, hus⟩ := List.map_eq_cons_iff.1 hspots
  obtain ⟨o, us, rfl, ho, hus⟩ := List.map_eq_cons_iff.1 hus
  have hname : t.kind = .name outputId := congrArg Prod.fst ht
  have hk : Parser.nextOf (t :: o :: us) = some (.name outputId) := congrArg some hname
  rw [hfuel, htokens]
  exact Parser.fails_script hk (Parser.fails_primary hname (congrArg Prod.fst ho) (hfails n us hus))

end

namespace Reading

variable {e r w : Text} {x : Expr} {sp : List Spot} {k l outer : Nat} (h : Reading outer e x)

/-- The text ends in a character that is no blank and no semicolon. -/
lemma last : ∃ v d, h.core = v ++ [d] ∧ Text.isBlank d = false ∧ d ≠ ';' := by
  have hsame : ∀ t ∈ h.tokens, ∃ t' ∈ h.front ++ h.between, t'.kind = t.kind := by
    intro t ht
    have hmem : (t.kind, t.line) ∈ places (h.front ++ h.between) :=
      h.places_eq ▸ List.mem_map_of_mem ht
    obtain ⟨t', ht', heq⟩ := List.mem_map.1 hmem
    exact ⟨t', ht', (Prod.mk.inj heq).1⟩
  rcases h.enclosed.last with ⟨-, hnone, -⟩ | ⟨v, d, hcore, hblank, hsemicolon⟩
  · have hempty := h.places_eq
    rw [hnone] at hempty
    have hfront := List.map_eq_nil_iff.1 hempty
    exact absurd (List.append_eq_nil_iff.1 hfront).1 h.sole.front_ne_nil
  · refine ⟨v, d, hcore, hblank, ?_⟩
    rintro rfl
    obtain ⟨t, ht, hkind⟩ := hsemicolon rfl
    obtain ⟨t', ht', heq⟩ := hsame t ht
    exact h.sole.no_semicolon t' ht' (heq.trans hkind)

/-- The tokens of the argument in one call. -/
lemma lexes_raw (hr : Edge r) (hrest : Inner 0 h.mid.line ['('] r sp) :
    Lexes .inCall (' ' :: (h.core ++ r)) (places h.tokens ++ sp) :=
  .skip rfl rfl (h.enclosed.lexes (b := []) hr (Nat.zero_le outer) hrest List.map_nil)

/-- The tokens of the argument in a call inside another. -/
lemma lexes_escaped (houter : 1 ≤ outer) (hr : Edge r) (hrest : Inner 0 h.mid.line ['(', '('] r sp) :
    Lexes .inCall (Helper.escapeId ++ '(' :: ' ' :: (h.core ++ r))
      ((.name Helper.escapeId, 1) :: (op "(", 1) :: (places h.tokens ++ sp)) :=
  .call rfl Fragment.isWord_escape (by decide) (by decide)
    (.skip rfl rfl (h.enclosed.lexes (b := ['(']) hr houter hrest rfl))

/-- The argument is read in any call. -/
lemma reads_call {f : Text} {n l' l'' : Nat} (hn : h.depth ≤ n) (hsp : Parser.Parts sp) :
    Reads (Parser.primary (n + 4)) ((.name f, l) :: (op "(", l') :: (places h.tokens ++ [(op ")", l'')]))
      sp (.call l (.name l f) [.plain h.expr]) := by
  have hmarks := Parser.marks_eq h.places_eq h.enclosed.mark
  have harguments : Reads (Parser.arguments (n + 2) false)
      (places (h.front ++ h.between) ++ [(op ")", l'')]) sp [.plain h.expr] := h.sole.reads hn hmarks
  rw [h.places_eq] at harguments
  exact Parser.reads_callWith harguments hsp

/-- Code that is not shorter than the argument can be parsed as deep. -/
lemma exists_room {inside : Text} (hlength : e.length ≤ inside.length) {c : Nat} (hc : c ≤ 26) :
    ∃ n, h.depth ≤ n ∧ Parser.depthFor (row 0 (appendRaw inside)).length = n + c := by
  have hroom := h.room
  have hcode : (row 0 (appendRaw inside)).length = inside.length + 10 := by
    rw [row_appendRaw]
    simp only [List.length_append, List.length_cons, List.length_nil]
    show 7 + (inside.length + 1 + 1) + 1 = _
    omega
  rw [hcode]
  rw [Parser.depthFor] at hroom ⊢
  exact ⟨20 * (inside.length + 10) + 60 - c, by omega, by omega⟩

lemma not_mem_core {c : Char} (hc : c ∉ e) : c ∉ h.core := fun hmem =>
  hc (h.enclosed.split ▸ List.mem_append_left h.tail hmem)

/-- The characters that no argument holds do not come with blanks and comments either. -/
lemma not_mem_inside {c : Char} (hc : c ∉ e) (hw : c ∉ w) (hblank : c ≠ ' ') :
    c ∉ ' ' :: (h.core ++ w) := by
  simp [hblank, h.not_mem_core hc, hw]

/-- **The argument is appended as it is.** -/
theorem compile_raw (hw : Still k w) (hlength : e.length ≤ (h.core ++ w).length + 1)
    (hreturn : '\r' ∉ w) (hzero : '\x00' ∉ w) :
    compile (row 0 (appendRaw (' ' :: (h.core ++ w)))) = .ok [Fragment.appends 1 1 x] := by
  have hedge : Edge (w ++ [')', '\n']) := hw.edge_append (edge_cons (by simp [edgeChars]) _)
  have hinner : Inner 0 h.mid.line ['('] (w ++ [')', '\n'])
      [(op ")", h.mid.line + k), (.newline, h.mid.line + k), (.finish, 0)] :=
    .still hw (by simp) (by simp) (.closing (.newline (.nil 0 _)))
  have hlexes := h.lexes_raw hedge hinner
  have hlong : e.length ≤ (' ' :: (h.core ++ w)).length := hlength
  obtain ⟨n, hn, hfuel⟩ := h.exists_room hlong (c := 15) (by omega)
  exact compile_shown (n := n + 4) (h.not_mem_inside h.no_return hreturn (by decide))
    (h.not_mem_inside h.no_zero hzero (by decide)) (by simpa using hlexes)
    (h.reads_call hn ⟨_, _, _, rfl, by decide, by decide, by decide⟩) hfuel h.folded h.check

/-- **The argument is appended escaped.** -/
theorem compile_escaped (houter : 1 ≤ outer) (hw : Still k w)
    (hlength : e.length ≤ (h.core ++ w).length + 1) (hreturn : '\r' ∉ w) (hzero : '\x00' ∉ w) :
    compile (row 0 (appendEscaped (' ' :: (h.core ++ w)))) =
      .ok [Fragment.appends 1 1 (.call 1 (.name 1 Helper.escapeId) [.plain x])] := by
  have hedge : Edge (w ++ [')', ')', '\n']) := hw.edge_append (edge_cons (by simp [edgeChars]) _)
  have hinner : Inner 0 h.mid.line ['(', '('] (w ++ [')', ')', '\n'])
      [(op ")", h.mid.line + k), (op ")", h.mid.line + k), (.newline, h.mid.line + k), (.finish, 0)] :=
    .still hw (by simp) (by simp) (.closing (.closing (.newline (.nil 0 _))))
  have hlexes := h.lexes_escaped houter hedge hinner
  have hlong : e.length ≤ (Helper.escapeId ++ '(' :: (' ' :: (h.core ++ w) ++ [')'])).length := by
    simp only [List.length_append, List.length_cons] at hlength ⊢
    omega
  obtain ⟨n, hn, hfuel⟩ := h.exists_room hlong (Nat.le_refl 26)
  have hinside : Reads (Parser.primary (n + 4))
      ((.name Helper.escapeId, 1) :: (op "(", 1) :: (places h.tokens ++ [(op ")", h.mid.line + k)]))
      [(op ")", h.mid.line + k), (.newline, h.mid.line + k), (.finish, 0)]
      (.call 1 (.name 1 Helper.escapeId) [.plain h.expr]) :=
    h.reads_call hn ⟨_, _, _, rfl, by decide, by decide, by decide⟩
  have hcall : Reads (Parser.primary (n + 15)) ((.name outputId, 1) :: (op "(", 1) ::
      ((.name Helper.escapeId, 1) :: (op "(", 1) :: (places h.tokens ++ [(op ")", h.mid.line + k)]) ++
        [(op ")", h.mid.line + k)])) [(.newline, h.mid.line + k), (.finish, 0)]
      (.call 1 (.name 1 outputId) [.plain (.call 1 (.name 1 Helper.escapeId) [.plain h.expr])]) :=
    Parser.reads_call hinside (.inl ⟨_, rfl⟩) (Parser.head_ne (by decide) _ _)
      ⟨_, _, _, rfl, by decide, by decide, by decide⟩
  have hfolded : (Expr.call 1 (.name 1 Helper.escapeId) [.plain h.expr]).folded =
      .call 1 (.name 1 Helper.escapeId) [.plain x] := by
    show Expr.call 1 (Expr.name 1 Helper.escapeId).folded [.plain h.expr.folded] = _
    rw [Fragment.folded_name (by decide), h.folded]
  have hcheck : (Expr.call 1 (.name 1 Helper.escapeId) [.plain x]).check = .ok () := by
    simp only [Expr.check, checkItems, h.check]
    rfl
  rw [appendEscaped_eq]
  refine compile_shown (not_mem_escapeCall (h.not_mem_inside h.no_return hreturn (by decide)) (by decide))
    (not_mem_escapeCall (h.not_mem_inside h.no_zero hzero (by decide)) (by decide)) ?_ hcall hfuel
    hfolded hcheck
  simpa using hlexes

/-! ### In front of a semicolon -/

section

variable {v : Text}

/-- No arguments are read if a semicolon stands behind the argument. -/
lemma fails_arguments {us : List Token} {n : Nat}
    (hus : us.map Token.spot = places h.tokens ++ (op ";", l) :: sp) :
    Fails (Parser.arguments n false) us :=
  h.sole.fails_of_spots h.places_eq h.enclosed.mark hus

/-- **The argument is not appended as it is if a semicolon stands behind it.** -/
theorem compile_raw_error (hv : Still l v) (hw : Still k w) (hreturn : '\r' ∉ v ++ ';' :: w) :
    ∃ line, compile (row 0 (appendRaw (' ' :: (h.core ++ (v ++ ';' :: w))))) = .error line := by
  have hedge : Edge (v ++ ';' :: (w ++ [')', '\n'])) := hv.edge_append (edge_cons (by simp [edgeChars]) _)
  have hclose : Inner 0 (h.mid.line + l) ['('] (w ++ [')', '\n'])
      [(op ")", h.mid.line + l + k), (.newline, h.mid.line + l + k), (.finish, 0)] :=
    .still hw (by simp) (by simp) (.closing (.newline (.nil 0 _)))
  have hlexes := h.lexes_raw hedge (.still hv (by simp) (by simp) hclose.semicolon)
  refine compile_shown_error (h.not_mem_inside h.no_return hreturn (by decide)) (by simpa using hlexes) ?_
  exact fun n us hus => h.fails_arguments hus

/-- **The argument is not appended escaped if a semicolon stands behind it.** -/
theorem compile_escaped_error (houter : 1 ≤ outer) (hv : Still l v) (hw : Still k w)
    (hreturn : '\r' ∉ v ++ ';' :: w) :
    ∃ line, compile (row 0 (appendEscaped (' ' :: (h.core ++ (v ++ ';' :: w))))) = .error line := by
  have hedge : Edge (v ++ ';' :: (w ++ [')', ')', '\n'])) :=
    hv.edge_append (edge_cons (by simp [edgeChars]) _)
  have hclose : Inner 0 (h.mid.line + l) ['(', '('] (w ++ [')', ')', '\n'])
      [(op ")", h.mid.line + l + k), (op ")", h.mid.line + l + k), (.newline, h.mid.line + l + k),
        (.finish, 0)] :=
    .still hw (by simp) (by simp) (.closing (.closing (.newline (.nil 0 _))))
  have hlexes := h.lexes_escaped houter hedge (.still hv (by simp) (by simp) hclose.semicolon)
  rw [appendEscaped_eq]
  refine compile_shown_error (not_mem_escapeCall (h.not_mem_inside h.no_return hreturn (by decide))
    (by decide)) (by simpa using hlexes) fun n us hus => ?_
  obtain ⟨t, us, rfl, ht, hus⟩ := List.map_eq_cons_iff.1 hus
  obtain ⟨o, us, rfl, ho, hus⟩ := List.map_eq_cons_iff.1 hus
  have hname : t.kind = .name Helper.escapeId := congrArg Prod.fst ht
  have hopening : o.kind = op "(" := congrArg Prod.fst ho
  refine Parser.fails_arguments (congrArg some hname) ?_
    (Parser.fails_primary hname hopening (h.fails_arguments hus))
  simp [Parser.secondOf, hopening, op]

end

end Reading

end ViewEngine.Script

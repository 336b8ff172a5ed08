/-
# The code of a page

The generator goes through the source of a page and leaves the code of its outline: one statement for
every output and every run of text that is not trimmed away, a header for every loop and every choice,
with the statement that does nothing at the front of the block.

* `Page.pieces_source`: the source is cut into the pieces of the page;
* `Page.emits_pieces`: these add the statements of the outline and keep the depth;
* `Page.generate_source`: the code of a whole view, and where its lines come from.
-/
import Mathlib.Tactic.Common
import Mathlib.Tactic.Lemma
import ViewEngine.Proofs.Code.Generator
import ViewEngine.Proofs.Fragment.Page

namespace ViewEngine.Fragment

open Text (lineBehind)

/-! ## Pieces of the source -/

lemma not_mem_percent_of_code {t : Text} (h : ∀ c ∈ t, isCodeChar c = true) : '%' ∉ t :=
  fun hmem => ne_of_isCodeChar (h _ hmem) (d := '%') rfl rfl

lemma isCodeChar_endWord : ∀ c ∈ endWord, isCodeChar c = true := List.all_eq_true.1 (by decide)

lemma isExpression_text (e : Operand) : IsExpression e.text := by
  have hid : ∀ (x : Variable) {c : Char}, isCodeChar c = false → c ∉ x.id :=
    fun x c hc hmem => ne_of_isCodeChar (isCodeChar_id x c hmem) hc rfl
  -- the first character of a name is no blank
  have hfront : ∀ x : Variable, ∃ c ∈ x.id, Text.isBlank c = false := by
    intro x
    obtain ⟨c, cs, hx⟩ := List.exists_cons_of_ne_nil x.isWord.ne_nil
    have hmem : c ∈ x.id := by rw [hx]; exact List.mem_cons_self
    refine ⟨c, hmem, isBlank_of_isCodeChar (isCodeChar_id x c hmem) ?_⟩
    rintro rfl
    exact absurd (x.isWord.mem _ hmem) (by decide)
  cases e with
  | name x =>
    exact ⟨hid x rfl, hid x rfl, hid x rfl, hfront x⟩
  | call f x =>
    obtain ⟨c, hc, hblank⟩ := hfront f
    refine ⟨?_, ?_, ?_, c, List.mem_append_left _ hc, hblank⟩
    all_goals
      simp only [Operand.text, List.mem_append, List.mem_cons, List.not_mem_nil, or_false, not_or]
      exact ⟨hid f rfl, by decide, hid x rfl, by decide⟩

/-- A text that is empty or begins with a tag. -/
def Bounded (r : Text) : Prop :=
  r = [] ∨ ∃ u, r = '<' :: u ∧ ∀ t ps, Text.pieces Marker.first? r ≠ .plain t :: ps

lemma pieces_text {t : Verbatim} {r : Text} (hr : Bounded r) :
    Text.pieces Marker.first? (t.text ++ r) = .plain t.text :: Text.pieces Marker.first? r := by
  rcases hr with rfl | ⟨u, rfl, hplain⟩
  · rw [List.append_nil, pieces_unmarked t.unmarked t.ne_nil]
    rfl
  · exact pieces_unmarked_append t.unmarked t.ne_nil hplain

/-- The pieces of a tag that a closer closes. -/
def Closer.pieces (z : Closer) (m : Marker) (inside : Text) : List (Text.Piece Marker) :=
  tagPieces m z.marker inside

lemma Closer.piecesText_pieces (z : Closer) (m : Marker) (inside : Text) :
    piecesText (z.pieces m inside) = z.tag m inside :=
  piecesText_tagPieces m z.marker inside

lemma bounded_of_pieces {m : Marker} (hm : m.isOpen = true) {z : Closer} {inside r : Text}
    (h : Text.pieces Marker.first? (z.tag m inside ++ r) =
      z.pieces m inside ++ Text.pieces Marker.first? r) : Bounded (z.tag m inside ++ r) := by
  refine .inr ⟨m.text.tail ++ (inside ++ z.marker.text) ++ r, ?_, fun t ps heq => ?_⟩
  · cases m <;> first | rfl | cases hm
  · rw [h] at heq
    cases heq

namespace Page

variable {r : Text}

/-- The pieces of a tag that shows a value. -/
def shownPieces (escaped : Bool) (e : Operand) (z : Closer) : List (Text.Piece Marker) :=
  z.pieces (shownMarker escaped) (spaced e.text)

/-- The pieces of a tag with a line of code. -/
def codePieces (code : Text) (z : Closer) : List (Text.Piece Marker) :=
  z.pieces .openEval (spaced code)

lemma pieces_shownTag (b : Bool) (e : Operand) (z : Closer) :
    Text.pieces Marker.first? (shownTag b e z ++ r) =
      shownPieces b e z ++ Text.pieces Marker.first? r := by
  rw [shownTag, Closer.tag, List.append_assoc, List.append_assoc]
  exact pieces_inside _ z.marker z.closes (inside_spaced (isExpression_text e).no_percent) r

lemma pieces_codeTag {code : Text} (h : ∀ c ∈ code, isCodeChar c = true) (z : Closer) :
    Text.pieces Marker.first? (codeTag code z ++ r) =
      codePieces code z ++ Text.pieces Marker.first? r := by
  rw [codeTag, Closer.tag, List.append_assoc, List.append_assoc]
  exact pieces_inside _ z.marker z.closes (inside_spaced (not_mem_percent_of_code h)) r

lemma pieces_remark (c : Remark) :
    Text.pieces Marker.first? (c.tag ++ r) =
      c.closer.pieces .openComment c.text ++ Text.pieces Marker.first? r := by
  rw [Remark.tag, Closer.tag, List.append_assoc, List.append_assoc]
  exact pieces_comment_tag c.closer.marker c.closer.closes c.apart r

lemma bounded_shownTag (b : Bool) (e : Operand) (z : Closer) : Bounded (shownTag b e z ++ r) :=
  bounded_of_pieces (by cases b <;> rfl) (pieces_shownTag b e z)

lemma bounded_codeTag {code : Text} (h : ∀ c ∈ code, isCodeChar c = true) (z : Closer) :
    Bounded (codeTag code z ++ r) :=
  bounded_of_pieces rfl (pieces_codeTag h z)

/-- The pieces of the source. -/
def pieces : Page → List (Text.Piece Marker)
  | done => []
  | text t rest => [.plain t.text] ++ rest.pieces
  | shown b e z rest => shownPieces b e z ++ rest.pieces
  | comment c rest => c.closer.pieces .openComment c.text ++ rest.pieces
  | each x xs z body z' rest =>
    codePieces (eachHeader x xs) z ++ (body.pieces ++ (codePieces endWord z' ++ rest.pieces))
  | branch c z yes z' rest =>
    codePieces (branchHeader c) z ++ (yes.pieces ++ (codePieces endWord z' ++ rest.pieces))
  | choice c z yes z' no z'' rest =>
    codePieces (branchHeader c) z ++ (yes.pieces ++ (codePieces elseHeader z' ++ (no.pieces ++
      (codePieces endWord z'' ++ rest.pieces))))

lemma bounded_source {p : Page} (hp : p.beginsWithText = false) (hr : Bounded r) :
    Bounded (p.source ++ r) := by
  cases p with
  | done => exact hr
  | text t rest => cases hp
  | shown b e z rest =>
    rw [source, List.append_assoc]
    exact bounded_shownTag b e z
  | comment c rest =>
    rw [source, List.append_assoc]
    exact bounded_of_pieces rfl (pieces_remark c)
  | each x xs z body z' rest =>
    rw [source, List.append_assoc]
    exact bounded_codeTag (isCodeChar_eachHeader x xs) z
  | branch c z yes z' rest =>
    rw [source, List.append_assoc]
    exact bounded_codeTag (isCodeChar_branchHeader c) z
  | choice c z yes z' no z'' rest =>
    rw [source, List.append_assoc]
    exact bounded_codeTag (isCodeChar_branchHeader c) z

/-- **The source of a page is cut into its pieces.** -/
theorem pieces_source {p : Page} (hp : p.Parted) (hr : Bounded r) :
    Text.pieces Marker.first? (p.source ++ r) = p.pieces ++ Text.pieces Marker.first? r := by
  induction p generalizing r with
  | done => rfl
  | text t rest ih =>
    rw [source, List.append_assoc, pieces_text (bounded_source hp.1 hr), ih hp.2 hr]
    rfl
  | shown b e z rest ih =>
    rw [source, List.append_assoc, pieces_shownTag, ih hp hr, pieces, List.append_assoc]
  | comment c rest ih =>
    rw [source, List.append_assoc, pieces_remark, ih hp hr, pieces, List.append_assoc]
  | each x xs z body z' rest ihbody ih =>
    -- the tag behind the body keeps its last run of text apart
    have hbody := ihbody hp.1 (bounded_codeTag isCodeChar_endWord z' (r := rest.source ++ r))
    rw [pieces_codeTag isCodeChar_endWord, ih hp.2 hr] at hbody
    simp only [source, List.append_assoc]
    rw [pieces_codeTag (isCodeChar_eachHeader x xs), hbody]
    simp only [pieces, List.append_assoc]
  | branch c z yes z' rest ihyes ih =>
    have hyes := ihyes hp.1 (bounded_codeTag isCodeChar_endWord z' (r := rest.source ++ r))
    rw [pieces_codeTag isCodeChar_endWord, ih hp.2 hr] at hyes
    simp only [source, List.append_assoc]
    rw [pieces_codeTag (isCodeChar_branchHeader c), hyes]
    simp only [pieces, List.append_assoc]
  | choice c z yes z' no z'' rest ihyes ihno ih =>
    have hno := ihno hp.2.1 (bounded_codeTag isCodeChar_endWord z'' (r := rest.source ++ r))
    rw [pieces_codeTag isCodeChar_endWord, ih hp.2.2 hr] at hno
    have hyes := ihyes hp.1 (bounded_codeTag isCodeChar_elseHeader z'
      (r := no.source ++ (codeTag endWord z'' ++ (rest.source ++ r))))
    rw [pieces_codeTag isCodeChar_elseHeader, hno] at hyes
    simp only [source, List.append_assoc]
    rw [pieces_codeTag (isCodeChar_branchHeader c), hyes]
    simp only [pieces, List.append_assoc]

lemma piecesText_codePieces (code : Text) (z : Closer) :
    piecesText (codePieces code z) = codeTag code z :=
  z.piecesText_pieces _ _

lemma piecesText_pieces (p : Page) : piecesText p.pieces = p.source := by
  induction p with
  | done => rfl
  | text t rest ih => rw [pieces, piecesText_append, piecesText_plain, ih, source]
  | shown b e z rest ih =>
    rw [pieces, piecesText_append, shownPieces, z.piecesText_pieces, ih]
    rfl
  | comment c rest ih =>
    rw [pieces, piecesText_append, c.closer.piecesText_pieces, ih]
    rfl
  | each x xs z body z' rest ihbody ih =>
    simp only [pieces, piecesText_append, piecesText_codePieces, ihbody, ih, source]
  | branch c z yes z' rest ihyes ih =>
    simp only [pieces, piecesText_append, piecesText_codePieces, ihyes, ih, source]
  | choice c z yes z' no z'' rest ihyes ihno ih =>
    simp only [pieces, piecesText_append, piecesText_codePieces, ihyes, ihno, ih, source]

/-! ## The code of a page -/

open Generator (Emits emits_text emits_escaped emits_raw emits_comment emits_header emits_clause
  emits_end)

variable {front : Text} {b b' b'' : Bool} {d d' d'' : Nat} {ps qs : List (Text.Piece Marker)}
  {ss ss' : List Statement}

/-- Pieces behind each other, the second ones with the first ones in front of them. -/
lemma emits_append {t : Text} (h : Emits ps (lineBehind front) b b' d d' ss)
    (ht : piecesText ps = t) (h' : Emits qs (lineBehind (front ++ t)) b' b'' d' d'' ss') :
    Emits (ps ++ qs) (lineBehind front) b b'' d d'' (ss ++ ss') := by
  rw [← ht, lineBehind_append] at h'
  exact h.append h'

lemma emits_shown (escaped : Bool) (e : Operand) (z : Closer) {line : Int} :
    Emits (shownPieces escaped e z) line b z.trims d d [⟨d, (shownValue escaped e).code, line⟩] := by
  cases escaped with
  | true => exact emits_escaped z.closes (isExpression_text e)
  | false => exact emits_raw z.closes (isExpression_text e)

/-- The word that closes a block, behind the text `t` of the block. -/
lemma emits_endTag (z : Closer) {t : Text}
    (h : Emits qs (lineBehind (front ++ (t ++ codeTag endWord z))) z.trims b'' d d' ss) :
    Emits (codePieces endWord z ++ qs) (lineBehind (front ++ t)) b b'' (d + 1) d' ss := by
  rw [← List.append_assoc] at h
  exact emits_append (emits_end z.closes) (piecesText_codePieces endWord z) h

/-- **The pieces of a page add the statements of its outline and keep the depth.** -/
theorem emits_pieces (p : Page) (front : Text) (b : Bool) (d : Nat) :
    ∃ b', Emits p.pieces (lineBehind front) b b' d d ((p.outline front b).statements d) := by
  induction p generalizing front b d with
  | done => exact ⟨b, .nil⟩
  | text t rest ih =>
    obtain ⟨b', hrest⟩ := ih (front ++ t.text) false d
    rw [outline, Outline.statements_literal]
    exact ⟨b', emits_append emits_text (piecesText_plain t.text) hrest⟩
  | shown escaped e z rest ih =>
    obtain ⟨b', hrest⟩ := ih (front ++ shownTag escaped e z) z.trims d
    exact ⟨b', emits_append (emits_shown escaped e z) (z.piecesText_pieces _ _) hrest⟩
  | comment c rest ih =>
    obtain ⟨b', hrest⟩ := ih (front ++ c.tag) c.closer.trims d
    exact ⟨b', emits_append (emits_comment c.closer.closes) (c.closer.piecesText_pieces _ _) hrest⟩
  | each x xs z body z' rest ihbody ih =>
    have hheader : Emits (codePieces (eachHeader x xs) z) (lineBehind front) b z.trims d (d + 1) _ :=
      emits_header z.closes (isHeader_eachHeader x xs) rfl
    obtain ⟨b₁, hbody⟩ := ihbody (front ++ codeTag (eachHeader x xs) z) z.trims (d + 1)
    obtain ⟨b₂, hrest⟩ := ih (front ++ codeTag (eachHeader x xs) z ++
      (body.source ++ codeTag endWord z')) z'.trims d
    have hend := emits_endTag (b := b₁) z' hrest
    have hblock := emits_append hbody body.piecesText_pieces hend
    exact ⟨b₂, emits_append hheader (piecesText_codePieces _ z) hblock⟩
  | branch c z yes z' rest ihyes ih =>
    have hheader : Emits (codePieces (branchHeader c) z) (lineBehind front) b z.trims d (d + 1) _ :=
      emits_header z.closes (isHeader_branchHeader c) rfl
    obtain ⟨b₁, hyes⟩ := ihyes (front ++ codeTag (branchHeader c) z) z.trims (d + 1)
    obtain ⟨b₂, hrest⟩ := ih (front ++ codeTag (branchHeader c) z ++
      (yes.source ++ codeTag endWord z')) z'.trims d
    have hend := emits_endTag (b := b₁) z' hrest
    have hblock := emits_append hyes yes.piecesText_pieces hend
    exact ⟨b₂, emits_append hheader (piecesText_codePieces _ z) hblock⟩
  | choice c z yes z' no z'' rest ihyes ihno ih =>
    have hheader : Emits (codePieces (branchHeader c) z) (lineBehind front) b z.trims d (d + 1) _ :=
      emits_header z.closes (isHeader_branchHeader c) rfl
    obtain ⟨b₁, hyes⟩ := ihyes (front ++ codeTag (branchHeader c) z) z.trims (d + 1)
    let other := front ++ codeTag (branchHeader c) z ++ yes.source
    have helse : Emits (codePieces elseHeader z') (lineBehind other) b₁ z'.trims (d + 1) (d + 1) _ :=
      emits_clause z'.closes isHeader_elseHeader rfl
    obtain ⟨b₂, hno⟩ := ihno (other ++ codeTag elseHeader z') z'.trims (d + 1)
    obtain ⟨b₃, hrest⟩ := ih (other ++ codeTag elseHeader z' ++ (no.source ++ codeTag endWord z''))
      z''.trims d
    have hend := emits_endTag (b := b₂) z'' hrest
    have hblock := emits_append hno no.piecesText_pieces hend
    have hblocks := emits_append hyes yes.piecesText_pieces
      (emits_append helse (piecesText_codePieces _ z') hblock)
    exact ⟨b₃, emits_append hheader (piecesText_codePieces _ z) hblocks⟩

/-- **The code of a view, and the lines of the view for its lines.** -/
theorem generate_source {p : Page} (hp : p.Parted) (name : Option Text) :
    ∃ g, generate p.source name = .ok g ∧ g.code = (p.outline [] false).code 0 ∧
      g.lineMap = (p.outline [] false).lines ∧
      g.name = name ∧ g.source = some p.source := by
  have hpieces := pieces_source hp (r := []) (.inl rfl)
  have hempty : Text.pieces Marker.first? [] = [] := rfl
  rw [List.append_nil, hempty] at hpieces
  obtain ⟨b, hemits⟩ := emits_pieces p [] false 0
  let l : Listing := { statements := (p.outline [] false).statements 0, depth := 0 }
  have hrun : Generator.run {} (tokens p.source) = .ok { listing := l, trim := b } := by
    rw [tokens, hpieces]
    exact hemits [] []
  refine ⟨l.toGenerated name p.source, ?_, rfl, ?_, rfl, rfl⟩
  · rw [generate, hrun]
  · exact Outline.lineMap_statements _ _

end Page

end ViewEngine.Fragment

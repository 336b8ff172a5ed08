/-
# Pages

The views whose failures are told: trees of text, tags that show the value of a name or what a helper
makes of it, comments, loops and choices.  Any tag may be closed by any of the three close markers, of
which two trim the line break behind them; so what a piece of a page becomes depends on where it
stands.  An outline is taken of a page with the text in front of it at hand.

* `Page.source`: the page as it is written;
* `Page.outline`: the code that is generated for it, with the line of the view for each statement.
-/
import Mathlib.Tactic.Common
import Mathlib.Tactic.Lemma
import ViewEngine.Proofs.Fragment.Outline

namespace ViewEngine.Fragment

open Text (lineBehind)

/-! ## Tags -/

/-- A marker that closes a tag. -/
structure Closer where
  /-- The marker. -/
  marker : Marker
  closes : marker.isClose = true

namespace Closer

/-- `%>` -/
def plain : Closer := ⟨.close, rfl⟩

/-- Is a line break behind the marker trimmed? -/
def trims (z : Closer) : Bool := decide (z.marker ≠ .close)

/-- A tag that the marker closes. -/
def tag (z : Closer) (m : Marker) (inside : Text) : Text := m.text ++ (inside ++ z.marker.text)

end Closer

/-- What a comment says, with the marker that closes it. -/
structure Remark where
  /-- What is said. -/
  text : Text
  /-- How the tag is closed. -/
  closer : Closer
  apart : Apart text closer.marker

/-- A comment as it is written. -/
def Remark.tag (c : Remark) : Text := c.closer.tag .openComment c.text

/-! ## Pages -/

/-- A view whose failures are told. -/
inductive Page where
  /-- Nothing more. -/
  | done
  /-- Text outside tags. -/
  | text (t : Verbatim) (rest : Page)
  /-- `<%= e %>`, or `<%- e %>` if it is not to be escaped. -/
  | shown (escaped : Bool) (e : Operand) (z : Closer) (rest : Page)
  /-- `<%# c %>` -/
  | comment (c : Remark) (rest : Page)
  /-- `<% for x in xs: %>body<% end %>` -/
  | each (x xs : Variable) (z : Closer) (body : Page) (z' : Closer) (rest : Page)
  /-- `<% if c: %>yes<% end %>` -/
  | branch (c : Variable) (z : Closer) (yes : Page) (z' : Closer) (rest : Page)
  /-- `<% if c: %>yes<% else: %>no<% end %>` -/
  | choice (c : Variable) (z : Closer) (yes : Page) (z' : Closer) (no : Page) (z'' : Closer)
    (rest : Page)

namespace Page

/-- The marker that opens a tag which shows a value. -/
def shownMarker (escaped : Bool) : Marker := if escaped then .openEscaped else .openRaw

/-- A tag that shows a value. -/
def shownTag (escaped : Bool) (e : Operand) (z : Closer) : Text :=
  z.tag (shownMarker escaped) (spaced e.text)

/-- A tag with a line of code. -/
def codeTag (code : Text) (z : Closer) : Text := z.tag .openEval (spaced code)

/-- The page as it is written. -/
def source : Page → Text
  | done => []
  | text t rest => t.text ++ rest.source
  | shown b e z rest => shownTag b e z ++ rest.source
  | comment c rest => c.tag ++ rest.source
  | each x xs z body z' rest =>
    codeTag (eachHeader x xs) z ++ (body.source ++ (codeTag endWord z' ++ rest.source))
  | branch c z yes z' rest =>
    codeTag (branchHeader c) z ++ (yes.source ++ (codeTag endWord z' ++ rest.source))
  | choice c z yes z' no z'' rest =>
    codeTag (branchHeader c) z ++ (yes.source ++ (codeTag elseHeader z' ++ (no.source ++
      (codeTag endWord z'' ++ rest.source))))

/-! ### Shape -/

/-- Does the page begin with a run of text? -/
def beginsWithText : Page → Bool
  | text .. => true
  | _ => false

/-- No run of text stands directly behind another one. -/
def Parted : Page → Prop
  | done => True
  | text _ rest => rest.beginsWithText = false ∧ rest.Parted
  | shown _ _ _ rest | comment _ rest => rest.Parted
  | each _ _ _ body _ rest => body.Parted ∧ rest.Parted
  | branch _ _ yes _ rest => yes.Parted ∧ rest.Parted
  | choice _ _ yes _ no _ rest => yes.Parted ∧ no.Parted ∧ rest.Parted

/-- How many loops lie inside each other. -/
def loops : Page → Nat
  | done => 0
  | text _ rest | shown _ _ _ rest | comment _ rest => rest.loops
  | each _ _ _ body _ rest => max (body.loops + 1) rest.loops
  | branch _ _ yes _ rest => max yes.loops rest.loops
  | choice _ _ yes _ no _ rest => max (max yes.loops no.loops) rest.loops

/-- How many blocks lie inside each other. -/
def blocks : Page → Nat
  | done => 0
  | text _ rest | shown _ _ _ rest | comment _ rest => rest.blocks
  | each _ _ _ body _ rest => max (body.blocks + 1) rest.blocks
  | branch _ _ yes _ rest => max (yes.blocks + 1) rest.blocks
  | choice _ _ yes _ no _ rest => max (max (yes.blocks + 1) (no.blocks + 1)) rest.blocks

/-! ## Outlines of pages -/

/-- What a tag that shows a value appends. -/
def shownValue (escaped : Bool) (e : Operand) : Appended :=
  if escaped then .escaped e else .raw e

/-- The code for the page behind a text; `trim` says whether a line break at its front is trimmed. -/
def outline (front : Text) (trim : Bool) : Page → Outline
  | done => .done
  | text t rest =>
    .literal (trimmedLine trim t.text (lineBehind front)) (trimmed trim t.text)
      (rest.outline (front ++ t.text) false)
  | shown b e z rest =>
    .append (lineBehind front) (shownValue b e) (rest.outline (front ++ shownTag b e z) z.trims)
  | comment c rest => rest.outline (front ++ c.tag) c.closer.trims
  | each x xs z body z' rest =>
    let inside := front ++ codeTag (eachHeader x xs) z
    .each (lineBehind front) x xs (body.outline inside z.trims)
      (rest.outline (inside ++ (body.source ++ codeTag endWord z')) z'.trims)
  | branch c z yes z' rest =>
    let inside := front ++ codeTag (branchHeader c) z
    .branch (lineBehind front) c (yes.outline inside z.trims)
      (rest.outline (inside ++ (yes.source ++ codeTag endWord z')) z'.trims)
  | choice c z yes z' no z'' rest =>
    let inside := front ++ codeTag (branchHeader c) z
    let other := inside ++ yes.source
    let inside' := other ++ codeTag elseHeader z'
    .choice (lineBehind front) c (yes.outline inside z.trims) (lineBehind other)
      (no.outline inside' z'.trims)
      (rest.outline (inside' ++ (no.source ++ codeTag endWord z'')) z''.trims)

lemma loops_outline (p : Page) (front : Text) (trim : Bool) :
    (p.outline front trim).loops = p.loops := by
  induction p generalizing front trim with
  | done => rfl
  | text t rest ih => rw [outline, Outline.loops_literal, ih, loops]
  | shown b e z rest ih => exact ih _ _
  | comment c rest ih => exact ih _ _
  | each x xs z body z' rest ihbody ih => simp only [outline, Outline.loops, ihbody, ih, loops]
  | branch c z yes z' rest ihyes ih => simp only [outline, Outline.loops, ihyes, ih, loops]
  | choice c z yes z' no z'' rest ihyes ihno ih =>
    simp only [outline, Outline.loops, ihyes, ihno, ih, loops]

lemma blocks_outline (p : Page) (front : Text) (trim : Bool) :
    (p.outline front trim).blocks = p.blocks := by
  induction p generalizing front trim with
  | done => rfl
  | text t rest ih => rw [outline, Outline.blocks_literal, ih, blocks]
  | shown b e z rest ih => exact ih _ _
  | comment c rest ih => exact ih _ _
  | each x xs z body z' rest ihbody ih => simp only [outline, Outline.blocks, ihbody, ih, blocks]
  | branch c z yes z' rest ihyes ih => simp only [outline, Outline.blocks, ihyes, ih, blocks]
  | choice c z yes z' no z'' rest ihyes ihno ih =>
    simp only [outline, Outline.blocks, ihyes, ihno, ih, blocks]

end Page

end ViewEngine.Fragment

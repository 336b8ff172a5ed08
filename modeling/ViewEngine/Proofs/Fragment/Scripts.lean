/-
# The scripts of pages and trees

The source of a page compiles to the script of its outline.  A tree is a page whose tags all have the
plain close marker.  So its source compiles as well, and the script has the shape of the tree: a call
for every run of text and every output, a loop for every loop, a choice for every choice.  What a
script shows does not depend on the lines that it remembers, so these are left open.

* `Page.compile_source`: the source of a page compiles to the script of its outline;
* `Tree.page`: the tree as a page;
* `Compiled`: the scripts of a tree;
* `Tree.compile_source`: the source of a tree compiles to a script of the tree.
-/
import Mathlib.Tactic.Common
import Mathlib.Tactic.Lemma
import ViewEngine.Proofs.Fragment.Compilation
import ViewEngine.Proofs.Fragment.Generation

namespace ViewEngine.Fragment

/-! ## Scripts of a page -/

/-- **The source of a page compiles to the script of its outline.** -/
theorem Page.compile_source {p : Page} (hparted : p.Parted) (hloops : p.loops ≤ Script.blockLimit)
    (hblocks : p.blocks ≤ Script.indentLimit) (name : Option Text) :
    ∃ g, generate p.source name = .ok g ∧ g.name = name ∧ g.source = some p.source ∧
      g.lineMap = (p.outline [] false).lines ∧
      Script.compile g.code = .ok ((p.outline [] false).script 1) := by
  obtain ⟨g, hgenerate, hcode, hmap, hname, hsource⟩ := generate_source hparted name
  refine ⟨g, hgenerate, hname, hsource, hmap, ?_⟩
  rw [hcode]
  refine Outline.compile_code _ ?_ ?_
  · rwa [loops_outline]
  · rwa [blocks_outline]

/-! ## Scripts of a tree -/

/-- The script has the shape of the tree. -/
inductive Compiled : Tree → List Script.Statement → Prop
  | done : Compiled .done []
  | text {t rest ss} (l l' : Nat) (h : Compiled rest ss) :
    Compiled (.text t rest) (appends l l' (.constant (.text t.text)) :: ss)
  | escaped {x rest ss} (l l' k k' j : Nat) (h : Compiled rest ss) :
    Compiled (.escaped x rest)
      (appends l l' (.call k (.name k' Helper.escapeId) [.plain (.name j x.id)]) :: ss)
  | raw {x rest ss} (l l' j : Nat) (h : Compiled rest ss) :
    Compiled (.raw x rest) (appends l l' (.name j x.id) :: ss)
  | comment {c rest ss} (h : Compiled rest ss) : Compiled (.comment c rest) ss
  | each {x xs body rest bs ss} (l l' : Nat) (hbody : Compiled body bs) (h : Compiled rest ss) :
    Compiled (.each x xs body rest)
      (.forEach l (.name x.id) (.name l' xs.id) (.pass :: bs) [] :: ss)
  | branch {c yes rest ys ss} (l : Nat) (hyes : Compiled yes ys) (h : Compiled rest ss) :
    Compiled (.branch c yes rest) (.branch (.name l c.id) (.pass :: ys) [] :: ss)
  | choice {c yes no rest ys ns ss} (l : Nat) (hyes : Compiled yes ys) (hno : Compiled no ns)
    (h : Compiled rest ss) :
    Compiled (.choice c yes no rest)
      (.branch (.name l c.id) (.pass :: ys) (.pass :: ns) :: ss)

namespace Tree

/-! ## Trees as pages -/

/-- A comment that says a name. -/
def remark (c : Variable) : Remark where
  text := spaced c.id
  closer := .plain
  apart := (inside_spaced (not_mem_percent_of_code (isCodeChar_id c))).apart .close

/-- The tree as a page. -/
def page : Tree → Page
  | done => .done
  | text t rest => .text t rest.page
  | escaped x rest => .shown true (.name x) .plain rest.page
  | raw x rest => .shown false (.name x) .plain rest.page
  | comment c rest => .comment (remark c) rest.page
  | each x xs body rest => .each x xs .plain body.page .plain rest.page
  | branch c yes rest => .branch c .plain yes.page .plain rest.page
  | choice c yes no rest => .choice c .plain yes.page .plain no.page .plain rest.page

lemma source_page (t : Tree) : t.page.source = t.source := by
  have hcode : ∀ code, Page.codeTag code .plain = tag .openEval code := fun _ => rfl
  induction t with
  | done => rfl
  | text t rest ih => exact congrArg (t.text ++ ·) ih
  | escaped x rest ih => exact congrArg (tag .openEscaped x.id ++ ·) ih
  | raw x rest ih => exact congrArg (tag .openRaw x.id ++ ·) ih
  | comment c rest ih => exact congrArg (tag .openComment c.id ++ ·) ih
  | each x xs body rest ihbody ih =>
    simp only [page, Page.source, hcode, ihbody, ih, source, List.append_assoc]
  | branch c yes rest ihyes ih =>
    simp only [page, Page.source, hcode, ihyes, ih, source, List.append_assoc]
  | choice c yes no rest ihyes ihno ih =>
    simp only [page, Page.source, hcode, ihyes, ihno, ih, source, List.append_assoc]

lemma beginsWithText_page (t : Tree) : t.page.beginsWithText = t.beginsWithText := by
  cases t <;> rfl

lemma parted_page {t : Tree} (h : t.Parted) : t.page.Parted := by
  induction t with
  | done => trivial
  | text t rest ih => exact ⟨(beginsWithText_page rest).trans h.1, ih h.2⟩
  | escaped x rest ih => exact ih h
  | raw x rest ih => exact ih h
  | comment c rest ih => exact ih h
  | each x xs body rest ihbody ih => exact ⟨ihbody h.1, ih h.2⟩
  | branch c yes rest ihyes ih => exact ⟨ihyes h.1, ih h.2⟩
  | choice c yes no rest ihyes ihno ih => exact ⟨ihyes h.1, ihno h.2.1, ih h.2.2⟩

lemma loops_page (t : Tree) : t.page.loops = t.loops := by
  induction t with
  | done => rfl
  | text t rest ih => exact ih
  | escaped x rest ih => exact ih
  | raw x rest ih => exact ih
  | comment c rest ih => exact ih
  | each x xs body rest ihbody ih => simp only [page, Page.loops, ihbody, ih, loops]
  | branch c yes rest ihyes ih => simp only [page, Page.loops, ihyes, ih, loops]
  | choice c yes no rest ihyes ihno ih => simp only [page, Page.loops, ihyes, ihno, ih, loops]

lemma blocks_page (t : Tree) : t.page.blocks = t.blocks := by
  induction t with
  | done => rfl
  | text t rest ih => exact ih
  | escaped x rest ih => exact ih
  | raw x rest ih => exact ih
  | comment c rest ih => exact ih
  | each x xs body rest ihbody ih => simp only [page, Page.blocks, ihbody, ih, blocks]
  | branch c yes rest ihyes ih => simp only [page, Page.blocks, ihyes, ih, blocks]
  | choice c yes no rest ihyes ihno ih => simp only [page, Page.blocks, ihyes, ihno, ih, blocks]

/-! ## From the source to the script -/

/-- Nothing is trimmed away, so the script of the outline is one of the tree. -/
lemma compiled_script (t : Tree) (front : Text) (n : Nat) :
    Compiled t ((t.page.outline front false).script n) := by
  induction t generalizing front n with
  | done => exact .done
  | text t rest ih =>
    have hkept : t.text.isEmpty = false := by simpa using t.ne_nil
    show Compiled _ ((Outline.literal _ t.text _).script n)
    rw [Outline.literal, hkept]
    exact .text n n (ih _ (n + 1))
  | escaped x rest ih => exact .escaped n n n n n (ih _ (n + 1))
  | raw x rest ih => exact .raw n n n (ih _ (n + 1))
  | comment c rest ih => exact .comment (ih _ n)
  | each x xs body rest ihbody ih => exact .each n n (ihbody _ (n + 2)) (ih _ _)
  | branch c yes rest ihyes ih => exact .branch n (ihyes _ (n + 2)) (ih _ _)
  | choice c yes no rest ihyes ihno ih =>
    exact .choice n (ihyes _ (n + 2)) (ihno _ _) (ih _ _)

/-- **The source of a tree compiles to a script of the tree.** -/
theorem compile_source {t : Tree} (hparted : t.Parted) (hloops : t.loops ≤ Script.blockLimit)
    (hblocks : t.blocks ≤ Script.indentLimit) (name : Option Text) :
    ∃ g ss, generate t.source name = .ok g ∧ Script.compile g.code = .ok ss ∧ Compiled t ss := by
  obtain ⟨g, hgenerate, -, -, -, hcompile⟩ := Page.compile_source (parted_page hparted)
    (by rwa [loops_page]) (by rwa [blocks_page]) name
  rw [source_page] at hgenerate
  exact ⟨g, _, hgenerate, hcompile, compiled_script t [] 1⟩

end Tree

end ViewEngine.Fragment

/-
# Sections as they are written

A view can be written as free texts with section blocks between them.  Around its body a block may
have spaces, tabs and a line break on either side, and it ends at the nearest end mark.  This file
says that reading such a view recovers what was written, if no head of a section stands anywhere but
at a block.  The directive for the parent can then be put anywhere into the free texts: only the
parent changes.

* `section?_block`: a block is read as its name and its body, whatever stands behind it;
* `sections_viewText`: the sections that are found in a written view, and what is left of it;
* `dependencies_written`: what is read from a written view, with a directive for the parent and
  without it.
-/
import Mathlib.Data.List.Infix
import ViewEngine.Proofs.Layout.Directive

namespace ViewEngine.Layout

/-! ## Blocks -/

/-- The line breaks. -/
def lineBreaks : List Text := [['\r', '\n'], ['\r'], ['\n']]

lemma mem_lineBreaks {lb : Text} :
    lb ∈ lineBreaks ↔ lb = ['\r', '\n'] ∨ lb = ['\r'] ∨ lb = ['\n'] := by
  simp [lineBreaks]

/-- Is the character a space, a tab, or one of a line break? -/
def isMargin (c : Char) : Bool := isSpacing c || c = '\r' || c = '\n'

lemma isMargin_of_isSpacing {c : Char} (h : isSpacing c = true) : isMargin c = true := by
  rw [isMargin, h]
  rfl

lemma isMargin_eq_false_iff {c : Char} :
    isMargin c = false ↔ isSpacing c = false ∧ c ≠ '\r' ∧ c ≠ '\n' := by
  simp [isMargin, and_assoc]

/-- The spaces, tabs and the line break that may stand between a body and a mark. -/
structure Border where
  lineBreak : Text
  spaces : Text
  break_mem : lineBreak = [] ∨ lineBreak ∈ lineBreaks
  spacing : ∀ c ∈ spaces, isSpacing c = true

/-- A section as it is written. -/
structure Block where
  name : Text
  /-- Between the head and the body: spaces, then a line break. -/
  front : Border
  body : Text
  /-- Between the body and the end mark: a line break, then spaces. -/
  back : Border
  isName : IsName name
  /-- The end mark does not stand in the body. -/
  unended : ¬ sectionEnd <:+: body
  head_body : ∀ c ∈ body.head?, isMargin c = false
  last_body : ∀ c ∈ body.getLast?, isMargin c = false

namespace Block

/-- A block, as it is written. -/
def text (b : Block) : Text :=
  written sectionHead b.name ++ b.front.spaces ++ b.front.lineBreak ++ b.body ++
    b.back.lineBreak ++ b.back.spaces ++ sectionEnd

lemma text_ne_nil (b : Block) : b.text ≠ [] := by
  simp [text, written]

end Block

/-- The end of a section behind its body, with a text behind the section. -/
def closing (back : Border) (v : Text) : Text :=
  back.lineBreak ++ (back.spaces ++ (sectionEnd ++ v))

lemma Block.text_append (b : Block) (v : Text) : b.text ++ v =
    written sectionHead b.name ++
      (b.front.spaces ++ (b.front.lineBreak ++ (b.body ++ closing b.back v))) := by
  simp [text, closing]

/-! ## Borders -/

/-- The text does not begin with a character of a line break. -/
def Flush (t : Text) : Prop := ∀ c ∈ t.head?, c ≠ '\r' ∧ c ≠ '\n'

lemma withoutLineBreak_of_flush {t : Text} (h : Flush t) : withoutLineBreak t = t := by
  rcases t with _ | ⟨c, t⟩
  · rfl
  · obtain ⟨hr, hn⟩ := h c rfl
    rw [withoutLineBreak, Text.afterLineBreak?]
    · rfl
    · intro cs heq
      exact hr (List.cons.inj heq).1
    · intro cs heq
      exact hr (List.cons.inj heq).1
    · intro cs heq
      exact hn (List.cons.inj heq).1

/-- One line break is taken off, unless a carriage return is read together with what follows. -/
lemma withoutLineBreak_append {lb t : Text} (hlb : lb ∈ lineBreaks)
    (h : lb = ['\r'] → t.head? ≠ some '\n') : withoutLineBreak (lb ++ t) = t := by
  rcases mem_lineBreaks.1 hlb with rfl | rfl | rfl
  · rfl
  · rcases t with _ | ⟨c, t⟩
    · rfl
    · have hc : c ≠ '\n' := fun heq => h rfl (congrArg some heq)
      rw [withoutLineBreak, List.singleton_append, Text.afterLineBreak?]
      · rfl
      · intro cs heq
        exact hc (List.cons.inj heq).1
  · rfl

lemma withoutLineBreak_append_of_flush {lb t : Text} (hlb : lb = [] ∨ lb ∈ lineBreaks)
    (h : Flush t) : withoutLineBreak (lb ++ t) = t := by
  rcases hlb with rfl | hlb
  · exact withoutLineBreak_of_flush h
  · exact withoutLineBreak_append hlb fun _ hn => (h _ hn).2 rfl

/-- Spaces in front of a line break end there. -/
lemma dropWhile_lineBreak {lb : Text} (h : lb ∈ lineBreaks) (t : Text) :
    (lb ++ t).dropWhile isSpacing = lb ++ t := by
  rcases mem_lineBreaks.1 h with rfl | rfl | rfl <;> rfl

lemma flush_spaces {spaces : Text} (h : ∀ c ∈ spaces, isSpacing c = true) (v : Text) :
    Flush (spaces ++ (sectionEnd ++ v)) := by
  intro c hc
  rcases spaces with _ | ⟨d, spaces⟩
  · cases hc
    decide
  · cases hc
    have hc : isSpacing c = true := h c List.mem_cons_self
    constructor <;> rintro rfl <;> cases hc

/-! ## The end of a section -/

/-- The end of a section is found behind any border. -/
lemma afterSectionEnd?_closing (back : Border) (v : Text) :
    afterSectionEnd? (closing back v) = some v := by
  rw [afterSectionEnd?, closing,
    withoutLineBreak_append_of_flush back.break_mem (flush_spaces back.spacing v),
    List.dropWhile_append_of_pos back.spacing, Text.after?_eq_some_iff]
  rfl

lemma sectionBody?_closing (back : Border) (v : Text) :
    sectionBody? (closing back v) = some ([], v) := by
  have hend := afterSectionEnd?_closing back v
  rcases h : closing back v with _ | ⟨c, t⟩
  · rw [h] at hend
    cases hend
  · rw [sectionBody?, ← h, hend]

/-- The text in front of the line break that is taken off holds a margin only. -/
lemma exists_withoutLineBreak (t : Text) :
    ∃ lb : Text, (∀ c ∈ lb, isMargin c = true) ∧ t = lb ++ withoutLineBreak t := by
  unfold withoutLineBreak Text.afterLineBreak?
  split
  · exact ⟨['\r', '\n'], by simp [isMargin], rfl⟩
  · exact ⟨['\r'], by simp [isMargin], rfl⟩
  · exact ⟨['\n'], by simp [isMargin], rfl⟩
  · exact ⟨[], by simp, rfl⟩

/-- Where the end of a section is found, it stands behind a margin. -/
lemma exists_of_afterSectionEnd? {t r : Text} (h : afterSectionEnd? t = some r) :
    ∃ margin : Text, (∀ c ∈ margin, isMargin c = true) ∧ t = margin ++ (sectionEnd ++ r) := by
  rw [afterSectionEnd?, Text.after?_eq_some_iff] at h
  obtain ⟨lb, hlb, hsplit⟩ := exists_withoutLineBreak t
  refine ⟨lb ++ (withoutLineBreak t).takeWhile isSpacing, fun c hc => ?_, ?_⟩
  · rcases List.mem_append.1 hc with hc | hc
    · exact hlb c hc
    · exact isMargin_of_isSpacing (List.all_eq_true.1 List.all_takeWhile c hc)
  · rw [List.append_assoc, ← h, List.takeWhile_append_dropWhile, ← hsplit]

lemma exists_closing_eq_cons (back : Border) (v : Text) :
    ∃ c t, closing back v = c :: t ∧ (isMargin c = true ∨ c = '@') := by
  rcases back with ⟨lb, spaces, hlb, hspaces⟩
  rcases hlb with rfl | hlb
  · rcases spaces with _ | ⟨c, spaces⟩
    · exact ⟨'@', _, rfl, .inr rfl⟩
    · exact ⟨c, _, rfl, .inl (isMargin_of_isSpacing (hspaces c List.mem_cons_self))⟩
  · rcases mem_lineBreaks.1 hlb with rfl | rfl | rfl <;> exact ⟨_, _, rfl, .inl (by decide)⟩

lemma not_mem_tail_sectionEnd {c : Char} (h : isMargin c = true ∨ c = '@') :
    c ∉ sectionEnd.tail := by
  intro hc
  have hletters : sectionEnd.tail.all Char.isAlpha = true := by decide
  have hletter := List.all_eq_true.1 hletters c hc
  rcases h with h | rfl
  · simp only [isMargin, isSpacing, Bool.or_eq_true, decide_eq_true_eq] at h
    rcases h with ((rfl | rfl) | rfl) | rfl <;> cases hletter
  · cases hletter

section

variable {body : Text} (hend : ¬ sectionEnd <:+: body)
  (hlast : ∀ c ∈ body.getLast?, isMargin c = false)

include hend hlast

/-- The end of a section is not found inside a body. -/
lemma afterSectionEnd?_body (hne : body ≠ []) (back : Border) (v : Text) :
    afterSectionEnd? (body ++ closing back v) = none := by
  have hnot : ∀ margin : Text, (∀ c ∈ margin, isMargin c = true) → ¬ body <+: margin := by
    intro margin hmargin hp
    have hc := hlast _ (List.getLast?_eq_some_getLast hne)
    rw [hmargin _ (hp.subset (List.getLast_mem hne))] at hc
    cases hc
  rcases h : afterSectionEnd? (body ++ closing back v) with _ | r
  · rfl
  obtain ⟨margin, hmargin, heq⟩ := exists_of_afterSectionEnd? h
  exfalso
  rcases List.append_eq_append_iff.1 heq with ⟨x, rfl, -⟩ | ⟨x, rfl, hx⟩
  · exact hnot _ hmargin (List.prefix_append _ x)
  -- the end mark would begin in the body, and it does not go beyond the body
  rcases List.append_eq_append_iff.1 hx with ⟨y, rfl, -⟩ | ⟨y, hxy, hy⟩
  · exact hend ⟨margin, y, by simp⟩
  · rcases y with _ | ⟨d, y⟩
    · exact hend ⟨margin, [], by rw [hxy]; simp⟩
    obtain ⟨c, t, hc, hmark⟩ := exists_closing_eq_cons back v
    rw [hc] at hy
    obtain ⟨rfl, -⟩ := List.cons.inj hy
    rcases x with _ | ⟨e, x⟩
    · exact hnot margin hmargin (by simp)
    · refine not_mem_tail_sectionEnd hmark ?_
      rw [hxy]
      simp

/-- The body of a section is read up to its border. -/
lemma sectionBody?_closed (back : Border) (v : Text) :
    sectionBody? (body ++ closing back v) = some (body, v) := by
  induction body with
  | nil => exact sectionBody?_closing back v
  | cons c cs ih =>
    have hcs : ¬ sectionEnd <:+: cs := fun h => hend (h.trans (List.suffix_cons c cs).isInfix)
    have hlast' : ∀ d ∈ cs.getLast?, isMargin d = false := by
      intro d hd
      refine hlast d ?_
      rw [List.getLast?_cons, Option.mem_def.1 hd]
      rfl
    have hnone := afterSectionEnd?_body hend hlast (List.cons_ne_nil c cs) back v
    rw [List.cons_append] at hnone ⊢
    rw [sectionBody?, hnone, ih hcs hlast']
    rfl

end

/-! ## The beginning of a section -/

/-- The border with spaces only. -/
def Border.ofSpaces (spaces : Text) (h : ∀ c ∈ spaces, isSpacing c = true) : Border :=
  ⟨[], spaces, .inl rfl, h⟩

/-- If a body is empty, the border behind the head takes characters of the border in front of the
end mark, and leaves a border there. -/
lemma exists_border (front back : Border) (v : Text) : ∃ back' : Border,
    withoutLineBreak ((front.spaces ++ (front.lineBreak ++ closing back v)).dropWhile isSpacing) =
      closing back' v := by
  rw [List.dropWhile_append_of_pos front.spacing]
  rcases back with ⟨lb, spaces, hlb, hspaces⟩
  rcases front.break_mem with hfront | hfront
  · rw [hfront, List.nil_append]
    rcases hlb with rfl | hlb
    · refine ⟨.ofSpaces [] (by simp), ?_⟩
      rw [closing, List.nil_append, List.dropWhile_append_of_pos hspaces]
      rfl
    · refine ⟨.ofSpaces spaces hspaces, ?_⟩
      rw [closing, dropWhile_lineBreak hlb]
      exact withoutLineBreak_append_of_flush (.inr hlb) (flush_spaces hspaces v)
  · rw [dropWhile_lineBreak hfront]
    by_cases hpair : front.lineBreak = ['\r'] ∧ lb = ['\n']
    -- the two line breaks are one
    · obtain ⟨hr, rfl⟩ := hpair
      refine ⟨.ofSpaces spaces hspaces, ?_⟩
      rw [hr]
      rfl
    · refine ⟨⟨lb, spaces, hlb, hspaces⟩, withoutLineBreak_append hfront fun hr hn => ?_⟩
      rcases hlb with rfl | hlb
      · exact (flush_spaces hspaces v _ hn).2 rfl
      · rcases mem_lineBreaks.1 hlb with rfl | rfl | rfl
        · cases hn
        · cases hn
        · exact hpair ⟨hr, rfl⟩

/-- The body of a block is read behind its head. -/
lemma sectionBody?_block (b : Block) (v : Text) :
    sectionBody? (withoutLineBreak
      ((b.front.spaces ++ (b.front.lineBreak ++ (b.body ++ closing b.back v))).dropWhile isSpacing)) =
        some (b.body, v) := by
  rcases hbody : b.body with _ | ⟨c, cs⟩
  · obtain ⟨back', hback'⟩ := exists_border b.front b.back v
    rw [List.nil_append, hback', sectionBody?_closing]
  · have hc : isMargin c = false := b.head_body c (by rw [hbody]; rfl)
    obtain ⟨hspacing, hr, hn⟩ := isMargin_eq_false_iff.1 hc
    have hdrop : (b.front.lineBreak ++ (c :: cs ++ closing b.back v)).dropWhile isSpacing =
        b.front.lineBreak ++ (c :: cs ++ closing b.back v) := by
      rcases b.front.break_mem with h | h
      · rw [h]
        exact List.dropWhile_cons_of_neg (by simp [hspacing])
      · exact dropWhile_lineBreak h _
    have hflush : Flush (c :: cs ++ closing b.back v) := by
      rintro _ ⟨⟩
      exact ⟨hr, hn⟩
    rw [List.dropWhile_append_of_pos b.front.spacing, hdrop,
      withoutLineBreak_append_of_flush b.front.break_mem hflush, ← hbody]
    exact sectionBody?_closed b.unended b.last_body b.back v

/-- **A block is read as it is written**, whatever stands behind it. -/
theorem section?_block (b : Block) (v : Text) : section? (b.text ++ v) =
    some ((b.name, b.body), b.text.length) := by
  have hlength : (b.text ++ v).length - v.length = b.text.length := by simp
  rw [← hlength, b.text_append]
  simp only [section?, named?_written b.isName, Option.bind_eq_bind, Option.bind_some,
    List.drop_left, sectionBody?_block]

/-! ## Written views -/

/-- A part of a written view. -/
inductive Stretch where
  /-- A text outside of the sections. -/
  | free (t : Text)
  | block (b : Block)

namespace Stretch

/-- A part, as it is written. -/
def text : Stretch → Text
  | free t => t
  | block b => b.text

/-- What is left of a part without the section. -/
def outside : Stretch → Text
  | free t => t
  | block _ => []

/-- What a part defines: a name with its body. -/
def entry? : Stretch → Option (Text × Text)
  | free _ => none
  | block b => some (b.name, b.body)

end Stretch

/-- The text of a written view. -/
def viewText (ss : List Stretch) : Text := ss.flatMap Stretch.text

/-- The sections of a written view, in the order in which they are written. -/
def viewSections (ss : List Stretch) : Names Text := ss.filterMap Stretch.entry?

/-- The free texts of a written view, one after the other. -/
def viewBody (ss : List Stretch) : Text := ss.flatMap Stretch.outside

/-- Does the view begin with a block? -/
def beginsWithBlock : List Stretch → Bool
  | .block _ :: _ => true
  | _ => false

/-- Wherever the head of a section stands in the text, a block begins there. -/
def HeadsOnlyAtBlocks (ss : List Stretch) : Prop :=
  ∀ v, v <:+ viewText ss → sectionHead <+: v →
    ∃ r, r <:+ ss ∧ beginsWithBlock r = true ∧ viewText r = v

lemma headsOnlyAtBlocks_iff {ss : List Stretch} : HeadsOnlyAtBlocks ss ↔
    ∀ v ∈ (viewText ss).tails, sectionHead <+: v →
      ∃ r ∈ ss.tails, beginsWithBlock r = true ∧ viewText r = v := by
  simp only [HeadsOnlyAtBlocks, List.mem_tails]

instance (ss : List Stretch) : Decidable (HeadsOnlyAtBlocks ss) :=
  decidable_of_iff _ headsOnlyAtBlocks_iff.symm

lemma viewText_cons (x : Stretch) (ss : List Stretch) : viewText (x :: ss) = x.text ++ viewText ss :=
  rfl

lemma viewText_append (ss ts : List Stretch) : viewText (ss ++ ts) = viewText ss ++ viewText ts :=
  List.flatMap_append

lemma viewSections_append (ss ts : List Stretch) :
    viewSections (ss ++ ts) = viewSections ss ++ viewSections ts :=
  List.filterMap_append

lemma viewSections_free (t : Text) (ss : List Stretch) :
    viewSections (.free t :: ss) = viewSections ss :=
  rfl

lemma length_viewText_le {r ss : List Stretch} (h : r <:+ ss) :
    (viewText r).length ≤ (viewText ss).length := by
  obtain ⟨q, rfl⟩ := h
  rw [viewText_append, List.length_append]
  exact Nat.le_add_left ..

lemma head_of_section? {t : Text} {x : (Text × Text) × Nat} (h : section? t = some x) :
    sectionHead <+: t := by
  obtain ⟨⟨name, body⟩, n⟩ := x
  obtain ⟨inner, r, -, rfl, -⟩ := section?_eq_some h
  exact ⟨name ++ ['\'', ')'] ++ inner ++ sectionEnd ++ r, by simp [written]⟩

namespace HeadsOnlyAtBlocks

variable {x : Stretch} {ss : List Stretch}

lemma tail (h : HeadsOnlyAtBlocks (x :: ss)) : HeadsOnlyAtBlocks ss := by
  intro v hv hhead
  obtain ⟨r, hr, hblock, hrv⟩ := h v (hv.trans (List.suffix_append x.text _)) hhead
  rcases List.suffix_cons_iff.1 hr with rfl | hr
  -- the block at the front begins in front of the rest
  · cases x with
    | free t => cases hblock
    | block b =>
      have hpos := List.length_pos_iff.2 b.text_ne_nil
      have hle := hv.length_le
      rw [← hrv, viewText_cons, List.length_append] at hle
      change 0 < (Stretch.block b).text.length at hpos
      omega
  · exact ⟨r, hr, hblock, hrv⟩

/-- No section begins in a free text. -/
lemma section?_free {t s : Text} (h : HeadsOnlyAtBlocks (.free t :: ss)) (hs : s <:+ t)
    (hne : s ≠ []) : section? (s ++ viewText ss) = none := by
  rcases hfound : section? (s ++ viewText ss) with _ | x
  · rfl
  obtain ⟨q, rfl⟩ := hs
  have htail : s ++ viewText ss <:+ viewText (.free (q ++ s) :: ss) :=
    ⟨q, (List.append_assoc ..).symm⟩
  obtain ⟨r, hr, hblock, hrs⟩ := h _ htail (head_of_section? hfound)
  rcases List.suffix_cons_iff.1 hr with rfl | hr
  · cases hblock
  · have hle := length_viewText_le hr
    have hpos := List.length_pos_iff.2 hne
    rw [hrs, List.length_append] at hle
    omega

end HeadsOnlyAtBlocks

/-- The sections that are found in a written view are those that are written, and the free texts are
left. -/
theorem sections_viewText {ss : List Stretch} (h : HeadsOnlyAtBlocks ss) :
    Text.findAll section? (viewText ss) = viewSections ss ∧
      Text.replaceAll section? (fun _ _ => []) (viewText ss) = viewBody ss := by
  induction ss with
  | nil => exact ⟨rfl, rfl⟩
  | cons x ss ih =>
    obtain ⟨hfind, hreplace⟩ := ih h.tail
    rw [viewText_cons]
    cases x with
    | free t =>
      have hnone : ∀ s, s <:+ t → s ≠ [] → section? (s ++ viewText ss) = none :=
        fun s hs hne => h.section?_free hs hne
      rw [Stretch.text, Text.findAll_append_of_none hnone, Text.replaceAll_append_of_none hnone, hfind,
        hreplace]
      exact ⟨rfl, rfl⟩
    | block b =>
      have hfound := section?_block b (viewText ss)
      rw [Stretch.text, Text.findAll_found b.text_ne_nil hfound,
        Text.replaceAll_found b.text_ne_nil hfound, hfind, hreplace]
      exact ⟨rfl, rfl⟩

/-! ## Reading a written view -/

/-- What is read from a text in which these parents are found, and of which this is left. -/
lemma dependencies_eq {t rest : Text} {ps : List Text} (hps : Text.findAll extends? t = ps)
    (hrest : Text.replaceAll extends? (fun _ _ => []) t = rest) : dependencies t =
      { parent := ps.head?
        sections := Names.putAll [] (Text.findAll section? t)
        body := Text.replaceAll section? (fun _ _ => []) rest } := by
  subst hps hrest
  rfl

section

variable {before after : List Stretch} {a b p : Text} {ss : List Stretch}

lemma dependencies_viewText (hheads : HeadsOnlyAtBlocks ss) (hfree : extends?.Free (viewText ss)) :
    dependencies (viewText ss) = ⟨none, Names.putAll [] (viewSections ss), viewBody ss⟩ := by
  obtain ⟨hsections, hbody⟩ := sections_viewText hheads
  rw [dependencies_eq (Text.findAll_of_free hfree) (Text.replaceAll_of_free hfree), hsections, hbody]
  rfl

/-- A directive for the parent in a free text is taken out of it, and gives the parent. -/
lemma dependencies_insert (hheads : HeadsOnlyAtBlocks (before ++ .free (a ++ b) :: after))
    (hp : IsName p)
    (hnew : HeadsOnlyAtBlocks (before ++ .free (a ++ (written extendsHead p ++ b)) :: after))
    (honly : extends?.OnlyBehind (viewText before ++ a)
      (viewText (before ++ .free (a ++ (written extendsHead p ++ b)) :: after))) :
    dependencies (viewText (before ++ .free (a ++ (written extendsHead p ++ b)) :: after)) =
      ⟨some p, Names.putAll [] (viewSections (before ++ .free (a ++ b) :: after)),
        viewBody (before ++ .free (a ++ b) :: after)⟩ := by
  have htext : viewText (before ++ .free (a ++ (written extendsHead p ++ b)) :: after) =
      (viewText before ++ a) ++ (written extendsHead p ++ (b ++ viewText after)) := by
    simp [viewText_append, viewText_cons, Stretch.text]
  have hold : (viewText before ++ a) ++ ([] ++ (b ++ viewText after)) =
      viewText (before ++ .free (a ++ b) :: after) := by
    simp [viewText_append, viewText_cons, Stretch.text]
  obtain ⟨hfind, hrest⟩ := honly.single (f := fun _ _ => []) (named?_sound extendsHead)
    (written_ne_nil _ _) (named?_written hp _) _ htext
  rw [dependencies_eq hfind (hrest.trans hold), (sections_viewText hnew).1,
    (sections_viewText hheads).2, viewSections_append, viewSections_append, viewSections_free,
    viewSections_free]
  rfl

end

/-- **Reading recovers what was written**: a view of free texts and blocks has no parent, each name
has the body of its last block, and the free texts are left.  A directive for the parent that is put
into a free text gives the view a parent and changes nothing else. -/
theorem dependencies_written {ss : List Stretch} (hheads : HeadsOnlyAtBlocks ss)
    (hfree : extends?.Free (viewText ss)) :
    (dependencies (viewText ss)).parent = none ∧
    (∀ n, (dependencies (viewText ss)).find? n = (viewSections ss).last? n ∧
      (n ∈ (dependencies (viewText ss)).sections.ids ↔ n ∈ (viewSections ss).ids)) ∧
    (dependencies (viewText ss)).body = viewBody ss ∧
    ∀ before a b after p, ss = before ++ .free (a ++ b) :: after → IsName p →
      let new : List Stretch := before ++ .free (a ++ (written extendsHead p ++ b)) :: after
      HeadsOnlyAtBlocks new → extends?.OnlyBehind (viewText before ++ a) (viewText new) →
      dependencies (viewText new) = { dependencies (viewText ss) with parent := some p } := by
  rw [dependencies_viewText hheads hfree]
  refine ⟨rfl, fun n => ?_, rfl, ?_⟩
  · have hfind : (Names.putAll [] (viewSections ss)).find? n = (viewSections ss).last? n := by
      rw [Names.find?_putAll]
      exact Option.or_none
    refine ⟨hfind, ?_⟩
    rw [← Names.isSome_find?_iff, hfind, Names.isSome_last?_iff]
  · rintro before a b after p rfl hp new hnew honly
    exact dependencies_insert hheads hp hnew honly

/-- A view with two sections of one name, into which a directive for the parent is put.  The line
breaks around the empty body are read as one. -/
theorem dependencies_written_page :
    let first : Block :=
      { name := "a", body := "old"
        front := ⟨"\r\n", " ", by decide, by simp [isSpacing]⟩
        back := ⟨"\n", "\t", by decide, by simp [isSpacing]⟩
        isName := ⟨by decide, by decide⟩, unended := by decide
        head_body := by simp [isMargin, isSpacing], last_body := by simp [isMargin, isSpacing] }
    let second : Block :=
      { name := "a", body := ""
        front := ⟨"\r", "", by decide, by simp⟩, back := ⟨"\n", "", by decide, by simp⟩
        isName := ⟨by decide, by decide⟩, unended := by decide
        head_body := by simp, last_body := by simp }
    let before : List Stretch := [.free "x", .block first]
    let after : List Stretch := [.block second]
    let ss : List Stretch := before ++ .free "yz" :: after
    let new : List Stretch := before ++ .free ("y" ++ (written extendsHead "p" ++ "z")) :: after
    viewText new =
        "x@section('a') \r\nold\n\t@endsectiony@extends('p')z@section('a')\r\n@endsection" ∧
      HeadsOnlyAtBlocks ss ∧ extends?.Free (viewText ss) ∧ HeadsOnlyAtBlocks new ∧
      extends?.OnlyBehind (viewText before ++ "y") (viewText new) ∧
      (dependencies (viewText ss)).parent = none ∧
      (dependencies (viewText ss)).find? "a" = some [] ∧
      (dependencies (viewText ss)).body = "xyz" ∧
      dependencies (viewText new) = { dependencies (viewText ss) with parent := some "p" } := by
  intro first second before after ss new
  have hheads : HeadsOnlyAtBlocks ss := by decide +kernel
  have hnew : HeadsOnlyAtBlocks new := by decide +kernel
  have hfree : extends?.Free (viewText ss) :=
    Text.free_of_findAll_eq_nil (named?_sound extendsHead) _ (by decide +kernel)
  have honly : extends?.OnlyBehind (viewText before ++ "y") (viewText new) := by
    have hpieces : Text.pieces extends? (viewText new) = [.plain (viewText before ++ "y"),
        .found "p" (written extendsHead "p"), .plain ("z" ++ second.text)] := by decide +kernel
    intro ps a u qs h
    rw [hpieces] at h
    rcases ps with _ | ⟨q, _ | ⟨q', _ | ⟨q'', ps⟩⟩⟩
    · cases h
    · cases h
      exact List.append_nil _
    · cases h
    · simp at h
  obtain ⟨hparent, hfind, hbody, hinsert⟩ := dependencies_written hheads hfree
  exact ⟨by decide +kernel, hheads, hfree, hnew, honly, hparent, (hfind "a").1, hbody,
    hinsert before "y" "z" after "p" rfl ⟨by decide, by decide⟩ hnew honly⟩

end ViewEngine.Layout

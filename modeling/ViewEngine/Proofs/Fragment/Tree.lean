/-
# Views as trees

A fragment of the language of views in which a view is a tree: runs of text, tags that show the
value of a name, comments, loops over the elements of a name and choices by a name.  A tree has a
source, which is what stands in a file, and a meaning, which is what it shows with some data.  The
meaning is defined directly on the tree and on the data of the host; neither code nor memory occur
in it.

* `Tree.source`: the view as it is written;
* `Tree.eval`: what the view shows, and the names that are bound behind it.
-/
import Mathlib.Tactic.Common
import Mathlib.Tactic.Lemma
import ViewEngine.Engine.Registry
import ViewEngine.Proofs.Fragment.Data
import ViewEngine.Proofs.Markup.Pieces
import ViewEngine.Proofs.Script.Lexing

namespace ViewEngine.Fragment

open Script (Datum)

/-! ## Names and runs of text -/

/-- A name that views of the fragment can use: an identifier in ASCII that is neither reserved nor
taken by the generated code, and does not look like a name of the language's own. -/
structure Variable where
  /-- The name. -/
  id : Text
  identifier : Text.isIdentifier id = true
  ascii : ∀ c ∈ id, c.toNat < 128
  unreserved : Script.keywords.contains id = false
  visible : Text.startsWith "__" id = false
  ne_output : id ≠ outputId
  ne_escape : id ≠ Helper.escapeId

/-- The name `x`. -/
def nameX : Variable := ⟨['x'], by decide, by simp, by decide, by decide, by decide, by decide⟩

/-- The name `y`. -/
def nameY : Variable := ⟨['y'], by decide, by simp, by decide, by decide, by decide, by decide⟩

/-- A run of text without tags. -/
structure Verbatim where
  /-- The text. -/
  text : Text
  ne_nil : text ≠ []
  unmarked : Marker.Unmarked text

lemma Variable.isWord (x : Variable) : Script.IsWord x.id := by
  obtain ⟨id, hid, hascii, -, -, -, -⟩ := x
  cases id with
  | nil => cases hid
  | cons c cs =>
    simp only [Text.isIdentifier, Bool.and_eq_true, List.all_eq_true] at hid
    refine ⟨c, cs, rfl, ?_, fun d hd => ?_⟩
    · have hc := hid.1
      rw [Text.isNameStart, if_pos (hascii c List.mem_cons_self)] at hc
      simpa using hc
    · have hd' := hid.2 d hd
      rw [Text.isNameRest, if_pos (hascii d (List.mem_cons_of_mem c hd))] at hd'
      simpa using hd'

lemma Variable.wordKind (x : Variable) : Script.wordKind x.id = .name x.id := by
  rw [Script.wordKind, x.unreserved]
  rfl

/-! ## Trees -/

/-- A view of the fragment. -/
inductive Tree where
  /-- Nothing more. -/
  | done
  /-- Text outside tags. -/
  | text (t : Verbatim) (rest : Tree)
  /-- `<%= x %>` -/
  | escaped (x : Variable) (rest : Tree)
  /-- `<%- x %>` -/
  | raw (x : Variable) (rest : Tree)
  /-- `<%# c %>` -/
  | comment (c : Variable) (rest : Tree)
  /-- `<% for x in xs: %>body<% end %>` -/
  | each (x xs : Variable) (body rest : Tree)
  /-- `<% if c: %>yes<% end %>` -/
  | branch (c : Variable) (yes rest : Tree)
  /-- `<% if c: %>yes<% else: %>no<% end %>` -/
  | choice (c : Variable) (yes no rest : Tree)

/-- The code of a loop's header. -/
def eachHeader (x xs : Variable) : Text :=
  ['f', 'o', 'r', ' '] ++ (x.id ++ ([' ', 'i', 'n', ' '] ++ (xs.id ++ [':'])))

/-- The code of a choice's header. -/
def branchHeader (c : Variable) : Text := ['i', 'f', ' '] ++ (c.id ++ [':'])

/-- The word that ends a block. -/
def endWord : Text := ['e', 'n', 'd']

/-- The line that begins the other block of a choice. -/
def elseHeader : Text := ['e', 'l', 's', 'e', ':']

/-- What is shown, and the names that are bound behind it, if nothing is wrong. -/
abbrev Shown := Option (Text × Names Datum)

/-- What is shown first, and behind it what is shown with the names that are bound then. -/
def Shown.andThen (first : Shown) (second : Names Datum → Shown) : Shown :=
  first.bind fun p => (second p.2).map fun q => (p.1 ++ q.1, q.2)

lemma Shown.andThen_eq_some {first : Shown} {second : Names Datum → Shown} {t : Text}
    {env : Names Datum} (h : first.andThen second = some (t, env)) :
    ∃ t₁ env₁ t₂, first = some (t₁, env₁) ∧ second env₁ = some (t₂, env) ∧ t = t₁ ++ t₂ := by
  simp only [andThen, Option.bind_eq_some_iff, Option.map_eq_some_iff, Prod.exists] at h
  obtain ⟨t₁, env₁, hfirst, t₂, env₂, hsecond, heq⟩ := h
  cases heq
  exact ⟨t₁, env₁, t₂, hfirst, hsecond, rfl⟩

/-- What the rounds of a loop show; `body` says what a round shows. -/
def rounds (x : Text) (body : Names Datum → Shown) : List Datum → Names Datum → Shown
  | [], env => some ([], env)
  | d :: ds, env => (body (env.put x d)).andThen (rounds x body ds)

namespace Tree

/-- The view as it is written. -/
def source : Tree → Text
  | done => []
  | text t rest => t.text ++ rest.source
  | escaped x rest => tag .openEscaped x.id ++ rest.source
  | raw x rest => tag .openRaw x.id ++ rest.source
  | comment c rest => tag .openComment c.id ++ rest.source
  | each x xs body rest =>
    tag .openEval (eachHeader x xs) ++ body.source ++ tag .openEval endWord ++ rest.source
  | branch c yes rest =>
    tag .openEval (branchHeader c) ++ yes.source ++ tag .openEval endWord ++ rest.source
  | choice c yes no rest =>
    tag .openEval (branchHeader c) ++ yes.source ++ tag .openEval elseHeader ++ no.source ++
      tag .openEval endWord ++ rest.source

/-- What the view shows with some data, and the names that are bound behind it.  There is nothing if
a name has no value when it is read, or a loop is to run over something that is no list. -/
def eval : Tree → Names Datum → Shown
  | done, env => some ([], env)
  | text t rest, env => Shown.andThen (some (t.text, env)) rest.eval
  | escaped x rest, env =>
    match env.find? x.id with
    | some d => Shown.andThen (some (escapedText d, env)) rest.eval
    | none => none
  | raw x rest, env =>
    match env.find? x.id with
    | some d => Shown.andThen (some (rawText d, env)) rest.eval
    | none => none
  | comment _ rest, env => rest.eval env
  | each x xs body rest, env =>
    match env.find? xs.id with
    | some (.list ds) => (rounds x.id body.eval ds env).andThen rest.eval
    | _ => none
  | branch c yes rest, env =>
    match env.find? c.id with
    | some d => (if truth d then yes.eval env else some ([], env)).andThen rest.eval
    | none => none
  | choice c yes no rest, env =>
    match env.find? c.id with
    | some d => (if truth d then yes.eval env else no.eval env).andThen rest.eval
    | none => none

/-! ### Shape -/

/-- Does the tree begin with a run of text? -/
def beginsWithText : Tree → Bool
  | text .. => true
  | _ => false

/-- No run of text stands directly behind another one. -/
def Parted : Tree → Prop
  | done => True
  | text _ rest => rest.beginsWithText = false ∧ rest.Parted
  | escaped _ rest | raw _ rest | comment _ rest => rest.Parted
  | each _ _ body rest => body.Parted ∧ rest.Parted
  | branch _ yes rest => yes.Parted ∧ rest.Parted
  | choice _ yes no rest => yes.Parted ∧ no.Parted ∧ rest.Parted

/-- How many loops lie inside each other. -/
def loops : Tree → Nat
  | done => 0
  | text _ rest | escaped _ rest | raw _ rest | comment _ rest => rest.loops
  | each _ _ body rest => max (body.loops + 1) rest.loops
  | branch _ yes rest => max yes.loops rest.loops
  | choice _ yes no rest => max (max yes.loops no.loops) rest.loops

/-- How many blocks lie inside each other. -/
def blocks : Tree → Nat
  | done => 0
  | text _ rest | escaped _ rest | raw _ rest | comment _ rest => rest.blocks
  | each _ _ body rest => max (body.blocks + 1) rest.blocks
  | branch _ yes rest => max (yes.blocks + 1) rest.blocks
  | choice _ yes no rest => max (max (yes.blocks + 1) (no.blocks + 1)) rest.blocks

end Tree

end ViewEngine.Fragment

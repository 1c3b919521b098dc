import Prototyper.Toml.Grammar

/-!
# TOML documents

The tables that the expressions of a text put together. A header opens a table, which the pairs
after it fill; a dotted key opens tables of its own. A table is opened once, and by one of the two.

Which tables may be opened is part of the TOML assumption (see `Toml.Basic`).
-/

namespace Prototyper.Toml

/-- How a table came to be. -/
inductive Origin where
  /-- A header names it. -/
  | header
  /-- A header names a table inside of it. -/
  | implied
  /-- A dotted key leads through it. -/
  | dotted
  deriving DecidableEq, Inhabited, Repr

/-- What stands under a key. -/
inductive Item where
  | string (s : String)
  | boolean (b : Bool)
  | number
  | moment
  | array (items : List Item)
  | inline (entries : List (String × Item))
  | table (origin : Origin) (entries : List (String × Item))
  /-- The elements of a list of tables, the last one first. -/
  | elements (reversed : List (List (String × Item)))
  deriving Inhabited

/-- The entries of a table, in the order of their first mention. -/
abbrev Entries : Type :=
  List (String × Item)

/-- The entries with one replaced. -/
def replace (key : String) (item : Item) (entries : Entries) : Entries :=
  entries.map fun e => if e.1 == key then (key, item) else e

/-- The entries of a table after a change to the table at a path below it. Tables that are missing
on the way are made. On the way of a dotted key no table may have been named by a header; a list of
tables stands for its last element. -/
def modifyAt (dotted : Bool) (change : Origin → Entries → Except Error Entries) :
    List String → Origin → Entries → Except Error Entries
  | [], origin, entries => change origin entries
  | key :: path, _, entries => do
    match entries.lookup key with
    | none =>
      let origin : Origin := if dotted then .dotted else .implied
      let inner ← modifyAt dotted change path origin []
      return entries ++ [(key, .table origin inner)]
    | some (.table origin inner) =>
      if dotted && origin = .header then
        throw (.duplicateKey key)
      let inner ← modifyAt dotted change path origin inner
      return replace key (.table origin inner) entries
    | some (.elements (last :: earlier)) =>
      let last ← modifyAt dotted change path .header last
      return replace key (.elements (last :: earlier)) entries
    | some _ => throw (.notATable key)

/-- A new entry under a dotted key, whose last part is `key`. -/
def insertPair (path : List String) (key : String) (item : Item) (entries : Entries) :
    Except Error Entries :=
  modifyAt true (fun origin inner =>
    if (path.isEmpty || origin = .dotted) && (inner.lookup key).isNone then
      .ok (inner ++ [(key, item)])
    else
      .error (.duplicateKey key)) path .header entries

/-- The path and the last part of a key. -/
def splitLast (first : String) : List String → List String × String
  | [] => ([], first)
  | second :: rest =>
    let (path, last) := splitLast second rest
    (first :: path, last)

/-- The path and the last part of a key; a key has at least one part. -/
def splitKey (key : List String) : List String × String :=
  match key with
  | [] => ([], "")
  | first :: rest => splitLast first rest

mutual

/-- What a written value is, once its inline tables are put together. -/
def Literal.item : Literal → Except Error Item
  | .string s => .ok (.string s)
  | .boolean b => .ok (.boolean b)
  | .number => .ok .number
  | .moment => .ok .moment
  | .array items => do return .array (← itemsOf items)
  | .inline pairs => do return .inline (← entriesOf [] pairs)

/-- What the items of an array are. -/
def itemsOf : List Literal → Except Error (List Item)
  | [] => .ok []
  | literal :: rest => do return (← literal.item) :: (← itemsOf rest)

/-- The entries of an inline table with further pairs. -/
def entriesOf (entries : Entries) : List (List String × Literal) → Except Error Entries
  | [] => .ok entries
  | (key, literal) :: rest => do
    let (path, last) := splitKey key
    entriesOf (← insertPair path last (← literal.item) entries) rest

end

/-- The entries after a header that names a table. -/
def openTable (path : List String) (key : String) (entries : Entries) : Except Error Entries :=
  modifyAt false (fun _ inner =>
    match inner.lookup key with
    | none => .ok (inner ++ [(key, .table .header [])])
    | some (.table .implied found) => .ok (replace key (.table .header found) inner)
    | some _ => .error (.duplicateKey key)) path .header entries

/-- The entries after a header that names one more element of a list of tables. -/
def openElement (path : List String) (key : String) (entries : Entries) : Except Error Entries :=
  modifyAt false (fun _ inner =>
    match inner.lookup key with
    | none => .ok (inner ++ [(key, .elements [[]])])
    | some (.elements found) => .ok (replace key (.elements ([] :: found)) inner)
    | some _ => .error (.duplicateKey key)) path .header entries

/-- The entries of a document after further expressions. The pairs go to the table at `current`. -/
def build (current : List String) (entries : Entries) : List Expression → Except Error Entries
  | [] => .ok entries
  | .table key :: rest => do
    let (path, last) := splitKey key
    build key (← openTable path last entries) rest
  | .element key :: rest => do
    let (path, last) := splitKey key
    build key (← openElement path last entries) rest
  | .pair key literal :: rest => do
    let (path, last) := splitKey key
    let item ← literal.item
    let insert (_ : Origin) (inner : Entries) := insertPair path last item inner
    build current (← modifyAt false insert current .header entries) rest

/-- The entries of the outermost table of a text. -/
def parse (text : List Char) : Except Error Entries := do
  build [] [] (← expressions text)

end Prototyper.Toml

import RouteAtlas.Text.Basic

namespace RouteAtlas.Toml

/-- How a table came to be, which decides what later lines may add to it: a header opens a table once,
dotted keys add only to tables made by dotted keys, and inline tables are closed. -/
inductive TableKind where
  | header
  | passing
  | dotted
  | inline
deriving DecidableEq, Repr

inductive Node where
  | text (value : Text)
  | integer (value : Int)
  | boolean (value : Bool)
  | float (spelling : Text)
  | date (spelling : Text)
  | list (items : List Node)
  | tables (items : List (List (Text × Node)))
  | table (kind : TableKind) (entries : List (Text × Node))

abbrev Entries := List (Text × Node)

namespace Entries

def put (key : Text) (node : Node) : Entries → Entries
  | [] => [(key, node)]
  | (other, old) :: entries =>
    if other = key then (key, node) :: entries else (other, old) :: put key node entries

def kindOnWay (byDots : Bool) : TableKind := if byDots then .dotted else .passing

/--
Changes the table at the end of a path. Tables on the way are made as needed. A path through tables of
double brackets goes to the last one, and dotted keys do not go through the table of a header.
-/
def update (byDots : Bool) (change : TableKind → Entries → Option Entries) :
    (path : List Text) → TableKind → Entries → Option Entries
  | [], kind, entries => change kind entries
  | key :: path, _, entries =>
    match entries.lookup key with
    | none => do
      let inner ← update byDots change path (kindOnWay byDots) []
      return entries ++ [(key, .table (kindOnWay byDots) inner)]
    | some (.table .inline _) => none
    | some (.table kind inner) =>
      if byDots && kind == .header then none
      else do return put key (.table kind (← update byDots change path kind inner)) entries
    | some (.tables items) => do
      let inner ← update byDots change path .header (← items.getLast?)
      return put key (.tables (items.dropLast ++ [inner])) entries
    | some _ => none

def addKey (wayIsEmpty : Bool) (key : Text) (node : Node) (kind : TableKind) (entries : Entries) :
    Option Entries :=
  if (kind == .dotted) == wayIsEmpty || (entries.lookup key).isSome then none
  else some (entries ++ [(key, node)])

def addPair (keys : List Text) (node : Node) (kind : TableKind) (entries : Entries) : Option Entries := do
  let key ← keys.getLast?
  update true (addKey keys.dropLast.isEmpty key node) keys.dropLast kind entries

/-- Opens the table of a header. Only a table made on the way may be there already. -/
def openTable (key : Text) (entries : Entries) : Option Entries :=
  match entries.lookup key with
  | none => some (entries ++ [(key, .table .header [])])
  | some (.table .passing inner) => some (put key (.table .header inner) entries)
  | some _ => none

def openItem (key : Text) (entries : Entries) : Option Entries :=
  match entries.lookup key with
  | none => some (entries ++ [(key, .tables [[]])])
  | some (.tables items) => some (put key (.tables (items ++ [[]])) entries)
  | some _ => none

def openAt (opening : Text → Entries → Option Entries) (path : List Text) (root : Entries) :
    Option Entries := do
  let key ← path.getLast?
  update false (fun _ entries => opening key entries) path.dropLast .header root

end Entries

inductive Statement where
  | header (path : List Text)
  | item (path : List Text)
  | pair (keys : List Text) (value : Node)

structure Draft where
  root : Entries
  current : List Text

namespace Draft

def empty : Draft := ⟨[], []⟩

def add (draft : Draft) : Statement → Option Draft
  | .header path => do return ⟨← Entries.openAt Entries.openTable path draft.root, path⟩
  | .item path => do return ⟨← Entries.openAt Entries.openItem path draft.root, path⟩
  | .pair keys value => do
    return ⟨← Entries.update false (Entries.addPair keys value) draft.current .header draft.root,
      draft.current⟩

end Draft

def ofStatements? (statements : List Statement) : Option Entries := do
  return (← statements.foldlM Draft.add .empty).root

end RouteAtlas.Toml

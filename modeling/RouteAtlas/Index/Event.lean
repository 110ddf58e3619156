import RouteAtlas.Index.Basic

namespace RouteAtlas

inductive FileEvent where
  | changed (path : Path)
  | removed (path : Path)
deriving DecidableEq, Repr

inductive EventKind where
  | create
  | modify
  | rename
  | remove
  | other
deriving DecidableEq, Repr

namespace FileEvent

def path : FileEvent → Path
  | .changed path => path
  | .removed path => path

/--
The changes to single files that an event stands for. After a renaming, a path that exists is the new
name and any other path is an old one.
-/
def ofKind (kind : EventKind) (present : Path → Bool) (paths : List Path) : List FileEvent :=
  match kind with
  | .create | .modify => paths.map .changed
  | .rename => paths.map fun path => if present path then .changed path else .removed path
  | .remove => paths.map .removed
  | .other => []

end FileEvent

namespace Index

/--
Applies an event. There is no outcome for files of other kinds and for files that could not be
accessed; a file that is gone by now counts as deleted.
-/
def apply (index : Index) (source : Source) (event : FileEvent) : Index × Option Outcome :=
  if index.catalogue.handles event.path then
    match event with
    | .removed path =>
      let (index, outcome) := index.deleted path
      (index, some outcome)
    | .changed path =>
      match index.changed source path with
      | (index, .ok outcome) => (index, some outcome)
      | (index, .error fault) =>
        if fault.notFound then
          let (index, outcome) := index.deleted path
          (index, some outcome)
        else (index, none)
  else (index, none)

end Index

end RouteAtlas

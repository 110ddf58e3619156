import RouteAtlas.Path

namespace RouteAtlas

inductive Origin where
  | default
  | userFile (path : Path)
  | projectFile (path : Path)
  | environment (name : Text)
  | commandLine (flag : Text)
deriving DecidableEq, Repr

namespace Origin

def text : Origin → Text
  | .default => "default"
  | .userFile path => "user config (".toList ++ path.spelling ++ [')']
  | .projectFile path => "project config (".toList ++ path.spelling ++ [')']
  | .environment name => "env var (".toList ++ name ++ [')']
  | .commandLine flag => "CLI flag (".toList ++ flag ++ [')']

end Origin

abbrev Provenance := List (Text × Origin)

namespace Provenance

def set (key : Text) (origin : Origin) : Provenance → Provenance
  | [] => [(key, origin)]
  | (other, old) :: rest =>
    match Text.compare key other with
    | .lt => (key, origin) :: (other, old) :: rest
    | .eq => (key, origin) :: rest
    | .gt => (other, old) :: set key origin rest

/-- The origins with these entries; of two entries for one setting the later one counts. -/
def ofEntries (entries : List (Text × Origin)) : Provenance :=
  entries.foldl (fun provenance (key, origin) => provenance.set key origin) []

def get? (provenance : Provenance) (key : Text) : Option Origin := provenance.lookup key

end Provenance

end RouteAtlas

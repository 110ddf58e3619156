import RouteAtlas.Toml.Scalar

namespace RouteAtlas.Toml

open Reader

/-- A list of values. Line breaks and comments may stand between them, and a comma after the last. -/
def list (item : Reader Node) : Reader Node := do
  literal ['[']
  let items ← maybe (separated (literal [',']) (lines *> item <* lines))
  discard (if items.isSome then maybe (literal [',']) else pure none)
  lines
  literal [']']
  return .list (items.getD [])

def pair (value : Reader Node) : Reader (List Text × Node) := do
  let keys ← key
  literal ['=']
  gap
  return (keys, ← value)

def entriesOf? (pairs : List (List Text × Node)) : Option Entries :=
  pairs.foldlM (fun entries (keys, node) => Entries.addPair keys node .inline entries) []

def inlineTable (item : Reader Node) : Reader Node := do
  literal ['{']
  let pairs ← maybe (separated (literal [',']) (pair item <* gap))
  gap
  literal ['}']
  let entries ← StateT.lift (entriesOf? (pairs.getD []))
  return .table .inline entries

def value : (depth : Nat) → Reader Node
  | 0 => scalar
  | depth + 1 => scalar <|> list (value depth) <|> inlineTable (value depth)

def header : Reader Statement := do
  literal ['[']
  let path ← key
  literal [']']
  trailing
  return .header path

def itemHeader : Reader Statement := do
  literal ['[', '[']
  let path ← key
  literal [']', ']']
  trailing
  return .item path

def pairLine : Reader Statement := do
  let (keys, node) ← pair (value (depthLimit - 1))
  trailing
  return .pair keys node

def line : Reader (Option Statement) :=
  (newline *> pure none) <|> (comment *> lineEnd *> pure none) <|> some <$> itemHeader <|>
    some <$> header <|> some <$> pairLine

def statements : Reader (List Statement) := do
  discard (maybe (literal ['\uFEFF']))
  gap
  return (← many (line <* gap)).filterMap id

def parse? (text : Text) : Option Entries := (statements.all? text).bind ofStatements?

end RouteAtlas.Toml

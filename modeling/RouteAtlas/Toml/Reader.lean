import RouteAtlas.Text.Basic

namespace RouteAtlas

abbrev Reader := StateT Text Option

namespace Reader

variable {α : Type}

def one (accepts : Char → Bool) : Reader Char
  | c :: rest => if accepts c then some (c, rest) else none
  | [] => none

def literal (expected : Text) : Reader Unit := fun text =>
  (Text.after? expected text).map fun rest => ((), rest)

def run (accepts : Char → Bool) : Reader Text := fun text =>
  some (text.takeWhile accepts, text.dropWhile accepts)

def run1 (accepts : Char → Bool) : Reader Text := do
  let first ← one accepts
  return first :: (← run accepts)

def maybe (reader : Reader α) : Reader (Option α) := (some <$> reader) <|> pure none

def times (reader : Reader α) : (count : Nat) → Reader (List α)
  | 0 => pure []
  | count + 1 => do
    let first ← reader
    return first :: (← times reader count)

def manyUpTo (reader : Reader α) : (bound : Nat) → Reader (List α)
  | 0 => pure []
  | bound + 1 => (do
    let first ← reader
    return first :: (← manyUpTo reader bound)) <|> pure []

/-- Reads something that takes at least one character, as often as it is there. -/
def many (reader : Reader α) : Reader (List α) := fun text => manyUpTo reader text.length text

def separated (separator : Reader Unit) (reader : Reader α) : Reader (List α) := do
  let first ← reader
  return first :: (← many (separator *> reader))

def finish : Reader Unit
  | [] => some ((), [])
  | _ :: _ => none

def check (condition : Bool) : Reader Unit := if condition then pure () else failure

def spelled (reader : Reader α) : Reader Text := fun text =>
  (reader text).map fun (_, rest) => (text.take (text.length - rest.length), rest)

def all? (reader : Reader α) (text : Text) : Option α := (StateT.run (reader <* finish) text).map (·.1)

end Reader

end RouteAtlas

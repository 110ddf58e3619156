import RouteAtlas.Text.Basic

namespace RouteAtlas

/-- A JSON value. Only natural numbers are needed. -/
inductive Json where
  | number (value : Nat)
  | text (value : Text)
  | array (items : List Json)
  | object (fields : List (Text × Json))

namespace Json

def hexDigit (value : Nat) : Char := Nat.digitChar value

def escape (c : Char) : Text :=
  if c = '"' then ['\\', '"']
  else if c = '\\' then ['\\', '\\']
  else if c = '\n' then ['\\', 'n']
  else if c = '\r' then ['\\', 'r']
  else if c = '\t' then ['\\', 't']
  else if c = '\x08' then ['\\', 'b']
  else if c = '\x0c' then ['\\', 'f']
  else if c.toNat < 32 then
    ['\\', 'u', '0', '0', hexDigit (c.toNat / 16), hexDigit (c.toNat % 16)]
  else [c]

def quote (value : Text) : Text := '"' :: value.flatMap escape ++ ['"']

def newline (level : Nat) : Text := '\n' :: List.replicate (2 * level) ' '

mutual

/-- A value whose first line is already indented to `level`. -/
def render (level : Nat) : Json → Text
  | .number value => Text.ofNat value
  | .text value => quote value
  | .array [] => ['[', ']']
  | .array (item :: items) =>
    '[' :: newline (level + 1) ++ render (level + 1) item ++ renderItems (level + 1) items ++
      newline level ++ [']']
  | .object [] => ['{', '}']
  | .object ((key, value) :: fields) =>
    '{' :: newline (level + 1) ++ quote key ++ [':', ' '] ++ render (level + 1) value ++
      renderFields (level + 1) fields ++ newline level ++ ['}']

def renderItems (level : Nat) : List Json → Text
  | [] => []
  | item :: items => ',' :: newline level ++ render level item ++ renderItems level items

def renderFields (level : Nat) : List (Text × Json) → Text
  | [] => []
  | (key, value) :: fields =>
    ',' :: newline level ++ quote key ++ [':', ' '] ++ render level value ++
      renderFields level fields

end

end Json

end RouteAtlas

import RouteAtlas.Text.Basic

namespace RouteAtlas.ExcludesSetting

def isBlank (byte : UInt8) : Bool := byte == 32 || (9 ≤ byte && byte ≤ 13)

def quote : UInt8 := 34

def key : List UInt8 := Text.bytes "excludesfile"

def toSmall (byte : UInt8) : UInt8 := if 65 ≤ byte && byte ≤ 90 then byte + 32 else byte

def afterKey? : (key : List UInt8) → List UInt8 → Option (List UInt8)
  | [], bytes => some bytes
  | _ :: _, [] => none
  | letter :: key, byte :: bytes => if toSmall byte = letter then afterKey? key bytes else none

def afterSign? (bytes : List UInt8) : Option (List UInt8) :=
  match bytes.dropWhile isBlank with
  | 61 :: rest => some (rest.dropWhile isBlank)
  | _ => none

def endsLine : List UInt8 → Bool
  | [] => true
  | byte :: bytes => byte == 10 || (isBlank byte && endsLine bytes)

def endsSetting (bytes : List UInt8) : Bool :=
  endsLine bytes ||
    match bytes.dropWhile isBlank with
    | byte :: rest => byte == quote && endsLine rest
    | [] => false

/-- The shortest value without blanks after which the setting ends. -/
def value? : List UInt8 → Option (List UInt8)
  | [] => none
  | byte :: bytes =>
    if isBlank byte then none
    else if endsSetting bytes then some [byte]
    else (value? bytes).map (byte :: ·)

def quoted? : List UInt8 → Option (List UInt8)
  | [] => none
  | byte :: bytes => if byte = quote then value? (bytes.dropWhile isBlank) else none

def settingAt? (bytes : List UInt8) : Option (List UInt8) := do
  let rest ← afterSign? (← afterKey? key bytes)
  quoted? rest <|> value? rest

/-- The value of the first setting. Only blanks stand between a key and the start of a line. -/
def first? (fresh : Bool) : List UInt8 → Option (List UInt8)
  | [] => none
  | byte :: bytes =>
    if isBlank byte then first? (fresh || byte == 10) bytes
    else (if fresh then settingAt? (byte :: bytes) else none) <|> first? false bytes

/-- The path that a file of settings names. The file need not be text, and a line feed is a blank. -/
def read? (bytes : List UInt8) : Option Text := (first? true bytes).bind Text.ofBytes?

end RouteAtlas.ExcludesSetting

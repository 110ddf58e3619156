import RouteAtlas.Toml.Node
import RouteAtlas.Toml.Reader

namespace RouteAtlas.Toml

open Reader

def isGap (c : Char) : Bool := c == ' ' || c == '\t'

/-- Characters that may stand in comments: everything but control characters other than the tabulator. -/
def isPlain (c : Char) : Bool := c == '\t' || (' ' ≤ c && c ≤ '~') || 0x80 ≤ c.toNat

def gap : Reader Unit := discard (run isGap)

def newline : Reader Unit := literal ['\n'] <|> literal ['\r', '\n']

def comment : Reader Unit := literal ['#'] *> discard (run isPlain)

def lineEnd : Reader Unit := newline <|> finish

def trailing : Reader Unit := gap *> discard (maybe comment) *> lineEnd

def lines : Reader Unit := gap <* many (discard (maybe comment) *> newline *> gap)

def digitValue (c : Char) : Nat :=
  if c.isDigit then c.toNat - '0'.toNat else c.toLower.toNat - 'a'.toNat + 10

def isHexDigit (c : Char) : Bool := c.isDigit || ('a' ≤ c && c ≤ 'f') || ('A' ≤ c && c ≤ 'F')

def numberOf (base : Nat) (digits : Text) : Nat :=
  digits.foldl (fun number digit => number * base + digitValue digit) 0

def codePoint (count : Nat) : Reader Char := do
  let code := numberOf 16 (← times (one isHexDigit) count)
  check (decide code.isValidChar)
  return Char.ofNat code

def shortEscapes : List (Char × Char) :=
  [('b', '\x08'), ('f', '\x0c'), ('n', '\n'), ('r', '\r'), ('t', '\t'), ('\\', '\\'), ('"', '"')]

def escape : Reader Char := do
  literal ['\\']
  let c ← one fun _ => true
  if c = 'u' then codePoint 4
  else if c = 'U' then codePoint 8
  else StateT.lift (shortEscapes.lookup c)

def isBasic (c : Char) : Bool := isPlain c && c != '"' && c != '\\'

def isVerbatim (c : Char) : Bool := isPlain c && c != '\''

def basicText : Reader Text :=
  literal ['"'] *> many (one isBasic <|> escape) <* literal ['"']

def verbatimText : Reader Text := literal ['\''] *> run isVerbatim <* literal ['\'']

def innerQuotes (quote : Char) : Reader Text := do
  let quotes ← run1 (· == quote)
  check (quotes.length < 3)
  return quotes

/-- The quotes at the end of a text in triple quotes. Up to two more belong to the text. -/
def closingQuotes (quote : Char) : Reader Text := do
  let quotes ← run1 (· == quote)
  check (3 ≤ quotes.length && quotes.length < 6)
  return quotes.drop 3

/-- A text in triple quotes with the given pieces. A line break right at the start does not count. -/
def longText (quote : Char) (piece : Reader Text) : Reader Text := do
  literal [quote, quote, quote]
  discard (maybe newline)
  let pieces ← many (piece <|> innerQuotes quote <|> (newline *> pure ['\n']))
  return pieces.flatten ++ (← closingQuotes quote)

/-- An escaped line break takes the blanks and line breaks after it along. -/
def escapedBreak : Reader Text := do
  literal ['\\']
  gap
  newline
  discard (many (newline <|> discard (run1 isGap)))
  return []

def longBasicText : Reader Text :=
  longText '"' (run1 isBasic <|> escapedBreak <|> List.singleton <$> escape)

def longVerbatimText : Reader Text := longText '\'' (run1 isVerbatim)

def anyText : Reader Text := longBasicText <|> basicText <|> longVerbatimText <|> verbatimText

def isKeyChar (c : Char) : Bool := c.isAlphanum || c == '_' || c == '-'

def keyPart : Reader Text := basicText <|> verbatimText <|> run1 isKeyChar

/-- Keys have fewer parts than this, and values are nested less deeply. -/
def depthLimit : Nat := 80

def key : Reader (List Text) := do
  let parts ← separated (literal ['.']) (gap *> keyPart <* gap)
  check (parts.length < depthLimit)
  return parts

/-- Digits with single underscores between them, which do not count. -/
def digits (accepts : Char → Bool) : Reader Text := do
  let first ← one accepts
  return first :: (← many (one accepts <|> literal ['_'] *> one accepts))

/-- The digits before the point. Only a lone zero starts with a zero. -/
def wholeDigits : Reader Text :=
  (do
    let digits ← digits Char.isDigit
    check (digits.head? != some '0')
    return digits) <|> List.singleton <$> one Char.isDigit

def sign : Reader Bool := do return (← maybe (one fun c => c == '+' || c == '-')) == some '-'

def integerBound : Nat := Nat.pow 2 63

def decimal : Reader Node := do
  let negative ← sign
  let number := numberOf 10 (← wholeDigits)
  if negative then
    check (number ≤ integerBound)
    return .integer (-number)
  else
    check (number < integerBound)
    return .integer number

def based (mark : Text) (base : Nat) (accepts : Char → Bool) : Reader Node := do
  literal mark
  let number := numberOf base (← digits accepts)
  check (number < integerBound)
  return .integer number

def integer : Reader Node :=
  based ['0', 'x'] 16 isHexDigit <|>
    based ['0', 'o'] 8 (fun c => '0' ≤ c && c ≤ '7') <|>
    based ['0', 'b'] 2 (fun c => c == '0' || c == '1') <|> decimal

def exponent : Reader Int := do
  discard (one fun c => c == 'e' || c == 'E')
  let negative ← sign
  let number : Int := numberOf 10 (← digits Char.isDigit)
  return if negative then -number else number

def doubleBound : Nat := Nat.pow 2 1024 - Nat.pow 2 970

def isHuge (mantissa : Nat) (exponent : Int) : Bool :=
  let magnitude := exponent + (Nat.toDigits 10 mantissa).length
  if mantissa = 0 || magnitude < 300 then false
  else if magnitude > 400 then true
  else decide (doubleBound * Nat.pow 10 (-exponent).toNat ≤ mantissa * Nat.pow 10 exponent.toNat)

/-- A number with a fraction, an exponent or both. Positive ones must not be too large. -/
def fractional : Reader Unit := do
  let negative ← sign
  let whole ← wholeDigits
  let fraction ← maybe (literal ['.'] *> digits Char.isDigit)
  let power ← maybe exponent
  check (fraction.isSome || power.isSome)
  let places := fraction.getD []
  check (negative || !isHuge (numberOf 10 (whole ++ places)) (power.getD 0 - places.length))

def special : Reader Unit := sign *> (literal ['i', 'n', 'f'] <|> literal ['n', 'a', 'n'])

def float : Reader Node := .float <$> spelled (fractional <|> special)

def bounded (count lower upper : Nat) : Reader Nat := do
  let number := numberOf 10 (← times (one Char.isDigit) count)
  check (lower ≤ number && number ≤ upper)
  return number

def daysIn (year month : Nat) : Nat :=
  if month = 2 then
    if year % 4 = 0 && (year % 100 != 0 || year % 400 = 0) then 29 else 28
  else if month ∈ [4, 6, 9, 11] then 30 else 31

def day : Reader Unit := do
  let year ← bounded 4 0 9999
  literal ['-']
  let month ← bounded 2 1 12
  literal ['-']
  discard (bounded 2 1 (daysIn year month))

def time : Reader Unit := do
  discard (bounded 2 0 23)
  literal [':']
  discard (bounded 2 0 59)
  literal [':']
  discard (bounded 2 0 60)
  discard (maybe (literal ['.'] *> run1 Char.isDigit))

def offset : Reader Unit :=
  discard (one fun c => c == 'Z' || c == 'z') <|> (do
    discard (one fun c => c == '+' || c == '-')
    discard (bounded 2 0 23)
    literal [':']
    discard (bounded 2 0 59))

def moment : Reader Unit :=
  (do
    day
    discard (maybe (one (fun c => c == 'T' || c == 't' || c == ' ') *> time *> maybe offset))) <|> time

def date : Reader Node := .date <$> spelled moment

def boolean : Reader Node :=
  (literal ['t', 'r', 'u', 'e'] *> pure (.boolean true)) <|>
    (literal ['f', 'a', 'l', 's', 'e'] *> pure (.boolean false))

def scalar : Reader Node := .text <$> anyText <|> boolean <|> date <|> float <|> integer

end RouteAtlas.Toml

namespace RouteAtlas

def inRanges (table : List (Nat × Nat)) (code : Nat) : Bool :=
  table.any fun (first, last) => first ≤ code && code ≤ last

theorem inRanges_iff (table : List (Nat × Nat)) (code : Nat) :
    inRanges table code = true ↔ ∃ range ∈ table, range.1 ≤ code ∧ code ≤ range.2 := by
  simp [inRanges]

def blankRanges : List (Nat × Nat) := [
  (0x0085, 0x0085), (0x00A0, 0x00A0), (0x1680, 0x1680), (0x2000, 0x200A), (0x2028, 0x2029),
  (0x202F, 0x202F), (0x205F, 0x205F), (0x3000, 0x3000)]

def isBlank (c : Char) : Bool :=
  if c.toNat < 128 then c == ' ' || (9 ≤ c.toNat && c.toNat ≤ 13) else inRanges blankRanges c.toNat

abbrev Text := List Char

instance : Coe String Text := ⟨String.toList⟩

namespace Text

def trimStart (text : Text) : Text := text.dropWhile isBlank

def trimEnd (text : Text) : Text :=
  text.foldr (fun c rest => if rest.isEmpty && isBlank c then [] else c :: rest) []

def trim (text : Text) : Text := trimEnd (trimStart text)

def pushFront (c : Char) : List Text → List Text
  | [] => [[c]]
  | piece :: pieces => (c :: piece) :: pieces

/-- The pieces between the separators. There is one more piece than there are separators. -/
def splitOn (separator : Char) (text : Text) : List Text :=
  text.foldr (fun c pieces => if c = separator then [] :: pieces else pushFront c pieces) [[]]

def join (separator : Text) : List Text → Text
  | [] => []
  | [piece] => piece
  | piece :: pieces => piece ++ separator ++ join separator pieces

def dropReturn (line : Text) : Text :=
  if line.getLast? = some '\r' then line.dropLast else line

/--
Lines from the pieces between line feeds: a carriage return before a line feed belongs to the line
break, and nothing after the last line feed is no line.
-/
def linesOfPieces : List Text → List Text
  | [] => []
  | [last] => if last.isEmpty then [] else [last]
  | piece :: next :: pieces => dropReturn piece :: linesOfPieces (next :: pieces)

def lines (text : Text) : List Text := linesOfPieces (splitOn '\n' text)

def contains (text needle : Text) : Bool :=
  match text with
  | [] => needle.isEmpty
  | c :: rest => needle.isPrefixOf (c :: rest) || contains rest needle

def after? : (lead : Text) → (text : Text) → Option Text
  | [], text => some text
  | _ :: _, [] => none
  | c :: lead, d :: text => if c = d then after? lead text else none

def startsWith (text lead : Text) : Bool := lead.isPrefixOf text

def endsWith (text tail : Text) : Bool := tail.isSuffixOf text

def afterLast (separator : Char) (text : Text) : Text :=
  (text.reverse.takeWhile (· ≠ separator)).reverse

def upperBasic (text : Text) : Text := text.map Char.toUpper

def lowerBasic (text : Text) : Text := text.map Char.toLower

def bytes (text : Text) : List UInt8 := text.flatMap String.utf8EncodeChar

def ofBytes? (bytes : List UInt8) : Option Text :=
  (String.fromUTF8? ⟨bytes.toArray⟩).map String.toList

def byteSize : Text → Nat
  | [] => 0
  | c :: rest => c.utf8Size + byteSize rest

/-- What follows the first `count` bytes, when these end between two characters. -/
def dropBytes? : (count : Nat) → Text → Option Text
  | 0, text => some text
  | _ + 1, [] => none
  | count + 1, c :: rest =>
    if c.utf8Size ≤ count + 1 then dropBytes? (count + 1 - c.utf8Size) rest else none

def ofNat (n : Nat) : Text := Nat.toDigits 10 n

def digitsValue? (digits : Text) : Option Nat :=
  if digits.isEmpty || !digits.all Char.isDigit then none
  else some (digits.foldl (fun number digit => number * 10 + (digit.toNat - '0'.toNat)) 0)

/-- A whole number below 2^64 in decimal digits, after a plus sign or not. -/
def unsigned? (text : Text) : Option Nat :=
  (digitsValue? ((after? ['+'] text).getD text)).filter (· < UInt64.size)

end Text

def upToQuote? (quote : Char) : Text → Option Text
  | [] => none
  | c :: rest => if c = quote then some [] else (upToQuote? quote rest).map (c :: ·)

def firstDoubleQuoted? : Text → Option Text
  | [] => none
  | c :: rest => if c = '"' then upToQuote? '"' rest else firstDoubleQuoted? rest

def firstLiteral? : Text → Option Text
  | [] => none
  | c :: rest => if c = '"' ∨ c = '\'' then upToQuote? c rest else firstLiteral? rest

end RouteAtlas

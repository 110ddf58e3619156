import RouteAtlas.Glob.Token

namespace RouteAtlas.Glob

def slash : UInt8 := 47

inductive UnitSet where
  | all
  /-- The units in one of the ranges, or all others. -/
  | listed (negated : Bool) (ranges : List (UInt8 × UInt8))
deriving DecidableEq, Repr

namespace UnitSet

def withoutSlash : UnitSet := .listed true [(slash, slash)]

def accepts : UnitSet → UInt8 → Bool
  | .all, _ => true
  | .listed negated ranges, unit =>
    (ranges.any fun (lower, upper) => lower ≤ unit && unit ≤ upper) != negated

end UnitSet

/-- One item of an expression. An expression is a list of items that follow each other. -/
inductive Item where
  | literal (unit : UInt8)
  | one (set : UnitSet)
  | many (set : UnitSet)
  | maybe (unit : UInt8)
  | choice (branches : List (List Item))

/--
The unit ranges of a range of characters: the units of the first character except its last one stand
for themselves, then comes the range from this one to the first unit of the last character, then the
other units of the last character.
-/
def unitRanges (first last : Char) : List (UInt8 × UInt8) :=
  let singles := fun units : List UInt8 => units.map fun unit => (unit, unit)
  let lower := String.utf8EncodeChar first
  let upper := String.utf8EncodeChar last
  if first = last then singles lower
  else
    singles lower.dropLast ++ [(lower.getLastD 0, upper.headD 0)] ++ singles upper.tail

def wild (options : GlobOptions) : UnitSet := if options.separate then .withoutSlash else .all

mutual

/-- What a token stands for. A group without branches stands for nothing. -/
def ofToken (options : GlobOptions) : GlobToken → List Item
  | .literal c => (String.utf8EncodeChar c).map .literal
  | .any => [.one (wild options)]
  | .star => [.many (wild options)]
  | .leading => [.choice [[.maybe slash], [.many .all, .literal slash]]]
  | .inside => [.literal slash, .many .all]
  | .between => [.choice [[.literal slash], [.literal slash, .many .all, .literal slash]]]
  | .charClass negated ranges =>
    [.one (.listed negated (ranges.flatMap fun (first, last) => unitRanges first last))]
  | .group branches =>
    match ofBranches options branches with
    | [] => []
    | branches => [.choice branches]

def ofTokens (options : GlobOptions) : List GlobToken → List Item
  | [] => []
  | token :: tokens => ofToken options token ++ ofTokens options tokens

/-- What the branches of a group stand for. Those that stand for nothing are dropped. -/
def ofBranches (options : GlobOptions) : List (List GlobToken) → List (List Item)
  | [] => []
  | branch :: branches =>
    match ofTokens options branch with
    | [] => ofBranches options branches
    | items => items :: ofBranches options branches

end

/-- The expression of a pattern. A lone double star stands for everything. -/
def expression (options : GlobOptions) : List GlobToken → List Item
  | [.leading] => [.many .all]
  | tokens => ofTokens options tokens

def isMeta (c : Char) : Bool := "\\.+*?()|[]\x7b\x7d^$#&-~".toList.contains c

/-- A unit as it is written: as a character, or in base 16 beyond the first 128. -/
def writeUnit (unit : UInt8) : Text :=
  if unit < 128 then
    let c := Char.ofNat unit.toNat
    if isMeta c then ['\\', c] else [c]
  else '\\' :: 'x' :: Nat.toDigits 16 unit.toNat

def UnitSet.write : UnitSet → Text
  | .all => ['.']
  | .listed negated ranges =>
    let writeRange := fun ((lower, upper) : UInt8 × UInt8) =>
      if lower = upper then writeUnit lower else writeUnit lower ++ '-' :: writeUnit upper
    '[' :: (if negated then ['^'] else []) ++ ranges.flatMap writeRange ++ [']']

mutual

def Item.write : Item → Text
  | .literal unit => writeUnit unit
  | .one set => set.write
  | .many set => set.write ++ ['*']
  | .maybe unit => writeUnit unit ++ ['?']
  | .choice branches => "(?:".toList ++ Text.join ['|'] (writeBranches branches) ++ [')']

def writeItems : List Item → Text
  | [] => []
  | item :: items => item.write ++ writeItems items

def writeBranches : List (List Item) → List Text
  | [] => []
  | branch :: branches => writeItems branch :: writeBranches branches

end

def writeExpression (items : List Item) : Text := "(?-u)^".toList ++ writeItems items ++ ['$']

/-- A list of several parts is one level deeper than its parts. -/
def levelOf (count : Nat) : Nat := if 2 ≤ count then 1 else 0

def UnitSet.depth : UnitSet → Nat
  | .all => 0
  | .listed _ ranges => 1 + levelOf ranges.length

mutual

def Item.depth : Item → Nat
  | .literal _ => 0
  | .one set => set.depth
  | .many set => 1 + set.depth
  | .maybe _ => 1
  | .choice branches => 1 + levelOf branches.length + branchesDepth branches

def itemsDepth : List Item → Nat
  | [] => 0
  | item :: items => max item.depth (itemsDepth items)

def branchesDepth : List (List Item) → Nat
  | [] => 0
  | branch :: branches => max (levelOf branch.length + itemsDepth branch) (branchesDepth branches)

end

def depthLimit : Nat := 250

/-- True for expressions that are nested too deeply. The whole expression is a level of its own. -/
def isTooDeep (items : List Item) : Bool := depthLimit < 1 + itemsDepth items

end RouteAtlas.Glob

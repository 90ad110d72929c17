import AbapAtlas.Document.Datum

/-! Writing JSON, one value a line and two blanks a level. -/
namespace AbapAtlas.Json
open Document

def fitsInt (n : Int) : Bool := -(Datum.signedLimit : Int) ≤ n && n < Datum.unsignedLimit

mutual
def fits : Datum → Bool
  | .int n => fitsInt n
  | .list items => fitsAll items
  | .table fields => fitsFields fields
  | _ => true

def fitsAll : List Datum → Bool
  | [] => true
  | item :: rest => fits item && fitsAll rest

def fitsFields : List (String × Datum) → Bool
  | [] => true
  | (_, value) :: rest => fits value && fitsFields rest
end

inductive Obstacle where
  | tooWide
  | unspelled
  deriving DecidableEq, Repr

def textObstacle? (spells : String → Bool) (text : String) : Option Obstacle :=
  if spells text then none else some .unspelled

-- The first obstacle in the order of writing, which puts a key before its value.
mutual
def obstacle? (spells : String → Bool) : Datum → Option Obstacle
  | .int n => if fitsInt n then none else some .tooWide
  | .text text => textObstacle? spells text
  | .list items => itemObstacle? spells items
  | .table fields => fieldObstacle? spells fields
  | _ => none

def itemObstacle? (spells : String → Bool) : List Datum → Option Obstacle
  | [] => none
  | item :: rest => (obstacle? spells item).or (itemObstacle? spells rest)

def fieldObstacle? (spells : String → Bool) : List (String × Datum) → Option Obstacle
  | [] => none
  | (key, value) :: rest =>
    ((textObstacle? spells key).or (obstacle? spells value)).or (fieldObstacle? spells rest)
end

section
variable {spells : String → Bool}

theorem textObstacle_of_spelled (all : ∀ text, spells text = true) (text : String) :
    textObstacle? spells text = none := if_pos (all text)

mutual
theorem obstacle_of_spelled (all : ∀ text, spells text = true) (value : Datum) :
    obstacle? spells value = if fits value then none else some .tooWide := by
  cases value with
  | int n => rw [obstacle?, fits]
  | text text => rw [obstacle?, textObstacle_of_spelled all, fits] <;> simp
  | list items => rw [obstacle?, fits, itemObstacle_of_spelled all]
  | table fields => rw [obstacle?, fits, fieldObstacle_of_spelled all]
  | null | bool | float | moment => rw [obstacle?, fits] <;> simp

theorem itemObstacle_of_spelled (all : ∀ text, spells text = true) (items : List Datum) :
    itemObstacle? spells items = if fitsAll items then none else some .tooWide := by
  cases items with
  | nil => rfl
  | cons item rest =>
    rw [itemObstacle?, fitsAll, obstacle_of_spelled all item, itemObstacle_of_spelled all rest]
    cases fits item <;> rfl

theorem fieldObstacle_of_spelled (all : ∀ text, spells text = true)
    (fields : List (String × Datum)) :
    fieldObstacle? spells fields = if fitsFields fields then none else some .tooWide := by
  cases fields with
  | nil => rfl
  | cons field rest =>
    obtain ⟨key, value⟩ := field
    rw [fieldObstacle?, fitsFields, textObstacle_of_spelled all, obstacle_of_spelled all value,
      fieldObstacle_of_spelled all rest]
    cases fits value <;> rfl
end

end

def hexDigit (n : Nat) : Char := Nat.digitChar (n % 16)

def escape (c : Char) : List Char :=
  match c with
  | '"' => ['\\', '"']
  | '\\' => ['\\', '\\']
  | '\x08' => ['\\', 'b']
  | '\t' => ['\\', 't']
  | '\n' => ['\\', 'n']
  | '\x0c' => ['\\', 'f']
  | '\r' => ['\\', 'r']
  | c =>
    if c.toNat < 0x20 then ['\\', 'u', '0', '0', hexDigit (c.toNat / 16), hexDigit c.toNat]
    else [c]

def printText (text : String) : List Char := '"' :: text.toList.flatMap escape ++ ['"']

def printExponent (n : Int) : List Char :=
  'e' :: (if n < 0 then [] else ['+']) ++ (toString n).toList

/-- Decimal digits with the point where `exponent` says, `digits` counting `10 ^ exponent`.
Positional notation is used while the point is within the digits, up to five places before or
sixteen places after their first. -/
def printDecimal (digits : Nat) (exponent : Int) : List Char :=
  let ds := Nat.toDigits 10 digits
  let point : Int := ds.length + exponent
  if 0 ≤ exponent ∧ point ≤ 16 then ds ++ List.replicate exponent.toNat '0' ++ ['.', '0']
  else if 0 < point ∧ point ≤ 16 then ds.take point.toNat ++ '.' :: ds.drop point.toNat
  else if -5 < point ∧ point ≤ 0 then '0' :: '.' :: List.replicate (-point).toNat '0' ++ ds
  else
    (match ds with
      | [d] => [d]
      | d :: more => d :: '.' :: more
      | [] => []) ++ printExponent (point - 1)

def printFloat : Binary64 → List Char
  | .finite negative m e =>
    (if negative then ['-'] else []) ++
      if m = 0 then ['0', '.', '0']
      else
        let (digits, exponent) := Binary64.shortest m e
        printDecimal digits exponent
  | _ => "null".toList

def newLine (level : Nat) : List Char := '\n' :: List.replicate (2 * level) ' '

mutual
def print (level : Nat) : Datum → List Char
  | .null => "null".toList
  | .bool true => "true".toList
  | .bool false => "false".toList
  | .int n => (toString n).toList
  | .float x => printFloat x
  | .text s => printText s
  | .moment s => printText s
  | .list [] => ['[', ']']
  | .list (item :: rest) =>
    '[' :: newLine (level + 1) ++ print (level + 1) item ++ printItems (level + 1) rest ++
      newLine level ++ [']']
  | .table [] => ['{', '}']
  | .table ((key, value) :: rest) =>
    '{' :: newLine (level + 1) ++ printText key ++ ':' :: ' ' :: print (level + 1) value ++
      printFields (level + 1) rest ++ newLine level ++ ['}']

def printItems (level : Nat) : List Datum → List Char
  | [] => []
  | item :: rest => ',' :: newLine level ++ print level item ++ printItems level rest

def printFields (level : Nat) : List (String × Datum) → List Char
  | [] => []
  | (key, value) :: rest =>
    ',' :: newLine level ++ printText key ++ ':' :: ' ' :: print level value ++
      printFields level rest
end

def write (value : Datum) : String := String.ofList (print 0 value)

end AbapAtlas.Json

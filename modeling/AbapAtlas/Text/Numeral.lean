import AbapAtlas.Text.Parts
import AbapAtlas.Text.Digit

/-! Decimal numerals of bounded length. Numbers have any size, but a numeral longer than
`digitLimit` is neither read nor written. -/
namespace AbapAtlas.Text

def digitLimit : Nat := 4300

inductive NumeralError where
  | tooLongToRead (digits : Nat)
  | tooLongToWrite
  deriving DecidableEq, Repr

def NumeralError.message : NumeralError → String
  | .tooLongToRead digits =>
    s!"Exceeds the limit ({digitLimit} digits) for integer string conversion: " ++
      s!"value has {digits} digits; use sys.set_int_max_str_digits() to increase the limit"
  | .tooLongToWrite =>
    s!"Exceeds the limit ({digitLimit} digits) for integer string conversion; " ++
      "use sys.set_int_max_str_digits() to increase the limit"

def ofDigits (digits : List Nat) : Nat := digits.foldl (fun value digit => 10 * value + digit) 0

def readDigits (digits : List Nat) : Except NumeralError Nat :=
  -- Reads a row of digits; leading zeros count for its length.
  if digits.length ≤ digitLimit then .ok (ofDigits digits)
  else .error (.tooLongToRead digits.length)

def writeInt (n : Int) : Except NumeralError String :=
  if n.natAbs < Nat.pow 10 digitLimit then .ok (toString n) else .error .tooLongToWrite

def groupedDigits? (digit? : Char → Option Nat) : List Char → Option (List Nat)
  | [] => none
  | [c] => (digit? c).map ([·])
  | c :: '_' :: rest => do return (← digit? c) :: (← groupedDigits? digit? rest)
  | c :: rest => do return (← digit? c) :: (← groupedDigits? digit? rest)

def splitSign : List Char → Bool × List Char
  | '-' :: rest => (true, rest)
  | '+' :: rest => (false, rest)
  | text => (false, text)

def withSign (negative : Bool) (n : Nat) : Int := if negative then -(n : Int) else n

def readInt? (text : String) : Option Int := do
  let (negative, digits) := splitSign (trim text).toList
  let value ← (readDigits (← groupedDigits? digitValue? digits)).toOption
  return withSign negative value

end AbapAtlas.Text

import AbapAtlas.Text.Case.Lower
import AbapAtlas.Text.Numeral
import AbapAtlas.Text.Percent
import AbapAtlas.Text.Search
import AbapAtlas.Text.Word

/-! Where a check says a finding is: an address of the object's source that carries the line,
counted from the start of a method, and often the method itself, in one of the two forms
`…/methods/my_method#start=21,0` and `…/source/main#type=CLAS%2FOM;name=MY_METHOD;start=21`. -/
namespace AbapAtlas.Location
open Text

def startDigits? (text : List Char) : Option (List Nat) := do
  let rest ← dropLiteral? (· == ·) "start=".toList text
  let digits ← run? isDigit rest
  return digits.filterMap digitValue?

/-- The line that a location names: the number after the leftmost start mark that has one.
Lines count from one; a location without a line, or with line zero, means the first. -/
def startLine (location : String) : Except NumeralError Nat :=
  match firstAt startDigits? location.toList with
  | none => .ok 1
  | some digits => (readDigits digits).map (max 1)

def segmentName? (text : List Char) : Option (List Char) :=
  (dropLiteral? isCaseOf "/methods/".toList text).bind (run? isNameChar)

def parameterName? : List Char → Option (List Char)
  | [] => none
  | c :: rest =>
    if c = ';' ∨ c = '?' ∨ c = '&' then
      (dropLiteral? isCaseOf "name=".toList rest).bind (run? isNameChar)
    else none

def methodName? (text : List Char) : Option (List Char) :=
  -- The method name in a decoded location: that of the leftmost methods segment, and only if there
  -- is none the leftmost name parameter.
  match firstAt segmentName? text with
  | some name => some name
  | none => firstAt parameterName? text

def methodHint? (location : String) : Option String :=
  (methodName? (Percent.decode location.toList)).map (fun name => lower (String.ofList name))

end AbapAtlas.Location

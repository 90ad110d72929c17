import AbapAtlas.Document.Datum
import AbapAtlas.Text.Numeral

/-! Checking documents against the shape of a record. Values are taken leniently where nothing is
lost, and all faults of a document are collected, each with its place. -/
namespace AbapAtlas
open Text Document

inductive Step where
  | field (key : String)
  | item (index : Nat)
  deriving DecidableEq, Repr

inductive FaultKind where
  | missing
  | unknownField
  | notText
  | notList
  | notRecord (record : String)
  | notInt
  | unreadableInt
  | fractional
  | notFinite
  | intTooLarge
  | below (least : Int)
  | notBool
  | unreadableBool
  | rule (text : String)
  deriving DecidableEq, Repr

structure Fault where
  place : List Step
  kind : FaultKind
  deriving DecidableEq, Repr

namespace FaultKind

def code : FaultKind → String
  | .missing => "missing"
  | .unknownField => "extra_forbidden"
  | .notText => "string_type"
  | .notList => "list_type"
  | .notRecord _ => "model_type"
  | .notInt => "int_type"
  | .unreadableInt => "int_parsing"
  | .fractional => "int_from_float"
  | .notFinite => "finite_number"
  | .intTooLarge => "int_parsing_size"
  | .below _ => "greater_than_equal"
  | .notBool => "bool_type"
  | .unreadableBool => "bool_parsing"
  | .rule _ => "value_error"

def message : FaultKind → String
  | .missing => "Field required"
  | .unknownField => "Extra inputs are not permitted"
  | .notText => "Input should be a valid string"
  | .notList => "Input should be a valid list"
  | .notRecord record => s!"Input should be a valid dictionary or instance of {record}"
  | .notInt => "Input should be a valid integer"
  | .unreadableInt => "Input should be a valid integer, unable to parse string as an integer"
  | .fractional => "Input should be a valid integer, got a number with a fractional part"
  | .notFinite => "Input should be a finite number"
  | .intTooLarge => "Unable to parse input string as an integer, exceeded maximum size"
  | .below least => s!"Input should be greater than or equal to {least}"
  | .notBool => "Input should be a valid boolean"
  | .unreadableBool => "Input should be a valid boolean, unable to interpret input"
  | .rule text => "Value error, " ++ text

end FaultKind

inductive Checked (α : Type) where
  | passed (value : α)
  | failed (faults : List Fault)
  deriving DecidableEq, Repr

namespace Checked

def fault {α : Type} (kind : FaultKind) : Checked α := .failed [⟨[], kind⟩]

def map {α β : Type} (f : α → β) : Checked α → Checked β
  | .passed value => .passed (f value)
  | .failed faults => .failed faults

def andThen {α β : Type} (checked : Checked α) (next : α → Checked β) : Checked β :=
  match checked with
  | .passed value => next value
  | .failed faults => .failed faults

def also {α β : Type} : Checked (α → β) → Checked α → Checked β
  | .passed f, .passed value => .passed (f value)
  | .passed _, .failed faults => .failed faults
  | .failed faults, .passed _ => .failed faults
  | .failed faults, .failed more => .failed (faults ++ more)

def at' {α : Type} (step : Step) : Checked α → Checked α
  | .passed value => .passed value
  | .failed faults => .failed (faults.map fun fault => { fault with place := step :: fault.place })

end Checked

namespace Datum

def checkText : Datum → Checked String
  | .text value => .passed value
  | _ => .fault .notText

def checkOptionalText : Datum → Checked (Option String)
  | .null => .passed none
  | value => value.checkText.map some

-- Blanks that may surround a number in a text; separators of records are none.
def isSurroundingBlank (c : Char) : Bool := isBlank c && !(28 ≤ c.toNat && c.toNat ≤ 31)

def asciiDigit? (c : Char) : Option Nat := if c.isDigit then some (c.toNat - 48) else none

def dropZeroFraction? (text : List Char) : Option (List Char) :=
  match text.dropWhile (· != '.') with
  | [] => some text
  | _ :: zeros =>
    if zeros ≠ [] ∧ zeros.all (· == '0') then some (text.takeWhile (· != '.')) else none

/-- An integer in a text: a sign, digits that single underscores may group, and no fraction but
zeros. -/
def checkIntText (text : String) : Checked Int :=
  let (negative, unsigned) := splitSign (trimBy isSurroundingBlank text).toList
  match (dropZeroFraction? unsigned).bind (groupedDigits? asciiDigit?) with
  | none => .fault .unreadableInt
  | some digits =>
    if digits.length ≤ digitLimit then .passed (withSign negative (ofDigits digits))
    else .fault .intTooLarge

def checkInt : Datum → Checked Int
  | .int value => .passed value
  | .bool value => .passed (if value then 1 else 0)
  | .float (.finite negative m e) =>
    match Binary64.toInt? (.finite negative m e) with
    | none => .fault .fractional
    | some value => if value.natAbs < signedLimit then .passed value else .fault .intTooLarge
  | .float _ => .fault .notFinite
  | .text value => checkIntText value
  | _ => .fault .notInt

def checkIntFrom (least : Int) (value : Datum) : Checked Int :=
  value.checkInt.andThen fun n => if least ≤ n then .passed n else .fault (.below least)

def boolWords : List (String × Bool) :=
  [("0", false), ("off", false), ("f", false), ("false", false), ("n", false), ("no", false),
   ("1", true), ("on", true), ("t", true), ("true", true), ("y", true), ("yes", true)]

def checkBool : Datum → Checked Bool
  | .bool value => .passed value
  | .int value =>
    if value = 0 then .passed false else if value = 1 then .passed true
    else .fault .unreadableBool
  | .float value =>
    match value.toInt? with
    | some 0 => .passed false
    | some 1 => .passed true
    | _ => .fault .notBool
  | .text value =>
    match boolWords.lookup (String.ofList (value.toList.map Char.toLower)) with
    | some truth => .passed truth
    | none => .fault .unreadableBool
  | _ => .fault .notBool

def checkItems {α : Type} (check : Datum → Checked α) (index : Nat) :
    List Datum → Checked (List α)
  | [] => .passed []
  | item :: rest =>
    (((check item).at' (.item index)).map List.cons).also (checkItems check (index + 1) rest)

def checkList {α : Type} (check : Datum → Checked α) : Datum → Checked (List α)
  | .list items => checkItems check 0 items
  | _ => .fault .notList

end Datum

abbrev Fields := List (String × Datum)

namespace Fields

def find? (fields : Fields) : List String → Option (String × Datum)
  | [] => none
  | key :: rest =>
    match fields.lookup key with
    | some value => some (key, value)
    | none => find? fields rest

def required {α : Type} (fields : Fields) (keys : List String) (check : Datum → Checked α) :
    Checked α :=
  match fields.find? keys with
  | some (key, value) => (check value).at' (.field key)
  | none => (Checked.fault .missing).at' (.field (keys.headD ""))

def optional {α : Type} (fields : Fields) (keys : List String) (default : α)
    (check : Datum → Checked α) : Checked α :=
  match fields.find? keys with
  | some (key, value) => (check value).at' (.field key)
  | none => .passed default

def onlyKeys (fields : Fields) (keys : List String) : Checked Unit :=
  match (fields.map Prod.fst).filter fun key => !keys.contains key with
  | [] => .passed ()
  | unknown => .failed (unknown.map fun key => ⟨[.field key], .unknownField⟩)

end Fields

def Fault.countText (record : String) (faults : List Fault) : String :=
  let noun := if faults.length = 1 then "validation error" else "validation errors"
  s!"{faults.length} {noun} for {record}"

end AbapAtlas

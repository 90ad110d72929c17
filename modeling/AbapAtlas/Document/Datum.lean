import AbapAtlas.Document.Binary64

/-! Values of structured documents, whichever notation they are written in. -/
namespace AbapAtlas

/-- A value of a document. The fields of a table keep the order in which they were first named;
a moment is a date, a time of day or both. -/
inductive Datum where
  | null
  | bool (value : Bool)
  | int (value : Int)
  | float (value : Document.Binary64)
  | text (value : String)
  | moment (text : String)
  | list (items : List Datum)
  | table (fields : List (String × Datum))
  deriving Repr, Inhabited

namespace Datum

def signedLimit : Nat := 9223372036854775808

def unsignedLimit : Nat := 18446744073709551616

def field? (key : String) : Datum → Option Datum
  | .table fields => fields.lookup key
  | _ => none

def setField (key : String) (value : Datum) : List (String × Datum) → List (String × Datum)
  | [] => [(key, value)]
  | (k, v) :: rest => if k = key then (k, value) :: rest else (k, v) :: setField key value rest

end Datum
end AbapAtlas

import AbapAtlas.Document.Json.Token

/-! Reading JSON. Values are built from tokens on a stack of the lists and tables that are open,
which may be `depthLimit` deep. A key that is named again takes the later value. -/
namespace AbapAtlas.Json
open Document

def depthLimit : Nat := 1024

/-- A list or table that is open at the value to come: a list with the items before it, last
first, and a table with the fields before it and its key. -/
inductive Frame where
  | list (items : List Datum)
  | table (fields : List (String × Datum)) (key : String)

inductive Mode where
  | value
  | valueOrEnd
  | keyOrEnd
  | key (fields : List (String × Datum))
  | colon (fields : List (String × Datum)) (key : String)
  -- After a value, a separator or the end of what is open.
  | after (value : Datum)

structure State where
  frames : List Frame
  mode : Mode

def enter (frames : List Frame) (mode : Mode) : Option State :=
  if frames.length < depthLimit then some ⟨frames, mode⟩ else none

def beginValue (frames : List Frame) : Token → Option State
  | .text value => some ⟨frames, .after (.text value)⟩
  | .scalar value => some ⟨frames, .after value⟩
  | .openList => enter frames .valueOrEnd
  | .openTable => enter frames .keyOrEnd
  | _ => none

def State.read : State → Token → Option State
  | ⟨frames, .value⟩, token => beginValue frames token
  | ⟨frames, .valueOrEnd⟩, .closeList => some ⟨frames, .after (.list [])⟩
  | ⟨frames, .valueOrEnd⟩, token => beginValue (.list [] :: frames) token
  | ⟨frames, .keyOrEnd⟩, .closeTable => some ⟨frames, .after (.table [])⟩
  | ⟨frames, .keyOrEnd⟩, .text key => some ⟨frames, .colon [] key⟩
  | ⟨frames, .key fields⟩, .text key => some ⟨frames, .colon fields key⟩
  | ⟨frames, .colon fields key⟩, .colon => some ⟨.table fields key :: frames, .value⟩
  | ⟨.list items :: frames, .after value⟩, .comma => some ⟨.list (value :: items) :: frames, .value⟩
  | ⟨.list items :: frames, .after value⟩, .closeList =>
    some ⟨frames, .after (.list (value :: items).reverse)⟩
  | ⟨.table fields key :: frames, .after value⟩, .comma =>
    some ⟨frames, .key (Datum.setField key value fields)⟩
  | ⟨.table fields key :: frames, .after value⟩, .closeTable =>
    some ⟨frames, .after (.table (Datum.setField key value fields))⟩
  | _, _ => none

def State.value? : State → Option Datum
  | ⟨[], .after value⟩ => some value
  | _ => none

def read? (text : String) : Option Datum := do
  let tokens ← tokens? text.toList
  (← tokens.foldlM State.read ⟨[], .value⟩).value?

def readBytes? (bytes : ByteArray) : Option Datum := (String.fromUTF8? bytes).bind read?

end AbapAtlas.Json

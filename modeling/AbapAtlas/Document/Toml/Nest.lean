import AbapAtlas.Document.Datum

/-! The tables of a TOML document while it is read. Which keys may still be opened or extended is
kept beside them: a table can be declared once, and an inline list or table is closed for good. -/
namespace AbapAtlas.Toml

abbrev Key := List String

/-- Changes the table that a key leads to, and makes the tables on the way that are missing. A list
of tables stands for its last table where `throughLists` says so. -/
def changeTable (throughLists : Bool)
    (change : List (String × Datum) → Option (List (String × Datum))) :
    Key → List (String × Datum) → Option (List (String × Datum))
  | [], fields => change fields
  | name :: rest, fields => do
    match fields.lookup name with
    | none => return Datum.setField name (.table (← changeTable throughLists change rest [])) fields
    | some (.table inner) =>
      return Datum.setField name (.table (← changeTable throughLists change rest inner)) fields
    | some (.list items) =>
      match throughLists, items.getLast? with
      | true, some (.table inner) =>
        let table := .table (← changeTable throughLists change rest inner)
        return Datum.setField name (.list (items.dropLast ++ [table])) fields
      | _, _ => none
    | some _ => none

def addField (name : String) (value : Datum) (fields : List (String × Datum)) :
    Option (List (String × Datum)) :=
  if (fields.lookup name).isSome then none else some (fields ++ [(name, value)])

def addTable (name : String) (fields : List (String × Datum)) : Option (List (String × Datum)) :=
  match fields.lookup name with
  | none => some (fields ++ [(name, .list [.table []])])
  | some (.list items) => some (Datum.setField name (.list (items ++ [.table []])) fields)
  | some _ => none

structure Marks where
  declared : List Key := []
  -- Tables made by dotted keys, which count as declared once another table begins.
  pending : List Key := []
  -- Inline lists and tables, closed with all that is in them.
  closed : List Key := []

namespace Marks

def isDeclared (marks : Marks) (key : Key) : Bool := marks.declared.contains key

def isClosed (marks : Marks) (key : Key) : Bool := marks.closed.any (·.isPrefixOf key)

def settle (marks : Marks) : Marks :=
  { marks with declared := marks.pending ++ marks.declared, pending := [] }

def forget (marks : Marks) (key : Key) : Marks :=
  { marks with
    declared := marks.declared.filter fun other => !key.isPrefixOf other
    closed := marks.closed.filter fun other => !key.isPrefixOf other }

end Marks

structure Draft where
  fields : List (String × Datum) := []
  marks : Marks := {}
  header : Key := []

def isNest : Datum → Bool
  | .list _ => true
  | .table _ => true
  | _ => false

namespace Draft

def openTable (draft : Draft) (key : Key) : Option Draft := do
  let marks := draft.marks.settle
  if marks.isDeclared key || marks.isClosed key then none
  let fields ← changeTable true some key draft.fields
  return { fields, marks := { marks with declared := key :: marks.declared }, header := key }

def openItem (draft : Draft) (key : Key) : Option Draft := do
  let marks := draft.marks.settle
  if marks.isClosed key then none
  let marks := marks.forget key
  let fields ← changeTable true (addTable (key.getLastD "")) key.dropLast draft.fields
  return { fields, marks := { marks with declared := key :: marks.declared }, header := key }

def passed (header key : Key) : List Key :=
  (List.range key.length).filterMap fun n => if n = 0 then none else some (header ++ key.take n)

def set (draft : Draft) (key : Key) (value : Datum) : Option Draft := do
  let through := passed draft.header key
  if through.any draft.marks.isDeclared then none
  let table := draft.header ++ key.dropLast
  if draft.marks.isClosed table then none
  let fields ← changeTable true (addField (key.getLastD "") value) table draft.fields
  let marks := { draft.marks with pending := through ++ draft.marks.pending }
  let marks := if isNest value then { marks with closed := (draft.header ++ key) :: marks.closed }
    else marks
  return { draft with fields, marks }

end Draft
end AbapAtlas.Toml

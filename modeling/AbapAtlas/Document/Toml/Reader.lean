import AbapAtlas.Document.Toml.Nest
import AbapAtlas.Document.Toml.Scalar

/-! Reading TOML: a document is a row of lines, each a table header, a key with its value, a
comment or blank. -/
namespace AbapAtlas.Toml
open Text

def isBareKeyChar (c : Char) : Bool := c.isAlphanum || c == '-' || c == '_'

def keyName (text : List Char) : Except Fault (String × List Char) :=
  let toName (reading : Except Fault (List Char × List Char)) : Except Fault (String × List Char) :=
    reading.map fun (content, rest) => (String.ofList content, rest)
  match text with
  | '\'' :: rest => toName (literal rest)
  | '"' :: rest => toName (basic false rest)
  | _ =>
    match text.takeWhile isBareKeyChar with
    | [] => .error .malformed
    | name => .ok (String.ofList name, text.dropWhile isBareKeyChar)

def keyFrom : (fuel : Nat) → List Char → Except Fault (Key × List Char)
  | 0, _ => .error .malformed
  | fuel + 1, text => do
    let (name, rest) ← keyName text
    match skipInlineBlanks rest with
    | '.' :: rest =>
      let (more, rest) ← keyFrom fuel (skipInlineBlanks rest)
      return (name :: more, rest)
    | rest => return ([name], rest)

def key (text : List Char) : Except Fault (Key × List Char) := keyFrom (text.length + 1) text

def dropComment (text : List Char) : Except Fault (List Char) :=
  match text with
  | '#' :: rest =>
    if (rest.takeWhile (· != '\n')).any isControl then .error .malformed
    else .ok (rest.dropWhile (· != '\n'))
  | _ => .ok text

def skipAll : (fuel : Nat) → List Char → Except Fault (List Char)
  | 0, text => .ok text
  | fuel + 1, text =>
    match text.dropWhile fun c => isInlineBlank c || c == '\n' with
    | '#' :: rest => do skipAll fuel (← dropComment ('#' :: rest))
    | rest => .ok rest

structure InlineTable where
  fields : List (String × Datum) := []
  closed : List Key := []

def InlineTable.add (table : InlineTable) (key : Key) (value : Datum) : Option InlineTable := do
  if table.closed.any (·.isPrefixOf key) then none
  let fields ← changeTable false (addField (key.getLastD "") value) key.dropLast table.fields
  return { fields, closed := if isNest value then key :: table.closed else table.closed }

/-- There is room for so many calls within each other. A list takes two of them for what is in it,
an inline table three. -/
def callLimit : Nat := 990

mutual
def value : (fuel room : Nat) → List Char → Except Fault (Datum × List Char)
  | 0, _, _ => .error .malformed
  | fuel + 1, room, text =>
    match text with
    | '[' :: rest =>
      if room < 2 then .error .tooDeep
      else do
        match ← skipAll rest.length rest with
        | ']' :: rest => return (.list [], rest)
        | rest => items fuel (room - 2) [] rest
    | '{' :: rest =>
      if room < 3 then .error .tooDeep
      else
        match skipInlineBlanks rest with
        | '}' :: rest => .ok (.table [], rest)
        | rest => entries fuel (room - 3) {} rest
    | _ => scalar text

def items : (fuel room : Nat) → List Datum → List Char → Except Fault (Datum × List Char)
  | 0, _, _, _ => .error .malformed
  | fuel + 1, room, earlier, text => do
    let (item, rest) ← value fuel room text
    match ← skipAll rest.length rest with
    | ']' :: rest => return (.list (item :: earlier).reverse, rest)
    | ',' :: rest =>
      match ← skipAll rest.length rest with
      | ']' :: rest => return (.list (item :: earlier).reverse, rest)
      | rest => items fuel room (item :: earlier) rest
    | _ => .error .malformed

def entries : (fuel room : Nat) → InlineTable → List Char → Except Fault (Datum × List Char)
  | 0, _, _, _ => .error .malformed
  | fuel + 1, room, table, text => do
    let (name, rest) ← key text
    match rest with
    | '=' :: rest =>
      let (item, rest) ← value fuel room (skipInlineBlanks rest)
      match table.add name item with
      | none => .error .malformed
      | some table =>
        match skipInlineBlanks rest with
        | '}' :: rest => return (.table table.fields, rest)
        | ',' :: rest => entries fuel room table (skipInlineBlanks rest)
        | _ => .error .malformed
    | _ => .error .malformed
end

def orMalformed {α : Type} : Option α → Except Fault α
  | some value => .ok value
  | none => .error .malformed

def header (draft : Draft) (text : List Char) : Except Fault (Draft × List Char) := do
  match text with
  | '[' :: rest =>
    let (name, rest) ← key (skipInlineBlanks rest)
    let draft ← orMalformed (draft.openItem name)
    match rest with
    | ']' :: ']' :: rest => return (draft, rest)
    | _ => .error .malformed
  | _ =>
    let (name, rest) ← key (skipInlineBlanks text)
    let draft ← orMalformed (draft.openTable name)
    match rest with
    | ']' :: rest => return (draft, rest)
    | _ => .error .malformed

def setting (draft : Draft) (text : List Char) : Except Fault (Draft × List Char) := do
  let (name, rest) ← key text
  match rest with
  | '=' :: rest =>
    let rest := skipInlineBlanks rest
    let (item, rest) ← value (2 * rest.length + 2) callLimit rest
    return (← orMalformed (draft.set name item), rest)
  | _ => .error .malformed

def statement (draft : Draft) (text : List Char) : Except Fault (Draft × List Char) :=
  match text with
  | [] => .ok (draft, [])
  | c :: rest =>
    if c = '\n' ∨ c = '#' then .ok (draft, text)
    else if c = '[' then header draft rest
    else if isBareKeyChar c ∨ c = '"' ∨ c = '\'' then setting draft text
    else .error .malformed

def document : (fuel : Nat) → Draft → List Char → Except Fault Draft
  | 0, draft, _ => .ok draft
  | fuel + 1, draft, text => do
    let (draft, rest) ← statement draft (skipInlineBlanks text)
    match ← dropComment (skipInlineBlanks rest) with
    | [] => return draft
    | '\n' :: rest => document fuel draft rest
    | _ => .error .malformed

def joinLineEnds : List Char → List Char
  | [] => []
  | '\r' :: '\n' :: rest => '\n' :: joinLineEnds rest
  | c :: rest => c :: joinLineEnds rest

def read (text : String) : Except Fault Datum :=
  let text := joinLineEnds text.toList
  (document (text.length + 1) {} text).map fun draft => .table draft.fields

end AbapAtlas.Toml

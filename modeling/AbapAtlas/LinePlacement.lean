import AbapAtlas.MethodBlock

/-! From a line counted within a method to a line of the file. -/
namespace AbapAtlas.LinePlacement
open Text

def classSourceSuffix : String := ".clas.abap"

def countsFromMethod (path : String) : Bool :=
  classSourceSuffix.toList.isSuffixOf (lower path).toList

def named? (hint : Option String) (blocks : List MethodBlock) : Option MethodBlock :=
  match hint with
  | none => none
  | some hint =>
    if hint = "" then none
    else
      let name := lower hint
      blocks.find? (fun block => block.name == name)

def shortestHolding? (line : Int) (blocks : List MethodBlock) : Option MethodBlock :=
  (blocks.filter (fun block => line ≤ block.length)).foldl
    (fun best block =>
      match best with
      | none => some block
      | some other => if block.length < other.length then some block else some other)
    none

def block? (line : Int) (blocks : List MethodBlock) (hint : Option String) : Option MethodBlock :=
  match named? hint blocks with
  | some block => some block
  | none =>
    match blocks with
    | [block] => some block
    | _ => shortestHolding? line blocks

/-- The file line of a line that was counted within a method of the file at `path`. The line
stays as it is where lines count from the top and where no block can be told. -/
def fileLine (line : Int) (path : String) (blocks : Option (List MethodBlock))
    (hint : Option String) : Int :=
  if countsFromMethod path then
    match block? line (blocks.getD []) hint with
    | some block => block.startLine + line - 1
    | none => line
  else line

end AbapAtlas.LinePlacement

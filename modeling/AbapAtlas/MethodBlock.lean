import AbapAtlas.Document.Datum
import AbapAtlas.Text.Parts
import AbapAtlas.Text.Case.Lower
import AbapAtlas.Text.Search
import AbapAtlas.Text.Word

/-! Method implementations in the source of a class. A block runs from the line of its METHOD
statement to the line of the next ENDMETHOD statement. -/
namespace AbapAtlas
open Text

structure MethodBlock where
  name : String
  startLine : Int
  length : Int
  deriving DecidableEq, Repr

def MethodBlock.endLine (block : MethodBlock) : Int := block.startLine + block.length - 1

def MethodBlock.toDatum (block : MethodBlock) : Datum :=
  .table [("name", .text block.name), ("start_line", .int block.startLine),
    ("length", .int block.length)]

inductive Marker where
  | begins (name : String)
  | ends
  | neither
  deriving DecidableEq, Repr

def beginName? (line : List Char) : Option (List Char) := do
  -- The name in a METHOD statement that opens a line; a blank has to follow the key word.
  let rest ← dropLiteral? isCaseOf "method".toList (line.dropWhile isBlank)
  let _ ← run? isBlank rest
  run? isNameChar (rest.dropWhile isBlank)

def endsMethod (line : List Char) : Bool :=
  (dropLiteral? isCaseOf "endmethod".toList (line.dropWhile isBlank)).isSome

def Marker.ofLine (line : String) : Marker :=
  match beginName? line.toList with
  | some name => .begins (lower (String.ofList name))
  | none => if endsMethod line.toList then .ends else .neither

namespace MethodBlock

/-- Blocks in the lines from number `line` on, where `pending` is the method that is open there.
A METHOD statement replaces one that is still open, and an open method without an end is no
block. -/
def scanFrom (pending : Option (String × Nat)) (line : Nat) : List Marker → List MethodBlock
  | [] => []
  | .begins name :: rest => scanFrom (some (name, line)) (line + 1) rest
  | .neither :: rest => scanFrom pending (line + 1) rest
  | .ends :: rest =>
    match pending with
    | some (name, start) => ⟨name, start, line - start + 1⟩ :: scanFrom none (line + 1) rest
    | none => scanFrom none (line + 1) rest

def scan (lines : List String) : List MethodBlock := scanFrom none 1 (lines.map Marker.ofLine)

end MethodBlock
end AbapAtlas

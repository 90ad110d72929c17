import AbapAtlas.Text.Parts

/-! File paths as written: where they start and the names they run through. A path is kept as it
is written, so a step to the parent folder stays, but empty names and single dots say nothing. -/
namespace AbapAtlas
open Text

inductive Anchor where
  | relative
  | root
  -- Two slashes, which are kept apart from one although they lead to the same place.
  | doubleRoot
  deriving DecidableEq, Repr

structure Path where
  anchor : Anchor
  names : List String
  deriving DecidableEq, Repr

def Anchor.ofSlashes : Nat → Anchor
  | 0 => .relative
  | 2 => .doubleRoot
  | _ => .root

namespace Path

def parent : String := ".."

def ofString (text : String) : Path :=
  { anchor := Anchor.ofSlashes (text.toList.takeWhile (· == '/')).length
    names := ((cutAt '/' text.toList).map String.ofList).filter fun name => name ≠ "" ∧ name ≠ "." }

def isAbsolute (path : Path) : Bool := path.anchor != .relative

def joined (names : List String) : String := "/".intercalate names

def text (path : Path) : String :=
  match path.anchor with
  | .relative => if path.names = [] then "." else joined path.names
  | .root => "/" ++ joined path.names
  | .doubleRoot => "//" ++ joined path.names

def within (folder path : Path) : Path :=
  if path.isAbsolute then path else ⟨folder.anchor, folder.names ++ path.names⟩

def below (folder : Path) (names : List String) : Path := ⟨folder.anchor, folder.names ++ names⟩

def folder (path : Path) : Path := ⟨path.anchor, path.names.dropLast⟩

theorem length_folder_lt {path : Path} (more : path.names ≠ []) :
    path.folder.names.length < path.names.length := by
  have := List.length_pos_iff.mpr more
  simp only [folder, List.length_dropLast]
  omega

def namesBelow? (folder path : Path) : Option (List String) :=
  if folder.anchor = path.anchor ∧ folder.names <+: path.names then
    some (path.names.drop folder.names.length)
  else none

def settle (names : List String) : List String :=
  names.foldl (fun above name => if name = parent then above.dropLast else above ++ [name]) []

def settled (path : Path) : Path := ⟨path.anchor, settle path.names⟩

def hasNull (path : Path) : Bool := path.names.any fun name => name.toList.contains '\x00'

end Path
end AbapAtlas

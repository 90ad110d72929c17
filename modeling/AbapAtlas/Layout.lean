import AbapAtlas.FolderLogic

/-! Where the objects of a package hierarchy lie in a repository. -/
namespace AbapAtlas
open Text

-- A package and its ancestors, the root package first.
abbrev PackagePath := List String

namespace Layout

def ownName (parent name : String) : String :=
  match dropLiteral? (· == ·) (parent ++ "_").toList name.toList with
  | some rest => String.ofList rest
  | none => name

def ownNames : PackagePath → List String
  | [] => []
  | [_] => []
  | parent :: name :: rest => ownName parent name :: ownNames (name :: rest)

def folders (logic : FolderLogic) (packages : PackagePath) : List String :=
  (match logic with
    | .short => ownNames packages
    | .full => packages.drop 1
    | .fullWithRoot => packages).map lower

def packageFolder (logic : FolderLogic) (packages : PackagePath) : String :=
  "/".intercalate (folders logic packages)

def sourceFolder (srcDir : String) : String :=
  let base := trimBy (· == '/') srcDir
  if base = "." then "" else base

def under (folder path : String) : String :=
  if path = "" then folder else if folder = "" then path else folder ++ "/" ++ path

def objectFolder (srcDir : String) (logic : FolderLogic) (packages : PackagePath) : String :=
  under (sourceFolder srcDir) (packageFolder logic packages)

def packageFile : String := "package.devc.xml"

def fileName (type name extension : String) : String :=
  lower name ++ "." ++ lower type ++ "." ++ extension

def filePath (srcDir : String) (logic : FolderLogic) (packages : PackagePath)
    (type name extension : String) : String :=
  -- The path of an object's main file within the repository. A package is described by a file of
  -- fixed name in its own folder.
  let folder := objectFolder srcDir logic packages
  let file := if upper type = "DEVC" then packageFile else fileName type name extension
  if folder = "" then file else folder ++ "/" ++ file

end Layout
end AbapAtlas

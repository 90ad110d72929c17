import AbapAtlas.Disk.Basic
import AbapAtlas.Ignore.Matching
import AbapAtlas.Text.Case.Lower

/-! The source files below a folder: those with one of the wanted extensions that no rule ignores,
in the order of their paths. -/
namespace AbapAtlas.SourceFiles
open Text

def defaultExtensions : List String := [".abap", ".xml"]

def hasExtension (extensions : List String) (name : String) : Bool :=
  extensions.any fun extension => (lower extension).toList.isSuffixOf (lower name).toList

def candidates (disk : Disk) (folder : Path) (extensions : List String) : List (List String) :=
  -- The files below `folder` with a wanted extension, each by the names that lead to it. The folder
  -- may be a link; below it links are left out.
  match disk.target? folder with
  | some (address, .folder) =>
    (disk.filesBelow address).filter fun names => hasExtension extensions (names.getLastD "")
  | _ => []

def precedes (a b : List String) : Bool := Path.joined a ≤ Path.joined b

def find (disk : Disk) (folder : Path) (extensions : List String) (ignored : Path → Bool) :
    List (List String) :=
  -- That a file still lies below the folder once links are resolved need not be asked: no link is
  -- followed on the way to it (`Wanted.resolved`).
  ((candidates disk folder extensions).filter fun names => !ignored (folder.below names)).mergeSort
    precedes

def findUnder (disk : Disk) (rulesFolder : Option Path) (folder : Path) (extensions : List String) :
    Except Ignore.Fault (List (List String)) :=
  match rulesFolder with
  | none => .ok (find disk folder extensions fun _ => false)
  | some root => do
    let rules ← Ignore.rulesOf disk root
    let ignored (path : Path) := Ignore.ignoresFile rules (disk.absolute root) (disk.absolute path)
    (candidates disk folder extensions).forM fun names =>
      (ignored (folder.below names)).map fun _ => ()
    return find disk folder extensions fun path => (ignored path).toOption.getD false

section
variable {ε : Type}

def visited (disk : Disk) (folder : Path) : List (List String × Entry) :=
  match disk.target? folder with
  | some (address, .folder) => ([], .folder) :: disk.below address
  | _ => []

def visit (host : Host ε) (folder : Path) (extensions : List String)
    (ignored : Path → Except (Stop ε) Bool) (item : List String × Entry) :
    Except (Stop ε) Unit :=
  match host.lists (folder.below item.1) with
  | .error stop => .error stop
  | .ok listed =>
    if listed && item.2.isFile && hasExtension extensions (item.1.getLastD "") then
      (ignored (folder.below item.1)).map fun _ => ()
    else .ok ()

def ignoring (host : Host ε) (reader : Ignore.Reader ε) (disk : Disk) :
    Option Path → Except (Stop ε) (Path → Except (Stop ε) Bool)
  | none => .ok fun _ => .ok false
  | some root =>
    let path := root.below [Ignore.fileName]
    if (host.hides path).isSome then .error .refused
    else
      match disk.content path with
      | .error _ => .ok fun _ => .ok false
      | .ok content => if (host.locks path).isSome then .error .refused else reader root content

def scan (host : Host ε) (reader : Ignore.Reader ε) (disk : Disk) (rulesFolder : Option Path)
    (folder : Path) (extensions : List String) : Except (Stop ε) (List (List String)) := do
  let ignored ← ignoring host reader disk rulesFolder
  (visited disk folder).forM (visit host folder extensions ignored)
  return find disk folder extensions fun path =>
    !(host.lists path).toOption.getD false || (ignored path).toOption.getD false

end

end AbapAtlas.SourceFiles

import AbapAtlas.SourceFiles

/-! The index of a source folder: from the bare name of a file to its path in the repository. Of
files with the same name the first one in the order of paths is kept. -/
namespace AbapAtlas

structure Collision where
  file : String
  kept : String
  discarded : String
  deriving DecidableEq, Repr

structure SourceIndex where
  -- The paths by file name, in the order of the paths, and the files left out, in the same order.
  folder : String
  paths : List (String × String) := []
  collisions : List Collision := []
  deriving DecidableEq, Repr

namespace SourceIndex

inductive Fault where
  | rules (fault : Ignore.Fault)
  | outside (path root : Path)
  deriving DecidableEq, Repr

def lookup (index : SourceIndex) (file : String) : Option String := index.paths.lookup file

def size (index : SourceIndex) : Nat := index.paths.length

def enter (index : SourceIndex) (names : List String) : SourceIndex :=
  let file := names.getLastD ""
  let path := Path.joined names
  match index.lookup file with
  | none => { index with paths := index.paths ++ [(file, path)] }
  | some kept =>
    if kept = path then index
    else { index with collisions := index.collisions ++ [⟨file, kept, path⟩] }

def ofFiles (folder : String) (files : List (List String)) : SourceIndex :=
  files.foldl enter { folder }

def repositoryNames (root folder : Path) (files : List (List String)) :
    Except Fault (List (List String)) :=
  files.mapM fun names =>
    match root.namesBelow? (folder.below names) with
    | some names => .ok names
    | none => .error (.outside (folder.below names) root)

/-- Indexes the files below a source folder. Its index is empty if it is not there, or if the file
system refuses to let it be searched; a fault of another kind is passed on. -/
def buildOn {ε : Type} (host : Host ε) (reader : Ignore.Reader ε) (disk : Disk) (root : Path)
    (srcDir : String) (extensions : List String) (respectIgnore : Bool) :
    Except (ε ⊕ Fault) SourceIndex :=
  let folder := root.within (Path.ofString srcDir)
  match host.hides folder with
  | some fault => .error (.inl fault)
  | none =>
    if disk.isFolder folder then
      match SourceFiles.scan host reader disk (if respectIgnore then some root else none) folder
          extensions with
      | .error .refused => .ok { folder := srcDir }
      | .error (.raised fault) => .error (.inl fault)
      | .ok files => ((repositoryNames root folder files).map (ofFiles srcDir)).mapError .inr
    else .ok { folder := srcDir }

def build (disk : Disk) (root : Path) (srcDir : String) (extensions : List String)
    (respectIgnore : Bool) : Except Fault SourceIndex :=
  (buildOn .plain (Ignore.reader disk) disk root srcDir extensions respectIgnore).mapError
    (Sum.elim .rules id)

end SourceIndex
end AbapAtlas

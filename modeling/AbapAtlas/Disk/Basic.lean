import AbapAtlas.Path
import AbapAtlas.Text.Quoted

/-! A file tree with symbolic links: what lies at which address, how a path is followed through
it, and how files and folders are read and made.

The tree is an ideal one. Names, link targets and paths are of any length, and folders lie in each
other to any depth. Nothing is kept from anybody. A file is written as a whole or not at all, and
once it is open the writing cannot fail. There are files, links and folders, and nothing else. Names
and paths are made of characters, none of which is half of a surrogate pair. Where it matters that a
real host is not like that, `Host` says what it does. -/
namespace AbapAtlas
open Text

abbrev Address := List String

inductive Entry where
  | file (content : ByteArray)
  | link (target : String)
  | folder

def Entry.isFile : Entry → Bool
  | .file _ => true
  | _ => false

def Entry.isFolder : Entry → Bool
  | .folder => true
  | _ => false

def putEntry (address : Address) (entry : Entry) : List (Address × Entry) → List (Address × Entry)
  | [] => [(address, entry)]
  | (a, e) :: rest =>
    if a = address then (a, entry) :: rest else (a, e) :: putEntry address entry rest

theorem map_fst_putEntry (address : Address) (entry : Entry) (entries : List (Address × Entry)) :
    (putEntry address entry entries).map Prod.fst =
      if address ∈ entries.map Prod.fst then entries.map Prod.fst
      else entries.map Prod.fst ++ [address] := by
  induction entries with
  | nil => simp [putEntry]
  | cons head rest ih =>
    obtain ⟨a, e⟩ := head
    by_cases same : a = address
    · simp [putEntry, same]
    · simp only [putEntry, same, if_false, List.map_cons, ih, List.mem_cons, Ne.symm same, false_or]
      split <;> simp

theorem nodup_putEntry {entries : List (Address × Entry)} (address : Address) (entry : Entry)
    (distinct : (entries.map Prod.fst).Nodup) :
    ((putEntry address entry entries).map Prod.fst).Nodup := by
  rw [map_fst_putEntry]
  split
  · exact distinct
  · rename_i absent
    rw [List.nodup_append]
    refine ⟨distinct, by simp, ?_⟩
    intro a member b single equal
    simp only [List.mem_singleton] at single
    exact absent (single ▸ equal ▸ member)

/-- A file tree: entries in no particular order, at most one at an address, and the folder that
relative paths start from. The root is always a folder and is not listed. -/
structure Disk where
  entries : List (Address × Entry)
  here : Address := []
  distinct : (entries.map Prod.fst).Nodup := by decide

inductive Trouble where
  | noEntry
  | exists
  | notFolder
  | isFolder
  | tooManyLinks
  | nullInName
  deriving DecidableEq, Repr

structure Refusal where
  trouble : Trouble
  path : Path
  deriving DecidableEq, Repr

inductive Place where
  | at (address : Address) (entry : Entry)
  -- Nothing has the last name in the folder that the others lead to.
  | vacant (folder : Address) (name : String)

namespace Disk

def get? (disk : Disk) (address : Address) : Option Entry :=
  if address = [] then some .folder else disk.entries.lookup address

def put (disk : Disk) (address : Address) (entry : Entry) : Disk :=
  { disk with
    entries := putEntry address entry disk.entries
    distinct := nodup_putEntry address entry disk.distinct }

def linkLimit : Nat := 40

/-- Follows names from a folder. A link is replaced by the names of its target; whether that is
done for the last name too is up to `last`. -/
def walk (disk : Disk) (last : Bool) (links : Nat) (folder : Address) :
    List String → Except Trouble Place
  | [] => .ok (.at folder .folder)
  | name :: rest =>
    if name = Path.parent then disk.walk last links folder.dropLast rest
    else
      match disk.get? (folder ++ [name]) with
      | none => if rest = [] then .ok (.vacant folder name) else .error .noEntry
      | some .folder => disk.walk last links (folder ++ [name]) rest
      | some (.file content) =>
        if rest = [] then .ok (.at (folder ++ [name]) (.file content)) else .error .notFolder
      | some (.link target) =>
        if rest = [] ∧ last = false then .ok (.at (folder ++ [name]) (.link target))
        else
          match links with
          | 0 => .error .tooManyLinks
          | links + 1 =>
            let path := Path.ofString target
            disk.walk last links (if path.isAbsolute then [] else folder) (path.names ++ rest)
  termination_by names => (links, names.length)

def start (disk : Disk) (path : Path) : Address := if path.isAbsolute then [] else disk.here

def locate (disk : Disk) (last : Bool) (path : Path) : Except Trouble Place :=
  if path.hasNull then .error .nullInName
  else disk.walk last linkLimit (disk.start path) path.names

def target? (disk : Disk) (path : Path) : Option (Address × Entry) :=
  match disk.locate true path with
  | .ok (.at address entry) => some (address, entry)
  | _ => none

def isFolder (disk : Disk) (path : Path) : Bool :=
  match disk.target? path with
  | some (_, .folder) => true
  | _ => false

def isFile (disk : Disk) (path : Path) : Bool :=
  match disk.target? path with
  | some (_, .file _) => true
  | _ => false

def content (disk : Disk) (path : Path) : Except Trouble ByteArray := do
  match ← disk.locate true path with
  | .at _ (.file content) => .ok content
  | .at _ _ => .error .isFolder
  | .vacant _ _ => .error .noEntry

def writeFile (disk : Disk) (path : Path) (content : ByteArray) : Except Trouble Disk := do
  match ← disk.locate true path with
  | .at address (.file _) => .ok (disk.put address (.file content))
  | .at _ _ => .error .isFolder
  | .vacant folder name => .ok (disk.put (folder ++ [name]) (.file content))

def makeFolder (disk : Disk) (path : Path) : Except Trouble Disk := do
  match ← disk.locate false path with
  | .at _ _ => .error .exists
  | .vacant folder name => .ok (disk.put (folder ++ [name]) .folder)

def ensureFolder (disk : Disk) (path : Path) : Except Refusal Disk :=
  match disk.makeFolder path with
  | .ok disk => .ok disk
  | .error trouble =>
    if trouble ≠ .noEntry ∧ disk.isFolder path then .ok disk else .error ⟨trouble, path⟩

def makeFolders (disk : Disk) (path : Path) : Disk × Option Refusal :=
  -- Makes a folder and those above it, unless they are there already. What has been made stays also
  -- when the rest is refused.
  match disk.ensureFolder path with
  | .ok disk => (disk, none)
  | .error refusal =>
    if path.names = [] ∨ refusal.trouble ≠ .noEntry then (disk, some refusal)
    else
      match disk.makeFolders path.folder with
      | (disk, some refusal) => (disk, some refusal)
      | (disk, none) =>
        match disk.ensureFolder path with
        | .ok disk => (disk, none)
        | .error refusal => (disk, some refusal)
  termination_by path.names.length
  decreasing_by
    rename_i more
    exact Path.length_folder_lt fun none => more (Or.inl none)

def missing (disk : Disk) (path : Path) : Nat :=
  match disk.ensureFolder path with
  | .ok _ => 0
  | .error refusal =>
    if path.names = [] ∨ refusal.trouble ≠ .noEntry then 0 else disk.missing path.folder + 1
  termination_by path.names.length
  decreasing_by
    rename_i more
    exact Path.length_folder_lt fun none => more (Or.inl none)

/-- The address that names lead to from a folder, with links followed and steps to parents taken.
What is not there is passed through as if it were a folder. -/
def resolve (disk : Disk) (links : Nat) (folder : Address) : List String → Except Trouble Address
  | [] => .ok folder
  | name :: rest =>
    if name = Path.parent then disk.resolve links folder.dropLast rest
    else
      match disk.get? (folder ++ [name]) with
      | some (.link target) =>
        match links with
        | 0 => .error .tooManyLinks
        | links + 1 =>
          let path := Path.ofString target
          disk.resolve links (if path.isAbsolute then [] else folder) (path.names ++ rest)
      | _ => disk.resolve links (folder ++ [name]) rest
  termination_by names => (links, names.length)

def resolved (disk : Disk) (path : Path) : Except Trouble Path :=
  if path.hasNull then .error .nullInName
  else (disk.resolve linkLimit (disk.start path) path.names).map (⟨.root, ·⟩)

def absolute (disk : Disk) (path : Path) : Path :=
  if path.isAbsolute then path else ⟨.root, disk.here ++ path.names⟩

def throughFolders (disk : Disk) (folder : Address) (names : List String) : Bool :=
  (List.range names.length).all fun n =>
    n = 0 || (disk.get? (folder ++ names.take n)).any Entry.isFolder

/-- What lies below a folder and is reached through folders alone, each entry with the names that
lead to it. Links are not followed. -/
def below (disk : Disk) (folder : Address) : List (List String × Entry) :=
  disk.entries.filterMap fun (address, entry) =>
    let names := address.drop folder.length
    if folder <+: address ∧ names ≠ [] ∧ disk.throughFolders folder names then some (names, entry)
    else none

def filesBelow (disk : Disk) (folder : Address) : List (List String) :=
  ((disk.below folder).filter fun item => item.2.isFile).map Prod.fst

end Disk

namespace Trouble

def number : Trouble → Nat
  | .noEntry => 2
  | .exists => 17
  | .notFolder => 20
  | .isFolder => 21
  | .nullInName => 22
  | .tooManyLinks => 40

def message : Trouble → String
  | .noEntry => "No such file or directory"
  | .exists => "File exists"
  | .notFolder => "Not a directory"
  | .isFolder => "Is a directory"
  | .nullInName => "embedded null byte"
  | .tooManyLinks => "Too many levels of symbolic links"

end Trouble

def Refusal.message (refusal : Refusal) : String :=
  s!"[Errno {refusal.trouble.number}] {refusal.trouble.message}: {quoted refusal.path.text}"

def Path.outsideMessage (path folder : Path) : String :=
  s!"{quoted path.text} is not in the subpath of {quoted folder.text} " ++
    "OR one path is relative and the other is absolute."

end AbapAtlas

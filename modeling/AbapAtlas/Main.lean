import AbapAtlas.Command.Failure

/-! The program: takes a picture of the part of the file tree that a request is about, runs the
request on it, and carries the changes over. -/
namespace AbapAtlas.Program
open Command

def depthLimit : Nat := 256

def pathText (address : Address) : String := "/" ++ Path.joined address

def look (address : Address) : IO (Option Entry) := do
  -- What lies at an address, without the content of folders. A link is taken to lead where the
  -- system says that it ends; one that ends nowhere keeps a target that is not there.
  let path := (← IO.currentDir) / pathText address
  try
    match (← path.symlinkMetadata).type with
    | .dir => return some .folder
    | .file => return some (.file (← IO.FS.readBinFile path))
    | .symlink =>
      try
        return some (.link (← IO.FS.realPath path).toString)
      catch _ => return some (.link "/dev/null/missing")
    | .other => return none
  catch _ => return none

def addPath : (fuel : Nat) → Disk → Address → List String → IO Disk
  | 0, disk, _, _ => return disk
  | _ + 1, disk, _, [] => return disk
  | fuel + 1, disk, folder, name :: rest => do
    if name = Path.parent then addPath fuel disk folder.dropLast rest
    else
      let address := folder ++ [name]
      match ← look address with
      | none => return disk
      | some entry =>
        let disk := disk.put address entry
        match entry with
        | .folder => addPath fuel disk address rest
        | .file _ => return disk
        | .link target => addPath fuel disk [] ((Path.ofString target).names ++ rest)

def addFile (disk : Disk) (path : Path) : IO Disk :=
  addPath 4096 disk (disk.start path) path.names

def addBelow : (fuel : Nat) → Disk → Address → IO Disk
  | 0, disk, _ => return disk
  | fuel + 1, disk, folder => do
    let path := (← IO.currentDir) / pathText folder
    let items ← try path.readDir catch _ => pure #[]
    items.foldlM (fun disk item => do
      let address := folder ++ [item.fileName]
      match ← look address with
      | none => return disk
      | some entry =>
        let disk := disk.put address entry
        if entry.isFolder then addBelow fuel disk address else return disk) disk

def addTree (disk : Disk) (path : Path) : IO Disk := do
  let disk ← addFile disk path
  match disk.target? path with
  | some (address, .folder) => addBelow depthLimit disk address
  | _ => return disk

def knownFiles : List String :=
  [SettingsFile.fileName, Ignore.fileName, Repository.metadataFile]

def namedFiles : Request → List String
  | .report findings _ out _ _ => findings :: out.toList
  | _ => []

def sourceFolder (request : Request) (settings : Settings) : String :=
  match request with
  | .report _ _ _ srcDir _ => srcDir.getD settings.srcDir
  | _ => settings.srcDir

def picture (homes : Homes) (request : Request) : IO Disk := do
  let here := (Path.ofString (← IO.currentDir).toString).names
  let disk : Disk := { entries := [], here, distinct := List.nodup_nil }
  let disk ← addFile disk ⟨.relative, []⟩
  let expanded (text : String) := (expandHome homes (Path.ofString text)).toOption
  let root := (expanded request.root).getD ⟨.relative, []⟩
  let files := (namedFiles request).filterMap expanded ++
    knownFiles.map fun file => root.below [file]
  let disk ← files.foldlM addFile (← addFile (← addPath 4096 disk [] here) root)
  let settings := (SettingsFile.load disk root).toOption.getD {}
  let report := root.within (Path.ofString settings.reportFile)
  addTree (← addFile disk report) (root.within (Path.ofString (sourceFolder request settings)))

def isUnchanged : Option Entry → Entry → Bool
  -- Whether an entry is there already. Links are never made or changed.
  | _, .link _ => true
  | some .folder, .folder => true
  | some (.file old), .file new => old.data == new.data
  | _, _ => false

def carryOver (before after : Disk) : IO Unit := do
  for (address, entry) in after.entries do
    if !isUnchanged (before.get? address) entry then
      let path := (← IO.currentDir) / pathText address
      match entry with
      | .folder => IO.FS.createDir path
      | .file content => IO.FS.writeBinFile path content
      | .link _ => pure ()

def usage : String :=
  "usage: abaplocate [-h] [-v] {report,locate,folder-logic,package-dir,write-metadata} ...\n"

end AbapAtlas.Program

open AbapAtlas AbapAtlas.Program

def main (arguments : List String) : IO UInt32 := do
  match Command.Request.parse arguments with
  | .error .help => IO.print usage; return 0
  | .error .wrongUsage => IO.eprint usage; return 2
  | .ok request =>
    let homes := match ← IO.getEnv "HOME" with
      | some home => [("", Path.ofString home)]
      | none => []
    let disk ← picture homes request
    let (after, result) := Command.run disk homes request
    carryOver disk after
    match result with
    | .ok outcome =>
      IO.print outcome.out
      IO.eprint outcome.err
      return outcome.exit.toUInt32
    | .error failure => IO.eprintln failure.message; return 1

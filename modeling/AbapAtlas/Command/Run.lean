import AbapAtlas.Command.Request
import AbapAtlas.Publication

/-! Running commands: what a command prints, its exit code, and what it changes on disk. -/
namespace AbapAtlas.Command
open Text

structure Outcome where
  exit : Nat
  out : String := ""
  err : String := ""
  deriving DecidableEq, Repr

inductive Failure where
  | path (trouble : Trouble)
  | unknownHome
  | unnamedObject
  | settings (fault : SettingsFile.Fault)
  | publication (fault : Publication.Fault)
  | index (fault : SourceIndex.Fault)
  | write (fault : WriteFault)
  | numeral (error : NumeralError)
  deriving DecidableEq, Repr

-- The home folders that are known, by user; the empty name is the user's own.
abbrev Homes := List (String × Path)

def expandHome (homes : Homes) (path : Path) : Except Failure Path :=
  match path.anchor, path.names with
  | .relative, first :: rest =>
    match first.toList with
    | '~' :: user =>
      match homes.lookup (String.ofList user) with
      | some home => .ok (home.below rest)
      | none => .error .unknownHome
    | _ => .ok path
  | _, _ => .ok path

def argumentPath (disk : Disk) (homes : Homes) (text : String) : Except Failure Path := do
  (disk.resolved (← expandHome homes (Path.ofString text))).mapError .path

def usageExit : Nat := 2

def refuse (exit : Nat) (message : String) : Outcome := { exit, err := s!"error: {message}\n" }

def say (text : String) : Outcome := { exit := 0, out := text ++ "\n" }

def locate (disk : Disk) (root : Path) (settings : Settings) (objectType objectName : String)
    (line : Int) (method : Option String) : Except Failure (Option FilePosition) := do
  let index ← (Publication.indexOf disk root settings).mapError .index
  let query : Query := ⟨objectType, objectName, max line 1, method⟩
  (query.resolve index disk { base := some root }).1.mapError .path

def unnamed (disk : Disk) (root : Path) (settings : Settings) : Failure :=
  -- Why an object without a name cannot be looked up: the source folder is searched first.
  match Publication.indexOf disk root settings with
  | .error fault => .index fault
  | .ok _ => .unnamedObject

def showPosition (settings : Settings) (objectType objectName : String) :
    Option FilePosition → Except Failure Outcome
  | none =>
    let file := Layout.fileName objectType objectName "abap"
    .ok { exit := 1, err := s!"not found: {file} under {settings.srcDir}\n" }
  | some position =>
    (writeInt position.line).mapError .numeral |>.map fun digits =>
      say (position.path ++ ":" ++ digits)

def folderLogic (disk : Disk) (root : Path) (settings : Settings) (override : Option String) :
    FolderLogic :=
  Repository.folderLogic disk root (override.bind FolderLogic.ofName?)
    (settings.folderLogic.bind FolderLogic.ofName?)

def writeMetadata (disk : Disk) (root : Path) (settings : Settings) (override : Option String) :
    Disk × Except Failure Outcome :=
  match Repository.declare disk root (folderLogic disk root settings override) with
  | .ok disk => (disk, .ok (say (root.below [Repository.metadataFile]).text))
  | .error (.metadata path refusal) =>
    (disk, .ok (refuse 1 (WriteFault.metadata path refusal).message))
  | .error fault => (disk, .error (.write fault))

def reportSettings (settings : Settings) (srcDir : Option String) : Except Outcome Settings :=
  match srcDir with
  | none => .ok settings
  | some srcDir =>
    match settings.withSrcDir srcDir with
    | .passed settings => .ok settings
    | .failed faults =>
      .error (refuse usageExit
        ("invalid --src-dir: " ++ Fault.countText Settings.recordName faults))

def showPublication : Except Publication.Fault Publication.Summary → Except Failure Outcome
  | .ok summary =>
    .ok (say (s!"{summary.issueCount} issues exported ({summary.resolvedCount} resolved) to " ++
      summary.report.text))
  | .error (.findings .nullInName) => .error (.path .nullInName)
  | .error (.findings fault) => .ok (refuse usageExit fault.message)
  | .error (.write (.report path refusal)) =>
    .ok (refuse 1 (WriteFault.report path refusal).message)
  | .error fault => .error (.publication fault)

def report (disk : Disk) (homes : Homes) (root : Path) (settings : Settings) (findings : String)
    (out srcDir : Option String) (jobs : Option Int) : Disk × Except Failure Outcome :=
  match reportSettings settings srcDir with
  | .error outcome => (disk, .ok outcome)
  | .ok settings =>
    let paths : Except Failure (Option Path × Path) := do
      let out ← out.mapM (argumentPath disk homes)
      return (out, ← expandHome homes (Path.ofString findings))
    match paths with
    | .error failure => (disk, .error failure)
    | .ok (out, findings) =>
      let (disk, result) := Publication.publish disk root findings out settings jobs
      (disk, showPublication result)

def Request.root : Request → String
  | .report _ root _ _ _ => root
  | .locate _ _ root _ _ => root
  | .folderLogic root _ => root
  | .packageFolder _ root _ => root
  | .writeMetadata root _ => root

def runIn (disk : Disk) (homes : Homes) (root : Path) (settings : Settings) :
    Request → Disk × Except Failure Outcome
  | .report findings _ out srcDir jobs => report disk homes root settings findings out srcDir jobs
  | .locate _ none _ _ _ => (disk, .error (unnamed disk root settings))
  | .locate objectType (some objectName) _ line method =>
    (disk, (locate disk root settings objectType objectName line method).bind
      (showPosition settings objectType objectName))
  | .folderLogic _ override => (disk, .ok (say (folderLogic disk root settings override).name))
  | .packageFolder packages _ override =>
    (disk, .ok (say (Layout.packageFolder (folderLogic disk root settings override) packages)))
  | .writeMetadata _ override => writeMetadata disk root settings override

def run (disk : Disk) (homes : Homes) (request : Request) : Disk × Except Failure Outcome :=
  match argumentPath disk homes request.root with
  | .error failure => (disk, .error failure)
  | .ok root =>
    match SettingsFile.load disk root with
    | .ok settings => runIn disk homes root settings request
    | .error .notUtf8 => (disk, .error (.settings .notUtf8))
    | .error (.numeral error) => (disk, .error (.settings (.numeral error)))
    | .error .tooDeep => (disk, .error (.settings .tooDeep))
    | .error fault => (disk, .ok (refuse usageExit fault.message))

end AbapAtlas.Command

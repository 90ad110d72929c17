import AbapAtlas.Document.Json.Printer
import AbapAtlas.Host
import AbapAtlas.Layout
import AbapAtlas.Report
import AbapAtlas.Text.Parts

/-! What a repository holds besides sources: the metadata that declare its folder logic, the plan
that places imported objects, and reports. -/
namespace AbapAtlas
open Text

inductive WriteFault where
  | metadata (path : Path) (refusal : Refusal)
  | report (path : Path) (refusal : Refusal)
  | records (refusal : Refusal)
  | nullInName
  | notInName
  | tooDeep
  | tooWide
  | notInText
  deriving DecidableEq, Repr

def WriteFault.message : WriteFault → String
  | .metadata path refusal => s!"Cannot write {path.text}: {refusal.message}"
  | .report path refusal => s!"Cannot write report to {path.text}: {refusal.message}"
  | .records refusal => refusal.message
  | .nullInName => Trouble.nullInName.message
  | .notInName => "surrogates not allowed"
  | .tooDeep => "maximum recursion depth exceeded"
  | .tooWide => "Integer exceeds 64-bit range"
  | .notInText => "str is not valid UTF-8: surrogates not allowed"

def WriteFault.ofRefusal (wrap : Refusal → WriteFault) (refusal : Refusal) : WriteFault :=
  if refusal.trouble = .nullInName then .nullInName else wrap refusal

namespace Repository

def metadataFile : String := ".abapgit.xml"

def declaredLogic? (disk : Disk) (root : Path) : Option FolderLogic :=
  match disk.content (root.below [metadataFile]) with
  | .error _ => none
  | .ok content =>
    match String.fromUTF8? content with
    | some text => FolderLogic.declared? (String.ofList (unifyLineEnds text.toList))
    | none => none

def folderLogic (disk : Disk) (root : Path) (override configured : Option FolderLogic) :
    FolderLogic :=
  FolderLogic.choose override (declaredLogic? disk root) configured

def declare (disk : Disk) (root : Path) (logic : FolderLogic) : Except WriteFault Disk :=
  let path := root.below [metadataFile]
  (disk.writeFile path logic.metadata.toUTF8).mapError fun trouble =>
    .ofRefusal (.metadata path) ⟨trouble, path⟩

variable {ε : Type}

def writeRecordsOn (host : Host ε) (disk : Disk) (path : Path) (records : List Datum) :
    Except WriteFault Disk :=
  match Json.obstacle? host.spells (.list records) with
  | some .tooWide => .error .tooWide
  | some .unspelled => .error .notInText
  | none =>
    if host.canName path then
      (host.writeFile disk path (Json.write (.list records)).toUTF8).mapError fun trouble =>
        .ofRefusal .records ⟨trouble, path⟩
    else .error .notInName

def writeInto (host : Host ε) (disk : Disk) (path : Path) (issues : List Issue) :
    Disk × Option WriteFault :=
  match writeRecordsOn host disk path (issues.map Issue.toDatum) with
  | .ok disk => (disk, none)
  | .error (.records refusal) => (disk, some (.report path refusal))
  | .error fault => (disk, some fault)

/-- Writes a report, in new folders if need be. These stay also when the report itself cannot be
written. -/
def writeReportOn (host : Host ε) (disk : Disk) (path : Path) (issues : List Issue) :
    Disk × Option WriteFault :=
  -- A folder is asked for before those above it, so nothing has been made when the calls for them
  -- run out of room.
  if host.canName path.folder = false then (disk, some .notInName)
  else if host.holds (disk.missing path.folder) = false then (disk, some .tooDeep)
  else
    match disk.makeFolders path.folder with
    | (disk, some refusal) => (disk, some (.ofRefusal (.report path) refusal))
    | (disk, none) => writeInto host disk path issues

def writeRecords : Disk → Path → List Datum → Except WriteFault Disk :=
  writeRecordsOn (.plain : Host Empty)

def writeReport : Disk → Path → List Issue → Disk × Option WriteFault :=
  writeReportOn (.plain : Host Empty)

end Repository

structure ImportedObject where
  objectType : String
  objectName : String
  packages : PackagePath
  extension : String := "abap"
  deriving DecidableEq, Repr

structure PlannedFile where
  objectType : String
  objectName : String
  path : String
  deriving DecidableEq, Repr

structure ImportPlan where
  logic : FolderLogic
  files : List PlannedFile
  deriving DecidableEq, Repr

namespace ImportPlan

def place (srcDir : String) (logic : FolderLogic) (object : ImportedObject) : PlannedFile :=
  ⟨object.objectType, object.objectName,
    Layout.filePath srcDir logic object.packages object.objectType object.objectName
      object.extension⟩

def make (disk : Disk) (root : Path) (objects : List ImportedObject)
    (override configured : Option FolderLogic) (srcDir : String) : ImportPlan :=
  let logic := Repository.folderLogic disk root override configured
  ⟨logic, objects.map (place srcDir logic)⟩

def finish (disk : Disk) (root : Path) (logic : FolderLogic) : Except WriteFault Disk :=
  Repository.declare disk root logic

end ImportPlan
end AbapAtlas

import AbapAtlas.Document.Checked
import AbapAtlas.Path
import AbapAtlas.SourceFiles

/-! Settings of a repository. -/
namespace AbapAtlas
open Text

structure Settings where
  srcDir : String := "src"
  reportFile : String := "gl-code-quality-report.json"
  folderLogic : Option String := none
  extensions : List String := SourceFiles.defaultExtensions
  maxWorkers : Int := 8
  respectIgnore : Bool := true
  deriving DecidableEq, Repr

namespace Settings

def recordName : String := "LocateConfig"

def leavesRepository (text : String) : Bool :=
  let path := Path.ofString text
  path.isAbsolute || text.toList.head? == some '~' || path.names.contains Path.parent

def checkSrcDir : Datum → Checked String
  -- A source folder: a relative path without steps to a parent. It is kept without blanks and
  -- slashes around it.
  | .text text =>
    if trim text = "" then .fault (.rule "src_dir must be a non-empty relative path")
    else if leavesRepository text then
      .fault (.rule s!"src_dir '{text}' must be a relative path within the repo root")
    else .passed (trimBy (· == '/') (trim text))
  | _ => .fault (.rule "src_dir must be a non-empty relative path")

def dotted (extension : String) : String :=
  if extension.toList.head? = some '.' then extension else "." ++ extension

def checkExtensions (value : Datum) : Checked (List String) :=
  (value.checkList Datum.checkText).andThen fun extensions =>
    if extensions = [] then .fault (.rule "extensions must not be empty")
    else .passed (extensions.map dotted)

def keys : List String :=
  ["src_dir", "report_file", "folder_logic", "extensions", "max_workers", "respect_gitignore"]

def check : Datum → Checked Settings
  | .table fields =>
    let fields : Fields := fields
    let default : Settings := {}
    (Checked.passed fun a b c d e f (_ : Unit) => Settings.mk a b c d e f)
      |>.also (fields.optional ["src_dir"] default.srcDir checkSrcDir)
      |>.also (fields.optional ["report_file"] default.reportFile Datum.checkText)
      |>.also (fields.optional ["folder_logic"] default.folderLogic Datum.checkOptionalText)
      |>.also (fields.optional ["extensions"] default.extensions checkExtensions)
      |>.also (fields.optional ["max_workers"] default.maxWorkers (Datum.checkIntFrom 1))
      |>.also (fields.optional ["respect_gitignore"] default.respectIgnore Datum.checkBool)
      |>.also (fields.onlyKeys keys)
  | _ => .fault (.notRecord recordName)

def toFields (settings : Settings) : Fields :=
  [ ("src_dir", .text settings.srcDir),
    ("report_file", .text settings.reportFile),
    ("folder_logic", match settings.folderLogic with | none => .null | some logic => .text logic),
    ("extensions", .list (settings.extensions.map .text)),
    ("max_workers", .int settings.maxWorkers),
    ("respect_gitignore", .bool settings.respectIgnore)]

def toDatum (settings : Settings) : Datum := .table settings.toFields

def withSrcDir (settings : Settings) (srcDir : String) : Checked Settings :=
  check (.table (Datum.setField "src_dir" (.text srcDir) settings.toFields))

end Settings
end AbapAtlas

import AbapAtlas.Disk.Basic
import AbapAtlas.Document.Json.Reader
import AbapAtlas.Document.Checked
import AbapAtlas.Finding

/-! Files of findings: the record of a check run, or the bare list of its findings. -/
namespace AbapAtlas.FindingsFile

inductive Fault where
  | unreadable (refusal : Refusal)
  | nullInName
  | notJson (path : Path)
  | invalid (path : Path) (record : String) (faults : List AbapAtlas.Fault)
  | wrongShape (path : Path)
  deriving DecidableEq, Repr

namespace Fault

def subject : Fault → String
  | .unreadable refusal =>
    s!"Cannot read findings from {refusal.path.text}: {refusal.message}"
  | .nullInName => Trouble.nullInName.message
  | .notJson path => s!"Invalid JSON in {path.text}"
  | .invalid path _ _ => s!"Invalid findings in {path.text}"
  | .wrongShape path => s!"Invalid findings in {path.text}: expected a JSON object or array"

def message (fault : Fault) : String :=
  match fault with
  | .invalid _ record faults =>
    fault.subject ++ ": " ++ AbapAtlas.Fault.countText record faults
  | _ => fault.subject

end Fault

def checkEach : List Datum → Checked (List Finding)
  | [] => .passed []
  | item :: rest =>
    (Finding.check item).andThen fun finding => (checkEach rest).map (finding :: ·)

def counted (run : CheckRun) : CheckRun :=
  -- A run that does not tell how many findings it has is given their number.
  if run.totalFindings = 0 then { run with totalFindings := run.findings.length } else run

def runOf (findings : List Finding) : CheckRun :=
  { checkVariant := "", totalFindings := findings.length, errorCount := 0, warningCount := 0,
    infoCount := 0, findings }

def ofDatum (path : Path) (document : Datum) : Except Fault CheckRun :=
  match document with
  | .list items =>
    match checkEach items with
    | .passed findings => .ok (runOf findings)
    | .failed faults => .error (.invalid path Finding.recordName faults)
  | .table fields =>
    match CheckRun.check (.table fields) with
    | .passed run => .ok (counted run)
    | .failed faults => .error (.invalid path CheckRun.recordName faults)
  | _ => .error (.wrongShape path)

def load (disk : Disk) (path : Path) : Except Fault CheckRun :=
  match disk.content path with
  | .error .nullInName => .error .nullInName
  | .error trouble => .error (.unreadable ⟨trouble, path⟩)
  | .ok content =>
    match Json.readBytes? content with
    | some document => ofDatum path document
    | none => .error (.notJson path)

end AbapAtlas.FindingsFile

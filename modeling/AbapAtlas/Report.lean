import AbapAtlas.Finding
import AbapAtlas.Location
import AbapAtlas.Resolver

/-! Code quality reports: one issue for every finding, at the place in the repository that the
finding is about. -/
namespace AbapAtlas
open Text

inductive Severity where
  | blocker | major | minor | info
  deriving DecidableEq, Repr

def Severity.name : Severity → String
  | .blocker => "blocker"
  | .major => "major"
  | .minor => "minor"
  | .info => "info"

def Severity.ofPriority (priority : Int) : Severity :=
  if priority = 1 then .blocker else if priority = 2 then .major
  else if priority = 3 then .minor else .info

structure Issue where
  description : String
  checkName : String
  fingerprint : String
  severity : Severity
  position : FilePosition
  method : Option String
  location : Option String
  deriving DecidableEq, Repr

namespace Issue

def toDatum (issue : Issue) : Datum :=
  let optional (key : String) (value : Option String) : Fields :=
    match value with
    | none => []
    | some text => [(key, .text text)]
  .table ([
    ("description", .text issue.description),
    ("check_name", .text issue.checkName),
    ("fingerprint", .text issue.fingerprint),
    ("severity", .text issue.severity.name),
    ("location", .table [
      ("path", .text issue.position.path),
      ("lines", .table [("begin", .int issue.position.line), ("end", .int issue.position.line)])])]
    ++ optional "method" issue.method ++ optional "atc_location" issue.location)

def fingerprintOf (checkId objectName : String) (line : Int) : Except NumeralError String :=
  (writeInt line).map fun digits => checkId ++ "-" ++ objectName ++ "-" ++ digits

def fallbackPath (objectType objectName srcDir : String) : String :=
  let type := lower objectType
  Layout.under (Layout.sourceFolder srcDir)
    (type ++ "/" ++ lower objectName ++ "." ++ type ++ ".abap")

def positionOf (answer : Answer) (finding : Finding) (srcDir : String) (line : Int) :
    FilePosition :=
  match answer with
  | .found position => position
  | _ => ⟨fallbackPath finding.objectType finding.objectName srcDir, line⟩

def checkNameOf (finding : Finding) : String :=
  if finding.checkTitle = "" then finding.checkId else finding.checkTitle

def ofAnswer (finding : Finding) (srcDir : String) (line : Int) (answer : Answer) :
    Except NumeralError Issue :=
  let position := positionOf answer finding srcDir line
  (fingerprintOf finding.checkId finding.objectName position.line).map fun fingerprint =>
    { description := finding.messageText
      checkName := checkNameOf finding
      fingerprint
      severity := .ofPriority finding.priority
      position
      method := Location.methodHint? (finding.location.getD "")
      location := if finding.location = some "" then none else finding.location }

def queryOf (finding : Finding) (line : Int) : Query :=
  ⟨finding.objectType, finding.objectName, line,
    Location.methodHint? (finding.location.getD "")⟩

def ofFinding {σ : Type} (resolver : Resolver σ) (srcDir : String) (finding : Finding)
    (memory : σ) : Except NumeralError Issue × σ :=
  match Location.startLine (finding.location.getD "") with
  | .error error => (.error error, memory)
  | .ok line =>
    let (answer, memory) := resolver (queryOf finding line) memory
    (ofAnswer finding srcDir line answer, memory)

end Issue

namespace Report

def defaultMaxWorkers : Int := 8

def smallBatch : Nat := 3

def inTurn {σ : Type} (resolver : Resolver σ) (srcDir : String) :
    List Finding → σ → Except NumeralError (List Issue) × σ
  | [], memory => (.ok [], memory)
  | finding :: rest, memory =>
    match Issue.ofFinding resolver srcDir finding memory with
    | (.error error, memory) => (.error error, memory)
    | (.ok issue, memory) =>
      match inTurn resolver srcDir rest memory with
      | (.ok issues, memory) => (.ok (issue :: issues), memory)
      | (.error error, memory) => (.error error, memory)

def outcomes {σ : Type} (resolver : Resolver σ) (srcDir : String) :
    List Finding → σ → List (Except NumeralError Issue) × σ
  -- Works every finding off, also after one that no issue can be made of.
  | [], memory => ([], memory)
  | finding :: rest, memory =>
    let (outcome, memory) := Issue.ofFinding resolver srcDir finding memory
    let (more, memory) := outcomes resolver srcDir rest memory
    (outcome :: more, memory)

/-- The issues of findings in their order. Several workers take all findings on before the first
failure shows; a single worker stops at it. -/
def issues {σ : Type} (resolver : Resolver σ) (srcDir : String) (maxWorkers : Int)
    (findings : List Finding) (memory : σ) : Except NumeralError (List Issue) × σ :=
  if maxWorkers ≤ 1 ∨ findings.length ≤ smallBatch then inTurn resolver srcDir findings memory
  else
    let (outcomes, memory) := outcomes resolver srcDir findings memory
    (outcomes.mapM id, memory)

end Report
end AbapAtlas

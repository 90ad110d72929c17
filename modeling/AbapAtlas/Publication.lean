import AbapAtlas.FindingsFile
import AbapAtlas.Repository
import AbapAtlas.SettingsFile

/-! Publishing a report: findings are read, resolved against the sources of the repository, and
written as issues. Nothing is written unless all of it can be. -/
namespace AbapAtlas.Publication

structure Summary where
  issueCount : Nat
  resolvedCount : Nat
  indexedFiles : Nat
  collisionCount : Nat
  report : Path
  deriving DecidableEq, Repr

inductive Fault where
  | settings (fault : SettingsFile.Fault)
  | findings (fault : FindingsFile.Fault)
  | index (fault : SourceIndex.Fault)
  | numeral (error : Text.NumeralError)
  | write (fault : WriteFault)
  deriving DecidableEq, Repr

def workers (wanted : Option Int) (settings : Settings) : Int :=
  -- The wanted number of workers; none or zero leaves it to the settings.
  match wanted with
  | some n => if n = 0 then settings.maxWorkers else n
  | none => settings.maxWorkers

def summaryOf (index : SourceIndex) (issues : List Issue) (report : Path) : Summary :=
  { issueCount := issues.length
    resolvedCount := (issues.filter fun issue =>
      (index.paths.map Prod.snd).contains issue.position.path).length
    indexedFiles := index.size
    collisionCount := index.collisions.length
    report }

def indexOf (disk : Disk) (root : Path) (settings : Settings) :
    Except SourceIndex.Fault SourceIndex :=
  SourceIndex.build disk root settings.srcDir settings.extensions settings.respectIgnore

def prepare (disk : Disk) (root findings : Path) (settings : Settings) (maxWorkers : Option Int) :
    Except Fault (SourceIndex × List Issue) := do
  let run ← (FindingsFile.load disk findings).mapError .findings
  let index ← (indexOf disk root settings).mapError .index
  let session : Session := { base := some root }
  let (issues, _) := Report.issues (Resolver.ofIndex index disk) settings.srcDir
    (workers maxWorkers settings) run.findings session
  return (index, ← issues.mapError .numeral)

def reportPath (root : Path) (report : Option Path) (settings : Settings) : Path :=
  report.getD (root.within (Path.ofString settings.reportFile))

def publish (disk : Disk) (root findings : Path) (report : Option Path) (settings : Settings)
    (maxWorkers : Option Int) : Disk × Except Fault Summary :=
  match prepare disk root findings settings maxWorkers with
  | .error fault => (disk, .error fault)
  | .ok (index, issues) =>
    let path := reportPath root report settings
    match Repository.writeReport disk path issues with
    | (disk, some fault) => (disk, .error (.write fault))
    | (disk, none) => (disk, .ok (summaryOf index issues path))

def publishWithFile (disk : Disk) (root findings : Path) (report : Option Path)
    (maxWorkers : Option Int) : Disk × Except Fault Summary :=
  match SettingsFile.load disk root with
  | .error fault => (disk, .error (.settings fault))
  | .ok settings => publish disk root findings report settings maxWorkers

end AbapAtlas.Publication

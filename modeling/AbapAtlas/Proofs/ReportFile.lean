import AbapAtlas.Proofs.IssuePerFinding
import AbapAtlas.Proofs.Json.Reader
import AbapAtlas.Proofs.Publication
import AbapAtlas.Proofs.Snapshot

/-! Reports that are written or refused. Whatever the file system does, the report is at its path or
the fault says that it is not; only a line of more than 64 bits is a fault of another kind. -/
namespace AbapAtlas

theorem Path.hasNull_folder {path : Path} (whole : path.hasNull = false) :
    path.folder.hasNull = false := by
  rw [hasNull,List.any_eq_false] at whole ⊢
  exact fun name member => whole name (List.dropLast_subset _ member)

namespace Disk
variable {disk : Disk} {path : Path} {trouble : Trouble} {refusal : Refusal}

theorem writeFile_ne_nullInName (whole : path.hasNull = false) {content : ByteArray}
    (failed : disk.writeFile path content = .error trouble) : trouble ≠ .nullInName := by
  rw [writeFile] at failed
  cases found : disk.locate true path with
  | error reason =>
    rw [found] at failed
    cases failed
    exact locate_ne_nullInName whole found
  | ok place =>
    rw [found] at failed
    cases place with
    | «at» address entry =>
      cases entry with
      | file content => cases failed
      | folder | link =>
        cases failed
        decide
    | vacant folder name => cases failed

theorem ensureFolder_ne_nullInName (whole : path.hasNull = false)
    (failed : disk.ensureFolder path = .error refusal) : refusal.trouble ≠ .nullInName := by
  rw [ensureFolder] at failed
  split at failed
  · cases failed
  · next reason refused =>
    split at failed
    · cases failed
    · cases failed
      rw [makeFolder] at refused
      cases found : disk.locate false path with
      | error reason =>
        rw [found] at refused
        cases refused
        exact locate_ne_nullInName whole found
      | ok place =>
        rw [found] at refused
        cases place with
        | «at» address entry =>
          cases refused
          simp
        | vacant folder name => cases refused

theorem makeFolders_ne_nullInName (whole : path.hasNull = false)
    (failed : (disk.makeFolders path).2 = some refusal) : refusal.trouble ≠ .nullInName := by
  fun_induction disk.makeFolders path with
  | case1 => cases failed
  | case2 path reason refused stop =>
    cases failed
    exact ensureFolder_ne_nullInName whole refused
  | case3 path reason refused more later blocked above ih =>
    rw [above] at ih
    exact ih (Path.hasNull_folder whole) failed
  | case4 => cases failed
  | case5 path reason refused more later above blocked last ih =>
    cases failed
    exact ensureFolder_ne_nullInName whole last

end Disk

namespace Host
variable {ε : Type} {host : Host ε}

theorem writeFile_ne_nullInName {disk : Disk} {path : Path} {content : ByteArray}
    {trouble : Trouble} (whole : path.hasNull = false)
    (failed : host.writeFile disk path content = .error trouble) : trouble ≠ .nullInName := by
  rw [writeFile] at failed
  cases locked : host.locks path with
  | some other =>
    rw [locked] at failed
    cases failed
    rintro rfl
    exact host.locks_whole path locked
  | none =>
    rw [locked] at failed
    exact Disk.writeFile_ne_nullInName whole failed

theorem writeFile_eq_ok {disk later : Disk} {path : Path} {content : ByteArray}
    (written : host.writeFile disk path content = .ok later) :
    disk.writeFile path content = .ok later := by
  rw [writeFile] at written
  cases locked : host.locks path with
  | some other =>
    rw [locked] at written
    cases written
  | none => rwa [locked] at written

theorem spells_of_plain {text : String} (ascii : text.toList.all (·.toNat < 128) = true) :
    host.spells text = true := by
  rw [spells,List.all_eq_true]
  rw [List.all_eq_true] at ascii
  intro c member
  cases odd : host.unspelled c with
  | false => rfl
  | true =>
    have near : c.toNat < 128 := of_decide_eq_true (ascii c member)
    exact absurd near (Nat.not_lt.mpr (host.unspelled_far c odd))

end Host

theorem findSome?_cons {α β : Type} (f : α → Option β) (a : α) (rest : List α) :
    (a :: rest).findSome? f = (f a).or (rest.findSome? f) := by
  rw [List.findSome?_cons]
  cases f a <;> rfl

theorem Json.itemObstacle_eq_findSome (spells : String → Bool) (items : List Datum) :
    itemObstacle? spells items = items.findSome? (obstacle? spells) := by
  induction items with
  | nil => rfl
  | cons item rest ih => rw [itemObstacle?,ih,findSome?_cons]

namespace Issue
open Json
variable {ε : Type} {host : Host ε} {issue : Issue} {issues : List Issue}

def texts (issue : Issue) : List String :=
  [issue.description,issue.checkName,issue.fingerprint,issue.position.path] ++
    issue.method.toList ++ issue.location.toList

def leaves (issue : Issue) : List Datum :=
  [.text issue.description,.text issue.checkName,.text issue.fingerprint,
    .text issue.position.path,.int issue.position.line] ++
    (issue.method.toList ++ issue.location.toList).map .text

theorem mem_leaves_iff {leaf : Datum} : leaf ∈ issue.leaves ↔
    leaf = .int issue.position.line ∨ ∃ text ∈ issue.texts, leaf = .text text := by
  simp only [leaves,texts,List.mem_append,List.mem_cons,List.mem_map,List.not_mem_nil,or_false]
  constructor
  · rintro ((rfl | rfl | rfl | rfl | rfl) | ⟨text,member,rfl⟩)
    · exact Or.inr ⟨_,Or.inl (Or.inl (Or.inl rfl)),rfl⟩
    · exact Or.inr ⟨_,Or.inl (Or.inl (Or.inr (Or.inl rfl))),rfl⟩
    · exact Or.inr ⟨_,Or.inl (Or.inl (Or.inr (Or.inr (Or.inl rfl)))),rfl⟩
    · exact Or.inr ⟨_,Or.inl (Or.inl (Or.inr (Or.inr (Or.inr rfl)))),rfl⟩
    · exact Or.inl rfl
    · exact Or.inr ⟨text,(or_assoc.mpr (Or.inr member)),rfl⟩
  · rintro (rfl | ⟨text,((rfl | rfl | rfl | rfl) | method) | location,rfl⟩)
    · simp
    · simp
    · simp
    · simp
    · simp
    · exact Or.inr ⟨text,Or.inl method,rfl⟩
    · exact Or.inr ⟨text,Or.inr location,rfl⟩

theorem textObstacle_of_plain {text : String} (ascii : text.toList.all (·.toNat < 128) = true) :
    textObstacle? host.spells text = none := if_pos (Host.spells_of_plain ascii)

theorem obstacle_toDatum (issue : Issue) : obstacle? host.spells issue.toDatum =
    issue.leaves.findSome? (obstacle? host.spells) := by
  have ascii : (["description","check_name","fingerprint","severity","location","path","lines",
      "begin","end","method","atc_location"].all fun text => text.toList.all (·.toNat < 128)) =
        true := by decide
  have words : ∀ text ∈ ["description","check_name","fingerprint","severity","location","path",
      "lines","begin","end","method","atc_location"], textObstacle? host.spells text = none :=
    fun text member => textObstacle_of_plain (List.all_eq_true.mp ascii text member)
  have severity : ∀ level : Severity, textObstacle? host.spells level.name = none := by
    intro level
    cases level <;> exact textObstacle_of_plain (by decide)
  simp only [List.forall_mem_cons] at words
  obtain ⟨description,checkName,fingerprint,level,⟨path,line⟩,method,location⟩ := issue
  cases method <;> cases location <;>
    simp [toDatum,leaves,obstacle?,fieldObstacle?,words,severity,findSome?_cons,Option.or_assoc]

structure Writable (host : Host ε) (issue : Issue) : Prop where
  line : fitsInt issue.position.line = true
  texts : ∀ text ∈ issue.texts, host.spells text = true

theorem obstacle_toDatum_eq_none_iff :
    obstacle? host.spells issue.toDatum = none ↔ issue.Writable host := by
  rw [obstacle_toDatum,List.findSome?_eq_none_iff]
  constructor
  · intro free
    refine ⟨?_,fun text member => ?_⟩
    · simpa [obstacle?] using free _ (mem_leaves_iff.mpr (Or.inl rfl))
    · simpa [obstacle?,textObstacle?] using free _ (mem_leaves_iff.mpr (Or.inr ⟨text,member,rfl⟩))
  · intro writable leaf member
    rcases mem_leaves_iff.mp member with rfl | ⟨text,within,rfl⟩
    · simp [obstacle?,writable.line]
    · simp [obstacle?,textObstacle?,writable.texts text within]

theorem obstacle_toDatum_cases {obstacle : Obstacle}
    (found : obstacle? host.spells issue.toDatum = some obstacle) :
    obstacle = .tooWide ∧ fitsInt issue.position.line = false ∨
      obstacle = .unspelled ∧ ∃ text ∈ issue.texts, host.spells text = false := by
  rw [obstacle_toDatum] at found
  obtain ⟨leaf,member,met⟩ := List.exists_of_findSome?_eq_some found
  rcases mem_leaves_iff.mp member with rfl | ⟨text,within,rfl⟩
  · rw [obstacle?] at met
    split at met
    · cases met
    · next wide =>
      cases met
      exact Or.inl ⟨rfl,Bool.eq_false_of_not_eq_true wide⟩
  · rw [obstacle?,textObstacle?] at met
    split at met
    · cases met
    · next unspelled =>
      cases met
      exact Or.inr ⟨rfl,text,within,Bool.eq_false_of_not_eq_true unspelled⟩

theorem obstacle_issues (issues : List Issue) :
    obstacle? host.spells (.list (issues.map toDatum)) =
      issues.findSome? fun issue => obstacle? host.spells issue.toDatum := by
  rw [obstacle?,itemObstacle_eq_findSome,List.findSome?_map]
  rfl

theorem obstacle_issues_eq_none_iff :
    obstacle? host.spells (.list (issues.map toDatum)) = none ↔
      ∀ issue ∈ issues, issue.Writable host := by
  rw [obstacle_issues,List.findSome?_eq_none_iff]
  simp only [obstacle_toDatum_eq_none_iff]

end Issue

namespace Repository
open Disk
variable {ε : Type} {host : Host ε} {disk between : Disk} {path : Path} {issues : List Issue}

/-- That writing a report has ended with it at its path, or with a fault that says that it cannot be
written there; either way with nothing else changed but new folders above it. -/
inductive Settled (disk : Disk) (path : Path) (issues : List Issue) :
    Disk × Option WriteFault → Prop where
  | written {later : Disk} {address : Address} (there : Replaced path address
      (Json.write (.list (issues.map Issue.toDatum))).toUTF8 disk later) :
      Settled disk path issues (later,none)
  | refused {later : Disk} (refusal : Refusal) (above : Grown path.folder disk later) :
      Settled disk path issues (later,some (.report path refusal))

structure Opened (host : Host ε) (disk : Disk) (path : Path) (between : Disk) : Prop where
  named : host.canName path.folder = true
  shallow : host.holds (disk.missing path.folder) = true
  made : disk.makeFolders path.folder = (between,none)

/-- The faults of a report that are not those of writing at its path: a name that has no bytes, more
missing folders than there is room for, and a number or a text in the report that cannot be
written. -/
inductive Escapes (host : Host ε) (disk : Disk) (path : Path) (issues : List Issue) :
    WriteFault → Prop where
  | folders (unnamed : host.canName path.folder = false) :
      Escapes host disk path issues .notInName
  | depth (named : host.canName path.folder = true)
      (deep : host.holds (disk.missing path.folder) = false) :
      Escapes host disk path issues .tooDeep
  | line {between : Disk} {issue : Issue} (opened : Opened host disk path between)
      (member : issue ∈ issues) (wide : Json.fitsInt issue.position.line = false) :
      Escapes host disk path issues .tooWide
  | text {between : Disk} {issue : Issue} {text : String} (opened : Opened host disk path between)
      (member : issue ∈ issues) (within : text ∈ issue.texts)
      (unspelled : host.spells text = false) :
      Escapes host disk path issues .notInText
  | name {between : Disk} (opened : Opened host disk path between)
      (writable : ∀ issue ∈ issues, issue.Writable host) (unnamed : host.canName path = false) :
      Escapes host disk path issues .notInName

theorem settled_of_refused {refusal : Refusal} (whole : path.hasNull = false)
    (named : host.canName path.folder = true)
    (shallow : host.holds (disk.missing path.folder) = true)
    (refused : disk.makeFolders path.folder = (between,some refusal)) :
    Settled disk path issues (writeReportOn host disk path issues) := by
  have grown := grown_makeFolders disk path.folder
  rw [refused] at grown
  have other : refusal.trouble ≠ .nullInName :=
    makeFolders_ne_nullInName (Path.hasNull_folder whole) (congrArg Prod.snd refused)
  simp only [writeReportOn,named,shallow,refused,WriteFault.ofRefusal,if_neg other,
    Bool.true_eq_false,if_false]
  exact .refused refusal grown

theorem writeReportOn_of_opened (opened : Opened host disk path between) :
    writeReportOn host disk path issues = writeInto host between path issues := by
  simp only [writeReportOn,opened.named,opened.shallow,opened.made,Bool.true_eq_false,if_false]

theorem settled_of_writable (whole : path.hasNull = false)
    (opened : Opened host disk path between) (writable : ∀ issue ∈ issues, issue.Writable host)
    (named : host.canName path = true) :
    Settled disk path issues (writeReportOn host disk path issues) := by
  have grown := grown_makeFolders disk path.folder
  rw [opened.made] at grown
  have free := Issue.obstacle_issues_eq_none_iff.mpr writable
  simp only [writeReportOn_of_opened opened,writeInto,writeRecordsOn,free,named,if_true]
  cases file : host.writeFile between path
      (Json.write (.list (issues.map Issue.toDatum))).toUTF8 with
  | error trouble =>
    have other := Host.writeFile_ne_nullInName whole file
    simp only [Except.mapError,WriteFault.ofRefusal,if_neg other]
    exact .refused _ grown
  | ok later =>
    obtain ⟨place,found,free,rfl⟩ := free_of_writeFile (Host.writeFile_eq_ok file)
    exact .written (replaced_of_grown grown found free _)

theorem escapes_of_obstacle {obstacle : Json.Obstacle} (opened : Opened host disk path between)
    (found : Json.obstacle? host.spells (.list (issues.map Issue.toDatum)) = some obstacle) :
    ∃ fault, writeReportOn host disk path issues = (between,some fault) ∧
      Escapes host disk path issues fault ∧ ∀ refusal, fault ≠ .report path refusal := by
  have met := found
  rw [Issue.obstacle_issues] at met
  obtain ⟨issue,member,first⟩ := List.exists_of_findSome?_eq_some met
  rcases Issue.obstacle_toDatum_cases first with ⟨rfl,wide⟩ | ⟨rfl,text,within,unspelled⟩
  · refine ⟨.tooWide,?_,.line opened member wide,fun refusal same => by cases same⟩
    simp only [writeReportOn_of_opened opened,writeInto,writeRecordsOn,found]
  · refine ⟨.notInText,?_,.text opened member within unspelled,fun refusal same => by cases same⟩
    simp only [writeReportOn_of_opened opened,writeInto,writeRecordsOn,found]

/-- Writing a report settles it, and then nothing can escape, or ends in a fault that does escape. -/
theorem writeReportOn_cases (host : Host ε) (disk : Disk) (issues : List Issue)
    (whole : path.hasNull = false) :
    (Settled disk path issues (writeReportOn host disk path issues) ∧
      ∀ fault, ¬ Escapes host disk path issues fault) ∨
    ∃ later fault, writeReportOn host disk path issues = (later,some fault) ∧
      Escapes host disk path issues fault ∧ ∀ refusal, fault ≠ .report path refusal := by
  cases named : host.canName path.folder with
  | false =>
    refine Or.inr ⟨disk,.notInName,?_,.folders named,fun refusal same => by cases same⟩
    simp only [writeReportOn,named,if_true]
  | true =>
    cases shallow : host.holds (disk.missing path.folder) with
    | false =>
      refine Or.inr ⟨disk,.tooDeep,?_,.depth named shallow,fun refusal same => by cases same⟩
      simp only [writeReportOn,named,shallow,Bool.true_eq_false,if_false,if_true]
    | true =>
      rcases made : disk.makeFolders path.folder with ⟨between,_ | refusal⟩
      · have opened : Opened host disk path between := ⟨named,shallow,made⟩
        cases found : Json.obstacle? host.spells (.list (issues.map Issue.toDatum)) with
        | some obstacle => exact Or.inr ⟨between,escapes_of_obstacle opened found⟩
        | none =>
          have writable := Issue.obstacle_issues_eq_none_iff.mp found
          cases last : host.canName path with
          | false =>
            refine Or.inr ⟨between,.notInName,?_,.name opened writable last,
              fun refusal same => by cases same⟩
            simp [writeReportOn_of_opened opened,writeInto,writeRecordsOn,found,last]
          | true =>
            refine Or.inl ⟨settled_of_writable whole opened writable last,fun fault escapes => ?_⟩
            cases escapes with
            | folders unnamed => simp [named] at unnamed
            | depth _ deep => simp [shallow] at deep
            | line _ member wide => simp [(writable _ member).line] at wide
            | text _ member within unspelled =>
              simp [(writable _ member).texts _ within] at unspelled
            | name _ _ unnamed => simp [last] at unnamed
      · refine Or.inl ⟨settled_of_refused whole named shallow made,fun fault escapes => ?_⟩
        cases escapes with
        | folders unnamed => simp [named] at unnamed
        | depth _ deep => simp [shallow] at deep
        | line opened | text opened | name opened => simp [opened.made] at made

theorem Settled.report {result : Disk × Option WriteFault} {fault : WriteFault}
    (settled : Settled disk path issues result) (failed : result.2 = some fault) :
    ∃ refusal, fault = .report path refusal := by
  cases settled with
  | written there => cases failed
  | refused refusal above =>
    cases failed
    exact ⟨refusal,rfl⟩

theorem settled_writeReportOn_iff (whole : path.hasNull = false) :
    Settled disk path issues (writeReportOn host disk path issues) ↔
      ¬ ∃ fault, Escapes host disk path issues fault := by
  obtain ⟨settled,free⟩ | ⟨later,fault,failed,escapes,other⟩ :=
    writeReportOn_cases host disk issues whole
  · exact ⟨fun _ ⟨fault,escapes⟩ => free fault escapes,fun _ => settled⟩
  · refine ⟨fun settled => ?_,fun free => absurd ⟨fault,escapes⟩ free⟩
    obtain ⟨refusal,same⟩ := settled.report (congrArg Prod.snd failed)
    exact absurd same (other refusal)

/-- On a plain host, only a line can be the cause of a fault that escapes. -/
theorem exists_escapes_plain_iff :
    (∃ fault, Escapes (.plain : Host ε) disk path issues fault) ↔
      (disk.makeFolders path.folder).2 = none ∧
        ∃ issue ∈ issues, Json.fitsInt issue.position.line = false := by
  constructor
  · rintro ⟨fault,escapes⟩
    cases escapes with
    | folders unnamed => simp [Host.canName_plain] at unnamed
    | depth _ deep => cases deep
    | line opened member wide => exact ⟨congrArg Prod.snd opened.made,_,member,wide⟩
    | text _ _ _ unspelled => simp [Host.spells_plain] at unspelled
    | name _ _ unnamed => simp [Host.canName_plain] at unnamed
  · rintro ⟨made,issue,member,wide⟩
    exact ⟨.tooWide,.line ⟨Host.canName_plain _,rfl,Prod.ext rfl made⟩ member wide⟩

end Repository

namespace Issue
variable {σ : Type} {resolver : Resolver σ} {srcDir : String} {finding : Finding} {memory : σ}

/-- That a finding has a line of 64 bits in a report: the one where a resolver finds it, or else the
one that the finding names. -/
def Storable (resolver : Resolver σ) (srcDir : String) (finding : Finding) (memory : σ) : Prop :=
  ∀ line : Nat, Location.startLine (finding.location.getD "") = .ok line →
    Json.fitsInt (positionOf (resolver (queryOf finding line) memory).1 finding srcDir line).line =
      true

theorem storable_iff {issue : Issue}
    (made : (ofFinding resolver srcDir finding memory).1 = .ok issue) :
    Storable resolver srcDir finding memory ↔ Json.fitsInt issue.position.line = true := by
  cases read : Location.startLine (finding.location.getD "") with
  | error error =>
    rw [ofFinding_of_error _ _ read] at made
    cases made
  | ok line =>
    rw [ofFinding_of_line _ _ read] at made
    dsimp only at made
    rw [Storable,read,position_ofAnswer made]
    constructor
    · exact fun storable => storable line rfl
    · rintro fits line' same
      cases same
      exact fits

end Issue

namespace Report
open Repository
variable {σ : Type} {resolver : Resolver σ} {srcDir : String} {maxWorkers : Int}
  {findings : List Finding} {memory : σ} {made : List Issue}

theorem forall_storable_iff
    (result : (issues resolver srcDir maxWorkers findings memory).1 = .ok made) :
    (∀ issue ∈ made, Json.fitsInt issue.position.line = true) ↔
      ∀ call ∈ calls resolver srcDir findings memory,
        Issue.Storable resolver srcDir call.1 call.2 := by
  rw [issues_eq_mapM,outcomes_eq_map,List.mapM_map] at result
  have related := mapM_ok result
  clear result
  generalize calls resolver srcDir findings memory = seen at related ⊢
  induction related with
  | nil => simp
  | cons first _ ih =>
    rw [List.forall_mem_cons,List.forall_mem_cons]
    exact and_congr (Issue.storable_iff first).symm ih

/-- A report is at its path in the end, or the fault says that it cannot be written there, if and
only if nothing escapes; else the fault is one that does. The lines in a report have 64 bits if and
only if those have that its findings are placed at. -/
theorem settled_iff {ε : Type} (host : Host ε)
    (result : (issues resolver srcDir maxWorkers findings memory).1 = .ok made) (disk : Disk)
    {path : Path} (whole : path.hasNull = false) :
    let written := writeReportOn host disk path made
    (Settled disk path made written ↔ ¬ ∃ fault, Escapes host disk path made fault) ∧
    (¬ Settled disk path made written →
      ∃ fault, written.2 = some fault ∧ Escapes host disk path made fault) ∧
    ((∀ issue ∈ made, Json.fitsInt issue.position.line = true) ↔
      ∀ call ∈ calls resolver srcDir findings memory,
        Issue.Storable resolver srcDir call.1 call.2) := by
  refine ⟨settled_writeReportOn_iff whole,fun unsettled => ?_,forall_storable_iff result⟩
  obtain ⟨settled,_⟩ | ⟨later,fault,failed,escapes,_⟩ :=
    writeReportOn_cases host disk made whole
  · exact absurd settled unsettled
  · exact ⟨fault,congrArg Prod.snd failed,escapes⟩

section Example

theorem calls_blind (finding : Finding) :
    calls Resolver.blind "src" [finding] () = [(finding,())] := rfl

/-- A finding that is not found has an issue if its own line can be read. -/
theorem exists_issues_blind {finding : Finding} {line : Nat}
    (read : Location.startLine (finding.location.getD "") = .ok line) :
    ∃ made, (issues Resolver.blind "src" defaultMaxWorkers [finding] ()).1 = .ok made := by
  have reportable : ∀ call ∈ calls Resolver.blind "src" [finding] (),
      Issue.Reportable Resolver.blind call.1 call.2 := by
    rw [calls_blind,List.forall_mem_singleton]
    exact ⟨Location.exists_startLine_iff.mp ⟨line,read⟩,fun _ _ _ found => by cases found⟩
  obtain ⟨made,result,_⟩ := (reports_mapM_iff Resolver.blind "src" _).mpr reportable
  rw [issues_eq_mapM,outcomes_eq_map,List.mapM_map]
  exact ⟨made,result⟩

def outFile : Path := ⟨.root,["out.json"]⟩

theorem makeFolders_outFile : Disk.bare.makeFolders outFile.folder = (Disk.bare,none) := by
  have top : ∀ last, Disk.bare.walk last Disk.linkLimit [] [] = .ok (.at [] .folder) := by
    intro last
    rw [Disk.walk]
  have folder : Disk.bare.isFolder outFile.folder = true :=
    Disk.isFolder_iff.mpr ⟨[],Disk.target?_eq_some_iff.mpr ⟨by decide,top true⟩⟩
  have located : Disk.bare.locate false outFile.folder = .ok (.at [] .folder) := by
    rw [Disk.locate,if_neg (by decide)]
    exact top false
  exact Disk.makeFolders_of_folder located folder

def wideDigits : List Char := "18446744073709551616".toList

theorem startLine_wideDigits :
    Location.startLine (locationOf wideDigits) = .ok 18446744073709551616 := by
  rw [startLine_locationOf (by decide) (List.all_eq_true.mp (by decide))]
  decide

def wideFinding : Finding := { unplacedFinding with location := some (locationOf wideDigits) }

/-- A report on a line of more than 64 bits is not at its path, and no fault says that it cannot be
written there. -/
theorem wide_line_unsettled : ∃ made,
    (issues Resolver.blind "src" defaultMaxWorkers [wideFinding] ()).1 = .ok made ∧
      outFile.hasNull = false ∧
        ¬ Settled Disk.bare outFile made (writeReport Disk.bare outFile made) := by
  have read : Location.startLine (wideFinding.location.getD "") = .ok 18446744073709551616 :=
    startLine_wideDigits
  obtain ⟨made,result⟩ := exists_issues_blind read
  refine ⟨made,result,by decide,fun settled => ?_⟩
  refine (settled_writeReportOn_iff (by decide)).mp settled (exists_escapes_plain_iff.mpr ?_)
  refine ⟨congrArg Prod.snd makeFolders_outFile,?_⟩
  by_contra none
  have fits : ∀ issue ∈ made, Json.fitsInt issue.position.line = true := by
    simpa only [not_exists,not_and,Bool.not_eq_false] using none
  rw [forall_storable_iff result,calls_blind,List.forall_mem_singleton] at fits
  exact absurd (fits _ read) (by decide)

theorem unplaced_settled : ∃ made,
    (issues Resolver.blind "src" defaultMaxWorkers [unplacedFinding] ()).1 = .ok made ∧
      Settled Disk.bare outFile made (writeReport Disk.bare outFile made) := by
  have read : Location.startLine (unplacedFinding.location.getD "") = .ok 1 := by decide
  obtain ⟨made,result⟩ := exists_issues_blind read
  obtain ⟨settled,_,lines⟩ :=
    settled_iff (.plain : Host Empty) result Disk.bare (by decide : outFile.hasNull = false)
  refine ⟨made,result,settled.mpr fun escapes => ?_⟩
  obtain ⟨_,issue,member,wide⟩ := exists_escapes_plain_iff.mp escapes
  have fits : ∀ issue ∈ made, Json.fitsInt issue.position.line = true := by
    rw [lines,calls_blind,List.forall_mem_singleton]
    intro line again
    cases read.symm.trans again
    decide
  rw [fits issue member] at wide
  cases wide

end Example

end Report
end AbapAtlas

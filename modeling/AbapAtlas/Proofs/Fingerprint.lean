import AbapAtlas.Proofs.LinePlacement
import AbapAtlas.Proofs.Location
import AbapAtlas.Proofs.Report
import AbapAtlas.Proofs.SourceIndex
import AbapAtlas.Proofs.Text.Parts

/-! What the fingerprint of an issue tells. Lines count from one, wherever and whenever the files
are read, so the last hyphen stands before the line; the one before it stands before the name of the
object, if that has none of its own. -/
namespace AbapAtlas
open Text Session

namespace Issue
variable {checkId checkId' name name' fingerprint fingerprint' : String}

theorem toList_fingerprint {line : Nat} (made : fingerprintOf checkId name line = .ok fingerprint) :
    fingerprint.toList =
      (checkId.toList ++ ['-']) ++ name.toList ++ ['-'] ++ (toString line).toList := by
  rw [fingerprintOf] at made
  cases written : writeInt (line : Int) with
  | error error =>
    rw [written] at made
    cases made
  | ok digits =>
    have same : digits = toString line :=
      Except.ok.inj (written.symm.trans (writeInt_eq (lt_of_writeInt written)))
    rw [written] at made
    cases made
    simp [same]

theorem fingerprint_eq_iff {line line' : Int} (plain : '-' ∉ name.toList)
    (plain' : '-' ∉ name'.toList) (positive : 1 ≤ line) (positive' : 1 ≤ line')
    (made : fingerprintOf checkId name line = .ok fingerprint)
    (made' : fingerprintOf checkId' name' line' = .ok fingerprint') :
    fingerprint = fingerprint' ↔ checkId = checkId' ∧ name = name' ∧ line = line' := by
  obtain ⟨n,rfl⟩ := Int.eq_ofNat_of_zero_le (show 0 ≤ line by omega)
  obtain ⟨n',rfl⟩ := Int.eq_ofNat_of_zero_le (show 0 ≤ line' by omega)
  have unsigned : ∀ n : Nat, '-' ∉ (toString n).toList := notMem_toString (by decide)
  constructor
  · intro same
    rw [← String.toList_inj,toList_fingerprint made,toList_fingerprint made'] at same
    -- From the end: the digits behind the last hyphen, then the name behind the last one left.
    obtain ⟨front,digits⟩ := EndsPart.append_inj (Or.inr ⟨_,rfl⟩) (Or.inr ⟨_,rfl⟩)
      (unsigned n) (unsigned n') same
    obtain ⟨check,object⟩ := EndsPart.append_inj (Or.inr ⟨_,rfl⟩) (Or.inr ⟨_,rfl⟩) plain plain'
      (List.append_cancel_right front)
    refine ⟨String.toList_inj.mp (List.append_cancel_right check),String.toList_inj.mp object,?_⟩
    exact congrArg Int.ofNat (toString_injective (String.toList_inj.mp digits))
  · rintro ⟨rfl,rfl,same⟩
    rw [same] at made
    exact Except.ok.inj (made.symm.trans made')

-- With a hyphen in a name, another object may share it with another check.
example : fingerprintOf "A" "B-C" 1 = fingerprintOf "A-B" "C" 1 := by decide +kernel

end Issue

def MethodBlock.Numbered (blocks : Option (List MethodBlock)) : Prop :=
  ∀ block ∈ blocks.getD [], 1 ≤ block.startLine

open MethodBlock

theorem MethodBlock.numbered_scan (found : Option (List String)) : Numbered (found.map scan) := by
  intro block member
  cases found with
  | none => cases member
  | some lines => exact one_le_startLine member

theorem LinePlacement.le_fileLine {blocks : Option (List MethodBlock)} (numbered : Numbered blocks)
    (line : Int) (path : String) (hint : Option String) :
    line ≤ fileLine line path blocks hint := by
  unfold fileLine
  split
  · split
    · next block found =>
      have first := numbered block (mem_of_block? found)
      omega
    · exact Int.le_refl line
  · exact Int.le_refl line

namespace Session
variable {session : Session} {path : String}

def Numbered (session : Session) : Prop :=
  ∀ path blocks, session.blocks.lookup path = some blocks → MethodBlock.Numbered blocks

theorem Numbered.keepBlocks (numbered : Numbered session) {blocks : Option (List MethodBlock)}
    (own : MethodBlock.Numbered blocks) : Numbered (session.keepBlocks path blocks) := by
  intro other stored known
  rcases lookup_put_cases _ _ _ known with before | ⟨_,rfl⟩
  · exact numbered other stored before
  · exact own

theorem Numbered.linesOf (numbered : Numbered session) (disk : Disk) (path : String) :
    Numbered (session.linesOf disk path).2 := by
  obtain ⟨_,_,same⟩ | ⟨_,⟨_,_,same⟩ | ⟨_,_,same⟩⟩ := session.linesOf_cases disk path
  · rw [same]
    exact numbered
  · rw [same]
    exact numbered
  · rw [same]
    exact numbered

theorem Numbered.blocksOf (numbered : Numbered session) (disk : Disk) (path : String) :
    Numbered (session.blocksOf disk path).2 := by
  have read := numbered.linesOf disk path
  obtain ⟨_,_,same⟩ | ⟨_,⟨found,_,same⟩ | ⟨_,_,same⟩⟩ := session.blocksOf_cases disk path
  · rw [same]
    exact numbered
  · rw [same]
    exact read.keepBlocks (numbered_scan found)
  · rw [same]
    exact read

theorem Numbered.resolve (numbered : Numbered session) (query : Query) (index : SourceIndex)
    (disk : Disk) : Numbered (query.resolve index disk session).2 := by
  rcases query.resolve_session index disk session with same | ⟨path,same⟩
  · rw [same]
    exact numbered
  · rw [same]
    exact numbered.blocksOf disk path

end Session

structure Issue.Marks (finding : Finding) (issue : Issue) : Prop where
  positive : 1 ≤ issue.position.line
  made : fingerprintOf finding.checkId finding.objectName issue.position.line =
    .ok issue.fingerprint

def Issue.MarksIn (finding : Finding) (outcome : Except NumeralError Issue) : Prop :=
  ∀ issue, outcome = .ok issue → Marks finding issue

theorem Issue.marksIn_ofAnswer {finding : Finding} {srcDir : String} {line : Int} {answer : Answer}
    (positive : 1 ≤ line) (found : ∀ position, answer = .found position → line ≤ position.line) :
    MarksIn finding (ofAnswer finding srcDir line answer) := by
  intro issue made
  rw [ofAnswer] at made
  cases fingerprint : fingerprintOf finding.checkId finding.objectName
      (positionOf answer finding srcDir line).line with
  | error error =>
    rw [fingerprint] at made
    cases made
  | ok text =>
    rw [fingerprint] at made
    cases made
    refine ⟨?_,fingerprint⟩
    cases answer with
    | found position => exact Int.le_trans positive (found position rfl)
    | unknown => exact positive
    | failed => exact positive

def Access.Numbered : Access → Prop
  | .keepBlocks blocks => MethodBlock.Numbered blocks
  | _ => True

def Stage.Marks (finding : Finding) : Stage → Prop
  | .resolving line _ access => 1 ≤ line ∧ access.Numbered
  | .done outcome => Issue.MarksIn finding outcome
  | _ => True

namespace Stage
variable {index : SourceIndex} {disk : Disk} {srcDir : String} {finding : Finding}
variable {memory memory' : Session} {stage stage' : Stage} {line : Nat}

theorem marks_placed (positive : 1 ≤ line) {blocks : Option (List MethodBlock)}
    (numbered : MethodBlock.Numbered blocks) (path : String) :
    (placed srcDir finding line path blocks).Marks finding := by
  refine Issue.marksIn_ofAnswer (by omega) ?_
  rintro position ⟨⟩
  dsimp only
  exact LinePlacement.le_fileLine numbered line path _

theorem marks_failed (positive : 1 ≤ line) : (failed srcDir finding line).Marks finding :=
  Issue.marksIn_ofAnswer (by omega) (by rintro position ⟨⟩)

theorem marks_start (index : SourceIndex) (srcDir : String) (finding : Finding) :
    (start index srcDir finding).Marks finding := by
  unfold start
  cases read : Location.startLine (finding.location.getD "") with
  | error error => rintro issue ⟨⟩
  | ok line =>
    have positive := Location.one_le_of_startLine read
    cases file : (Issue.queryOf finding line).file? index with
    | none =>
      simp only [file]
      exact Issue.marksIn_ofAnswer (by omega) (by rintro position ⟨⟩)
    | some path =>
      simp only [file]
      cases LinePlacement.countsFromMethod path with
      | true => exact ⟨positive,trivial⟩
      | false => exact marks_placed positive (numbered_scan none) path

/-- An access to the session keeps the blocks counted from one and the worker on its way. -/
theorem access_marks {path : String} {access : Access} (numbered : memory.Numbered)
    (marks : (resolving line path access).Marks finding)
    (step : Stage.access disk srcDir finding line path memory access = (stage',memory')) :
    memory'.Numbered ∧ stage'.Marks finding := by
  obtain ⟨positive,own⟩ := marks
  cases access with
  | testBlocks =>
    rw [Stage.access] at step
    split at step
    · cases step
      exact ⟨numbered,positive,trivial⟩
    · cases step
      exact ⟨numbered,positive,trivial⟩
  | takeBlocks =>
    rw [Stage.access] at step
    split at step
    · next blocks known =>
      cases step
      exact ⟨numbered,marks_placed positive (numbered path blocks known) path⟩
    · cases step
      exact ⟨numbered,marks_failed positive⟩
  | testLines =>
    rw [Stage.access] at step
    split at step
    · cases step
      exact ⟨numbered,positive,trivial⟩
    · cases step
      exact ⟨numbered,positive,trivial⟩
  | takeLines =>
    rw [Stage.access] at step
    split at step
    · next found _ =>
      cases step
      exact ⟨numbered,positive,numbered_scan found⟩
    · cases step
      exact ⟨numbered,marks_failed positive⟩
  | read =>
    rw [Stage.access] at step
    split at step
    · cases step
      exact ⟨numbered,positive,trivial⟩
    · cases step
      exact ⟨numbered,marks_failed positive⟩
  | keepLines found =>
    cases step
    exact ⟨numbered,positive,numbered_scan found⟩
  | keepBlocks blocks =>
    cases step
    exact ⟨numbered.keepBlocks own,marks_placed positive own path⟩

theorem next_marks (numbered : memory.Numbered) (marks : stage.Marks finding)
    (next : stage.next index disk srcDir finding memory = some (stage',memory')) :
    memory'.Numbered ∧ stage'.Marks finding := by
  cases stage with
  | queued => cases next
  | done outcome => cases next
  | begun =>
    cases next
    exact ⟨numbered,marks_start index srcDir finding⟩
  | resolving line path access =>
    rw [Stage.next,Option.some.injEq] at next
    exact access_marks numbered marks next

theorem run_marks {first last : Stage × Session} (run : Run index disk srcDir finding first last)
    (numbered : first.2.Numbered) (marks : first.1.Marks finding) :
    last.2.Numbered ∧ last.1.Marks finding := by
  induction run with
  | refl => exact ⟨numbered,marks⟩
  | tail _ step ih => exact next_marks ih.1 ih.2 step

end Stage

namespace Batch
variable {index : SourceIndex} {srcDir : String} {maxWorkers : Int} {batch later last : Batch}

def Goes (index : SourceIndex) (srcDir : String) (maxWorkers : Int) (batch later : Batch) : Prop :=
  ∃ disk, Step index disk srcDir maxWorkers batch later

theorem Step.goes {disk : Disk} (step : Step index disk srcDir maxWorkers batch later) :
    Goes index srcDir maxWorkers batch later :=
  ⟨disk,step⟩

structure Marked (findings : List Finding) (batch : Batch) : Prop where
  numbered : batch.memory.Numbered
  findings : batch.tasks.map Prod.fst = findings
  stages : ∀ task ∈ batch.tasks, task.2.Marks task.1

theorem start_marked {memory : Session} (numbered : memory.Numbered) (findings : List Finding) :
    Marked findings (start findings memory) := by
  refine ⟨numbered,?_,?_⟩
  · rw [start,List.map_map]
    exact List.map_id _
  · intro task member
    obtain ⟨finding,_,rfl⟩ := List.mem_map.mp member
    trivial

theorem goes_marked {findings : List Finding} (marked : Marked findings batch)
    (goes : Goes index srcDir maxWorkers batch later) : Marked findings later := by
  obtain ⟨numbered,same,stages⟩ := marked
  obtain ⟨disk,step⟩ := goes
  cases step with
  | begin first free =>
    exact ⟨numbered,by simpa using same,forall_mem_replaced (fun _ => id) stages trivial⟩
  | advance next =>
    have own := stages _ (List.mem_append_right _ List.mem_cons_self)
    obtain ⟨numbered',own'⟩ := Stage.next_marks numbered own next
    exact ⟨numbered',by simpa using same,forall_mem_replaced (fun _ => id) stages own'⟩

theorem run_marked {findings : List Finding} (marked : Marked findings batch)
    (run : Relation.ReflTransGen (Goes index srcDir maxWorkers) batch last) :
    Marked findings last := by
  induction run with
  | refl => exact marked
  | tail _ goes ih => exact goes_marked ih goes

theorem Marked.outcomes {findings : List Finding} (marked : Marked findings batch)
    (done : ∀ task ∈ batch.tasks, task.2.outcome?.isSome = true) :
    List.Forall₂ Issue.MarksIn findings (batch.tasks.filterMap (·.2.outcome?)) := by
  obtain ⟨memory,tasks⟩ := batch
  obtain ⟨numbered,rfl,stages⟩ := marked
  induction tasks with
  | nil => exact .nil
  | cons task rest ih =>
    rw [List.forall_mem_cons] at done stages
    obtain ⟨finding,stage⟩ := task
    have later := ih done.2 numbered stages.2
    cases stage with
    | queued => cases done.1
    | begun => cases done.1
    | resolving line path access => cases done.1
    | done outcome => exact .cons stages.1 later

end Batch

/-- The sessions that resolvers may have: over files that change at any time, after any requests and
in the middle of batches. -/
inductive Session.InUse : Session → Prop where
  | fresh (base : Option Path) : InUse { base }
  | lines {session : Session} (earlier : InUse session) (disk : Disk) (path : String) :
      InUse (session.linesOf disk path).2
  | blocks {session : Session} (earlier : InUse session) (disk : Disk) (path : String) :
      InUse (session.blocksOf disk path).2
  | resolve {session : Session} (earlier : InUse session) (query : Query) (index : SourceIndex)
      (disk : Disk) : InUse (query.resolve index disk session).2
  | batch {session : Session} (earlier : InUse session) {index : SourceIndex} {srcDir : String}
      {maxWorkers : Int} {findings : List Finding} {batch : Batch}
      (run : Relation.ReflTransGen (Batch.Goes index srcDir maxWorkers)
        (Batch.start findings session) batch) : InUse batch.memory

theorem Session.Reachable.inUse {disk : Disk} {base : Option Path} {session : Session}
    (reachable : Reachable disk base session) : InUse session := by
  induction reachable with
  | fresh => exact .fresh base
  | lines _ path ih => exact ih.lines disk path
  | blocks _ path ih => exact ih.blocks disk path
  | resolve _ query index ih => exact ih.resolve query index disk
  | batch _ run ih => exact ih.batch (run.lift id fun _ _ step => step.goes)

theorem Session.InUse.numbered {session : Session} (used : InUse session) : session.Numbered := by
  induction used with
  | fresh base => rintro path blocks ⟨⟩
  | lines _ disk path ih => exact ih.linesOf disk path
  | blocks _ disk path ih => exact ih.blocksOf disk path
  | resolve _ query index disk ih => exact ih.resolve query index disk
  | batch _ run ih => exact (Batch.run_marked (Batch.start_marked ih _) run).numbered

namespace Report
variable {index : SourceIndex} {disk : Disk} {srcDir : String} {maxWorkers : Int}
  {findings : List Finding} {session : Session} {issues : List Issue}

theorem outcomes_marked (numbered : session.Numbered) (findings : List Finding) :
    List.Forall₂ Issue.MarksIn findings
      (outcomes (Resolver.ofIndex index disk) srcDir findings session).1 := by
  induction findings generalizing session with
  | nil => exact .nil
  | cons finding rest ih =>
    have run := run_begun index disk srcDir finding session
    obtain ⟨later,own⟩ := Stage.run_marks run numbered trivial
    exact .cons own (ih later)

theorem marks_of_mapM {outcomes : List (Except NumeralError Issue)}
    (each : List.Forall₂ Issue.MarksIn findings outcomes) (made : outcomes.mapM id = .ok issues) :
    List.Forall₂ Issue.Marks findings issues := by
  have ended := mapM_ok made
  clear made
  induction each generalizing issues with
  | nil =>
    cases ended
    exact .nil
  | cons own _ ih =>
    cases ended with
    | cons first rest => exact .cons (own _ first) (ih rest)

/-- That there is one issue for each finding, and two of them have the same fingerprint just if
their findings are of the same check and the same object and they lie in the same line. -/
def Identifies (findings : List Finding) (issues : List Issue) : Prop :=
  issues.length = findings.length ∧
    ∀ pair ∈ findings.zip issues, ∀ other ∈ findings.zip issues,
      pair.2.fingerprint = other.2.fingerprint ↔
        pair.1.checkId = other.1.checkId ∧ pair.1.objectName = other.1.objectName ∧
          pair.2.position.line = other.2.position.line

theorem identifies_of_marks (plain : ∀ finding ∈ findings, '-' ∉ finding.objectName.toList)
    (marks : List.Forall₂ Issue.Marks findings issues) : Identifies findings issues := by
  obtain ⟨length,each⟩ := List.forall₂_iff_zip.mp marks
  refine ⟨length.symm,?_⟩
  rintro ⟨finding,issue⟩ member ⟨finding',issue'⟩ member'
  have own := each member
  have own' := each member'
  exact Issue.fingerprint_eq_iff (plain finding (List.of_mem_zip member).1)
    (plain finding' (List.of_mem_zip member').1) own.positive own'.positive own.made own'.made

/-- Fingerprints tell the check, the object and the line of a finding, where the names of objects
have no hyphen in them. It does not matter what the session remembers from before, nor whether the
findings are taken in turn or by several workers while the files change. -/
theorem issues_identified (used : session.InUse)
    (plain : ∀ finding ∈ findings, '-' ∉ finding.objectName.toList) (index : SourceIndex)
    (srcDir : String) (maxWorkers : Int) :
    (∀ disk issues, (Report.issues (Resolver.ofIndex index disk) srcDir maxWorkers findings
        session).1 = .ok issues → Identifies findings issues) ∧
    ∀ batch issues, Relation.ReflTransGen (Batch.Goes index srcDir maxWorkers)
        (Batch.start findings session) batch →
      batch.result? = some (.ok issues) → Identifies findings issues := by
  constructor
  · intro disk issues made
    rw [issues_eq_mapM] at made
    exact identifies_of_marks plain (marks_of_mapM (outcomes_marked used.numbered findings) made)
  · intro batch issues run ended
    obtain ⟨done,made⟩ := Batch.result?_eq_some ended
    have marked := Batch.run_marked (Batch.start_marked used.numbered findings) run
    exact identifies_of_marks plain (marks_of_mapM (marked.outcomes done) made)

section Example

def strayFinding : Finding :=
  { sampleFinding with checkId := "C-Zcl_A", objectName := "3" }

def strayIssue : Issue :=
  { sampleIssue with
    checkName := "C-Zcl_A"
    fingerprint := "C-Zcl_A-3-2"
    position := ⟨"src/clas/3.clas.abap",2⟩ }

theorem issues_sample {session : Session}
    (reachable : Session.Reachable sampleDisk (some sampleRoot) session) :
    (Report.issues (Resolver.ofIndex sampleIndex sampleDisk) "src" defaultMaxWorkers
      [sampleFinding,strayFinding] session).1 = .ok [sampleIssue,strayIssue] := by
  have stray : Issue.alone sampleIndex sampleDisk (some sampleRoot) "src" strayFinding =
      .ok strayIssue := by
    decide +kernel
  obtain ⟨faithful,base⟩ := reachable.faithful
  rw [issues_eq _ _ _ _ faithful,base]
  exact mapM_alone (.cons alone_sampleFinding (.cons stray .nil))

theorem hyphenated_check_told_apart : ∃ session : Session, session.InUse ∧
    (∀ finding ∈ [sampleFinding,strayFinding], '-' ∉ finding.objectName.toList) ∧
    (Report.issues (Resolver.ofIndex sampleIndex sampleDisk) "src" defaultMaxWorkers
      [sampleFinding,strayFinding] session).1 = .ok [sampleIssue,strayIssue] ∧
    Identifies [sampleFinding,strayFinding] [sampleIssue,strayIssue] := by
  have reachable : Session.Reachable sampleDisk (some sampleRoot)
      (Session.blocksOf { base := some sampleRoot } sampleDisk "src/zcl_a.clas.abap").2 :=
    .blocks .fresh _
  have plain : ∀ finding ∈ [sampleFinding,strayFinding], '-' ∉ finding.objectName.toList :=
    List.all_iff_forall_prop.mp (by decide)
  have made := issues_sample reachable
  obtain ⟨identified,_⟩ :=
    issues_identified reachable.inUse plain sampleIndex "src" defaultMaxWorkers
  exact ⟨_,reachable.inUse,plain,made,identified sampleDisk _ made⟩

end Example

end Report

end AbapAtlas

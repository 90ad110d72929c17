import AbapAtlas.Proofs.Batch
import AbapAtlas.Proofs.FileTree

/-! Reports on batches. The result depends neither on how many workers there are and how their steps
interleave nor on what the session they share remembers from before. -/
namespace AbapAtlas
open Session

/-- The sessions over a disk that earlier requests may leave behind: requests for the lines or the
blocks of a file, resolutions, and batches at any point of their work. -/
inductive Session.Reachable (disk : Disk) (base : Option Path) : Session → Prop where
  | fresh : Reachable disk base { base }
  | lines {session : Session} (earlier : Reachable disk base session) (path : String) :
      Reachable disk base (session.linesOf disk path).2
  | blocks {session : Session} (earlier : Reachable disk base session) (path : String) :
      Reachable disk base (session.blocksOf disk path).2
  | resolve {session : Session} (earlier : Reachable disk base session) (query : Query)
      (index : SourceIndex) : Reachable disk base (query.resolve index disk session).2
  | batch {session : Session} (earlier : Reachable disk base session) {index : SourceIndex}
      {srcDir : String} {maxWorkers : Int} {findings : List Finding} {batch : Batch}
      (run : Relation.ReflTransGen (Batch.Step index disk srcDir maxWorkers)
        (Batch.start findings session) batch) : Reachable disk base batch.memory

theorem Session.Reachable.faithful {disk : Disk} {base : Option Path} {session : Session}
    (reachable : Reachable disk base session) :
    Faithful disk session ∧ session.base = base := by
  induction reachable with
  | fresh => exact ⟨faithful_fresh disk base,rfl⟩
  | lines _ path ih =>
    obtain ⟨_,faithful,same⟩ := ih.1.linesOf path
    exact ⟨faithful,same.trans ih.2⟩
  | blocks _ path ih =>
    obtain ⟨_,faithful,same⟩ := ih.1.blocksOf path
    exact ⟨faithful,same.trans ih.2⟩
  | resolve _ query index ih =>
    obtain ⟨faithful,same⟩ := query.resolve_faithful index ih.1
    exact ⟨faithful,same.trans ih.2⟩
  | @batch session _ index srcDir maxWorkers findings batch run ih =>
    have sound : batch.Sound index disk session.base srcDir findings := by
      induction run with
      | refl => exact Batch.start_sound ih.1 findings
      | tail _ step sound => exact Batch.step_sound sound step
    exact ⟨sound.faithful,sound.base.trans ih.2⟩

namespace Report
variable {disk : Disk} {session : Session}

/-- Findings taken in turn give what the outcomes of all of them give, up to the first failure. -/
theorem inTurn_eq_mapM {σ : Type} (resolver : Resolver σ) (srcDir : String)
    (findings : List Finding) (memory : σ) :
    (inTurn resolver srcDir findings memory).1 =
      (outcomes resolver srcDir findings memory).1.mapM id := by
  induction findings generalizing memory with
  | nil => rfl
  | cons finding rest ih =>
    rw [inTurn,outcomes,List.mapM_cons]
    rcases step : Issue.ofFinding resolver srcDir finding memory with ⟨error | issue,after⟩
    · rfl
    · rw [← ih after]
      dsimp only
      rcases inTurn resolver srcDir rest after with ⟨_ | _,_⟩ <;> rfl

theorem issues_eq_mapM {σ : Type} (resolver : Resolver σ) (srcDir : String) (maxWorkers : Int)
    (findings : List Finding) (memory : σ) :
    (issues resolver srcDir maxWorkers findings memory).1 =
      (outcomes resolver srcDir findings memory).1.mapM id := by
  unfold issues
  split
  · exact inTurn_eq_mapM resolver srcDir findings memory
  · rfl

theorem outcomes_eq (index : SourceIndex) (srcDir : String) (findings : List Finding)
    (faithful : Faithful disk session) :
    (outcomes (Resolver.ofIndex index disk) srcDir findings session).1 =
      findings.map (Issue.alone index disk session.base srcDir) := by
  induction findings generalizing session with
  | nil => rfl
  | cons finding rest ih =>
    have first := Issue.ofFinding_eq index srcDir finding faithful
    obtain ⟨later,base⟩ := Issue.ofFinding_faithful index srcDir finding faithful
    rw [outcomes,List.map_cons,Issue.alone,← first,← base,← ih later]

theorem inTurn_eq (index : SourceIndex) (srcDir : String) (findings : List Finding)
    (faithful : Faithful disk session) :
    (inTurn (Resolver.ofIndex index disk) srcDir findings session).1 =
      (findings.map (Issue.alone index disk session.base srcDir)).mapM id := by
  rw [inTurn_eq_mapM,outcomes_eq index srcDir findings faithful]

theorem issues_eq (index : SourceIndex) (srcDir : String) (maxWorkers : Int)
    (findings : List Finding) (faithful : Faithful disk session) :
    (issues (Resolver.ofIndex index disk) srcDir maxWorkers findings session).1 =
      (findings.map (Issue.alone index disk session.base srcDir)).mapM id := by
  rw [issues_eq_mapM,outcomes_eq index srcDir findings faithful]

/-- That a report on findings comes to its end with a result: at once where they are taken in turn,
and else in every order of the steps of the workers. -/
def Returns (index : SourceIndex) (disk : Disk) (srcDir : String) (maxWorkers : Int)
    (findings : List Finding) (session : Session)
    (result : Except Text.NumeralError (List Issue)) : Prop :=
  if maxWorkers ≤ 1 ∨ findings.length ≤ smallBatch then
    (inTurn (Resolver.ofIndex index disk) srcDir findings session).1 = result
  else Batch.Surely index disk srcDir maxWorkers result (Batch.start findings session)

theorem returns_alone (index : SourceIndex) (srcDir : String) (maxWorkers : Int)
    (findings : List Finding) (faithful : Faithful disk session) :
    Returns index disk srcDir maxWorkers findings session
      ((findings.map (Issue.alone index disk session.base srcDir)).mapM id) := by
  unfold Returns
  split
  · exact inTurn_eq index srcDir findings faithful
  · next several =>
    rw [not_or] at several
    exact Batch.surely_of_sound (by omega) (Batch.start_sound faithful findings)

theorem mapM_alone {index : SourceIndex} {base : Option Path} {srcDir : String}
    {findings : List Finding} {issues : List Issue}
    (alone : List.Forall₂ (fun finding issue =>
      Issue.alone index disk base srcDir finding = .ok issue) findings issues) :
    (findings.map (Issue.alone index disk base srcDir)).mapM id = .ok issues := by
  induction alone with
  | nil => rfl
  | cons first _ ih =>
    rw [List.map_cons,List.mapM_cons,ih,first]
    rfl

/-- A report does not depend on the number of workers, on their order or on what the session
remembers: each finding gets the issue that it gets alone. -/
theorem returns_issues_alone {index : SourceIndex} {base : Option Path} {srcDir : String}
    {findings : List Finding} {issues : List Issue}
    (reachable : Session.Reachable disk base session)
    (alone : List.Forall₂ (fun finding issue =>
      Issue.alone index disk base srcDir finding = .ok issue) findings issues)
    (maxWorkers : Int) :
    Returns index disk srcDir maxWorkers findings session (.ok issues) ∧
      (Report.issues (Resolver.ofIndex index disk) srcDir maxWorkers findings session).1 =
        .ok issues := by
  obtain ⟨faithful,rfl⟩ := reachable.faithful
  have returns := returns_alone index srcDir maxWorkers findings faithful
  have result := issues_eq index srcDir maxWorkers findings faithful
  rw [mapM_alone alone] at returns result
  exact ⟨returns,result⟩

section Example

def sampleSource : String :=
  "CLASS zcl_a IMPLEMENTATION.\n  METHOD if_a~run.\n    EXIT.\n  ENDMETHOD."

def sampleDisk : Disk where
  entries := [(["src"],.folder),(["src","zcl_a.clas.abap"],.file sampleSource.toUTF8)]

def sampleIndex : SourceIndex where
  folder := "src"
  paths := [("zcl_a.clas.abap","src/zcl_a.clas.abap")]

def sampleLocation : String :=
  "/sap/bc/adt/oo/classes/zcl_a/source/main#type=CLAS%2FOM;name=IF_A%7ERun;start=2"

def sampleFinding : Finding where
  checkId := "C"
  checkTitle := ""
  messageId := none
  priority := 1
  messageText := "text"
  objectUri := none
  objectType := "CLAS"
  objectName := "Zcl_A"
  location := some sampleLocation
  findingUri := none

def sampleIssue : Issue where
  description := "text"
  checkName := "C"
  fingerprint := "C-Zcl_A-3"
  severity := .blocker
  position := ⟨"src/zcl_a.clas.abap",3⟩
  method := some "if_a~run"
  location := some sampleLocation

def sampleRoot : Path := ⟨.root,[]⟩

def sampleFile : Path := ⟨.root,["src","zcl_a.clas.abap"]⟩

theorem content_sampleFile : sampleDisk.content sampleFile = .ok sampleSource.toUTF8 := by
  have reached : sampleDisk.target? sampleFile =
      some (["src","zcl_a.clas.abap"],.file sampleSource.toUTF8) := by
    refine Disk.target?_eq_some_iff.mpr ⟨by decide,?_⟩
    exact Disk.walk_through _ (by decide) (by decide) (by decide) rfl
  exact Disk.content_of_target? reached

theorem alone_sampleFinding :
    Issue.alone sampleIndex sampleDisk (some sampleRoot) "src" sampleFinding = .ok sampleIssue := by
  have read : Location.startLine (sampleFinding.location.getD "") = .ok 2 := by decide +kernel
  have file : (Issue.queryOf sampleFinding (2 : Nat)).file? sampleIndex =
      some "src/zcl_a.clas.abap" := by decide +kernel
  have counted : LinePlacement.countsFromMethod "src/zcl_a.clas.abap" = true := by decide +kernel
  have place : Session.fullPath { base := some sampleRoot } "src/zcl_a.clas.abap" = sampleFile := by
    decide
  have blocks : readBlocks sampleDisk sampleFile = .ok (some [⟨"if_a~run",2,3⟩]) := by
    rw [readBlocks,readLines_eq,content_sampleFile]
    decide +kernel
  refine (alone_of_counted sampleDisk "src" { base := some sampleRoot } read file counted).trans ?_
  rw [place,blocks]
  decide +kernel

theorem returns_sampleIssues :
    Session.Reachable sampleDisk (some sampleRoot)
      (Session.blocksOf { base := some sampleRoot } sampleDisk "src/zcl_a.clas.abap").2 ∧
    List.Forall₂ (fun finding issue =>
      Issue.alone sampleIndex sampleDisk (some sampleRoot) "src" finding = .ok issue)
      (List.replicate 4 sampleFinding) (List.replicate 4 sampleIssue) ∧
    Returns sampleIndex sampleDisk "src" 2 (List.replicate 4 sampleFinding)
      (Session.blocksOf { base := some sampleRoot } sampleDisk "src/zcl_a.clas.abap").2
      (.ok (List.replicate 4 sampleIssue)) ∧
    (Report.issues (Resolver.ofIndex sampleIndex sampleDisk) "src" 2
      (List.replicate 4 sampleFinding)
      (Session.blocksOf { base := some sampleRoot } sampleDisk "src/zcl_a.clas.abap").2).1 =
        .ok (List.replicate 4 sampleIssue) := by
  have reachable : Session.Reachable sampleDisk (some sampleRoot)
      (Session.blocksOf { base := some sampleRoot } sampleDisk "src/zcl_a.clas.abap").2 :=
    .blocks .fresh _
  have alone : List.Forall₂ (fun finding issue =>
      Issue.alone sampleIndex sampleDisk (some sampleRoot) "src" finding = .ok issue)
      (List.replicate 4 sampleFinding) (List.replicate 4 sampleIssue) := by
    have one := alone_sampleFinding
    exact .cons one (.cons one (.cons one (.cons one .nil)))
  exact ⟨reachable,alone,returns_issues_alone reachable alone 2⟩

end Example

end Report

end AbapAtlas

import AbapAtlas.Proofs.IssuePerFinding
import AbapAtlas.Proofs.LinePlacement

/-! Where a report places a finding in a method of a class: in the line of the class source that is
as far behind the METHOD statement as the check says. -/
namespace AbapAtlas
open Text

namespace LinePlacement

theorem countsFromMethod_joined {names : List String} {name : String} (nonempty : names ≠ [])
    (last : names.getLastD "" = name ++ classSourceSuffix) :
    countsFromMethod (Path.joined names) = true := by
  obtain ⟨front,file,rfl⟩ := (List.eq_nil_or_concat names).resolve_left nonempty
  rw [List.concat_eq_append] at last ⊢
  rw [List.getLastD_concat] at last
  obtain ⟨before,joined⟩ := Path.suffix_joined front file
  have split : Path.joined (front ++ [file]) =
      String.ofList (before ++ name.toList) ++ classSourceSuffix := by
    rw [← String.toList_inj,← joined,last]
    simp
  rw [split]
  exact countsFromMethod_append _

/-- A line in the method that is hinted at lies behind the first METHOD statement of its name. -/
theorem fileLine_of_spans {lines : List String} {method : List Char} {first last : Nat}
    (spans : MethodBlock.Spans lines method first last)
    (foremost : ∀ other first' last', MethodBlock.Spans lines other first' last' →
      first' < first → lower (String.ofList other) ≠ lower (String.ofList method))
    (nonempty : method ≠ []) {path : String} (counted : countsFromMethod path = true)
    (line : Int) :
    fileLine line path (some (MethodBlock.scan lines)) (some (lower (String.ofList method))) =
      first + line - 1 := by
  have named : lower (String.ofList method) ≠ "" :=
    lower_ne_empty (mt String.ofList_eq_empty_iff.mp nonempty)
  have found : block? line (MethodBlock.scan lines) (some (lower (String.ofList method))) =
      some ⟨lower (String.ofList method),first,last - first + 1⟩ := by
    simp only [block?,named?,if_neg named,lower_lower,
      MethodBlock.find?_scan lines method first last spans foremost]
  exact fileLine_of_block? counted found

end LinePlacement

/-- That one file below a source folder has the name that the source of a class has, and what is
written in it. -/
structure ClassSource (disk : Disk) (root : Path) (srcDir : String) (extensions : List String)
    (respectIgnore : Bool) (name : String) (names : List String) (source : String) : Prop where
  eligible : SourceIndex.Eligible disk root srcDir extensions respectIgnore names
  file : names.getLastD "" = name ++ ".clas.abap"
  only : ∀ other, SourceIndex.Eligible disk root srcDir extensions respectIgnore other →
    other.getLastD "" = name ++ ".clas.abap" → other = names
  text : ∃ content, disk.content ((root.within (Path.ofString srcDir)).below names) = .ok content ∧
    String.fromUTF8? content = some source

section
variable {disk : Disk} {root : Path} {srcDir : String} {extensions : List String}
  {respectIgnore : Bool} {index : SourceIndex} {name : String} {names : List String}
  {source : String}

theorem ClassSource.lookup (class' : ClassSource disk root srcDir extensions respectIgnore name
      names source) (named : disk.Named) (rooted : disk.isFolder root = true)
    (built : SourceIndex.build disk root srcDir extensions respectIgnore = .ok index) :
    ∃ below, (root.within (Path.ofString srcDir)).below names = root.below below ∧
      index.lookup (name ++ ".clas.abap") = some (Path.joined below) ∧
      LinePlacement.countsFromMethod (Path.joined below) = true ∧
      Session.readLines disk (root.within (Path.ofString (Path.joined below))) =
        .ok (some (lines source)) := by
  obtain ⟨below,same,nonempty,found⟩ := SourceIndex.lookup_of_only named rooted built
    class'.eligible (fun other eligible equal => class'.only other eligible (equal.trans class'.file))
  obtain ⟨_,last⟩ := SourceIndex.names_of_eligible named rooted class'.eligible same
  obtain ⟨content,read,decoded⟩ := class'.text
  have written := SourceIndex.written_of_eligible named class'.eligible same
  rw [class'.file] at found last
  refine ⟨below,same,found,LinePlacement.countsFromMethod_joined nonempty last,?_⟩
  rw [Path.within_joined root nonempty written,← same,Session.readLines_eq,read]
  simp only [decoded,Option.map_some]

theorem fileName_of_sameLetters {object : String} (class' : Location.ClassName name)
    (letters : SameLetters object.toList name.toList) :
    Layout.fileName "CLAS" object "abap" = name ++ ".clas.abap" := by
  have small : lower name = name := by
    rw [lower,lowerAfter_of_isLower,String.ofList_toList]
    exact fun c member => isLower_of_plain (class'.plain c member)
  have type : lower "CLAS" = "clas" := by decide
  rw [Layout.fileName,lower_eq_of_sameLetters letters,small,type]
  simp only [String.append_assoc]
  rfl

def Issue.PlacedAt (issue : Issue) (path : String) (line : Int) : Prop :=
  issue.toDatum.field? "location" = some (.table [("path",.text path),
    ("lines",.table [("begin",.int line),("end",.int line)])])

theorem Issue.placedAt (issue : Issue) : issue.PlacedAt issue.position.path issue.position.line := by
  rfl

theorem Issue.exists_ofAnswer (finding : Finding) (srcDir : String) (line : Int)
    {position : FilePosition} (short : position.line.natAbs < 10 ^ digitLimit) :
    ∃ issue, Issue.ofAnswer finding srcDir line (.found position) = .ok issue ∧
      issue.position = position := by
  have written : (Issue.positionOf (.found position) finding srcDir line).line.natAbs <
      10 ^ digitLimit := short
  obtain ⟨issue,made⟩ := Issue.exists_ofAnswer_iff.mpr written
  exact ⟨issue,made,Issue.position_ofAnswer made⟩

/-- A finding in a method of a class is placed in its line of the file: as far behind the METHOD
statement as its location says, whichever form that has and however names are written in it. The
number of that line has no more digits than can be written. -/
theorem Issue.ofFinding_placedAt (class' : ClassSource disk root srcDir extensions respectIgnore
      name names source) (named : disk.Named) (rooted : disk.isFolder root = true)
    (built : SourceIndex.build disk root srcDir extensions respectIgnore = .ok index)
    (className : Location.ClassName name)
    {method : List Char} {first last : Nat}
    (spans : MethodBlock.Spans (lines source) method first last)
    (foremost : ∀ other first' last', MethodBlock.Spans (lines source) other first' last' →
      first' < first → lower (String.ofList other) ≠ lower (String.ofList method))
    {line : Nat} (positive : 1 ≤ line) (short : first + line - 1 < 10 ^ digitLimit)
    {finding : Finding} (type : finding.objectType = "CLAS")
    (object : SameLetters finding.objectName.toList name.toList)
    {hint location : String} (located : finding.location = some location)
    (form : Location.Form name hint line location)
    (spells : Location.Spells hint.toList method)
    {session : Session} (reachable : Session.Reachable disk (some root) session)
    (reportDir : String) :
    ∃ below issue, (root.within (Path.ofString srcDir)).below names = root.below below ∧
      (Issue.ofFinding (Resolver.ofIndex index disk) reportDir finding session).1 = .ok issue ∧
      issue.PlacedAt (Path.joined below) (first + line - 1 : Nat) := by
  obtain ⟨below,same,found,counted,read⟩ := class'.lookup named rooted built
  obtain ⟨nonempty,proper⟩ := spans.proper
  obtain ⟨positive',_⟩ := spans.bounds
  obtain ⟨faithful,based⟩ := reachable.faithful
  have atLine : Location.startLine (finding.location.getD "") = .ok line := by
    rw [located,Option.getD_some]
    exact form.startLine_eq className spells proper positive (by omega)
  have hint' : Location.methodHint? (finding.location.getD "") =
      some (lower (String.ofList method)) := by
    rw [located,Option.getD_some]
    exact form.methodHint?_eq className spells proper nonempty
  have file : (Issue.queryOf finding line).file? index = some (Path.joined below) := by
    rw [Query.file?,Issue.queryOf,type,fileName_of_sameLetters className object]
    exact found
  have blocks : Session.readBlocks disk (session.fullPath (Path.joined below)) =
      .ok (some (MethodBlock.scan (lines source))) := by
    rw [Session.fullPath,based,Session.readBlocks,read]
    rfl
  have placed := LinePlacement.fileLine_of_spans spans foremost nonempty counted line
  have total : ((first : Int) + line - 1).natAbs < 10 ^ digitLimit := by omega
  obtain ⟨issue,made,position⟩ : ∃ issue, Issue.ofAnswer finding reportDir line
      (.found ⟨Path.joined below,first + line - 1⟩) = .ok issue ∧
      issue.position = ⟨Path.joined below,first + line - 1⟩ :=
    Issue.exists_ofAnswer finding reportDir line total
  refine ⟨below,issue,same,?_,?_⟩
  · rw [Issue.ofFinding_ofIndex _ _ _ atLine,Query.resolve_of_counted file counted,
      (faithful.blocksOf _).1,blocks,← made]
    simp only [Except.map,Answer.ofResult,Issue.queryOf,hint',placed]
  · have place := issue.placedAt
    rw [position] at place
    have number : ((first + line - 1 : Nat) : Int) = first + line - 1 := by omega
    rw [number]
    exact place

end

section Example
open Report

theorem target?_sampleFolder : sampleDisk.target? ⟨.root,["src"]⟩ = some (["src"],.folder) := by
  refine Disk.target?_eq_some_iff.mpr ⟨by decide,?_⟩
  change sampleDisk.walk true Disk.linkLimit [] ["src"] = _
  rw [Disk.walk_folder (by decide) rfl,Disk.walk]
  rfl

theorem target?_sampleRoot : sampleDisk.target? sampleRoot = some ([],.folder) := by
  refine Disk.target?_eq_some_iff.mpr ⟨by decide,?_⟩
  change sampleDisk.walk true Disk.linkLimit [] [] = _
  rw [Disk.walk]

theorem filesBelow_sampleFolder : sampleDisk.filesBelow ["src"] = [["zcl_a.clas.abap"]] := by
  decide

theorem classSource_sample : ClassSource sampleDisk sampleRoot "src" [".abap"] false "zcl_a"
    ["zcl_a.clas.abap"] sampleSource := by
  refine ⟨⟨⟨_,target?_sampleFolder,?_⟩,by decide,?_⟩,by decide,?_,?_⟩
  · rw [filesBelow_sampleFolder]
    exact List.mem_singleton_self _
  · intro root none
    cases none
  · intro other eligible _
    obtain ⟨address,reached,member⟩ := eligible.placed
    cases target?_sampleFolder.symm.trans reached
    rw [filesBelow_sampleFolder] at member
    exact List.mem_singleton.mp member
  · exact ⟨_,content_sampleFile,by decide +kernel⟩

theorem spans_sample : MethodBlock.Spans (lines sampleSource) "if_a~run".toList 2 4 := by
  refine ⟨by decide,by decide +kernel,?_,by decide +kernel⟩
  intro n above below line found
  obtain rfl : n = 3 := by omega
  have between : MethodBlock.line? (lines sampleSource) 3 = some "    EXIT.".toList := by
    decide +kernel
  rw [between] at found
  cases found
  exact ⟨by decide +kernel,by decide +kernel⟩

theorem foremost_sample : ∀ other first' last',
    MethodBlock.Spans (lines sampleSource) other first' last' → first' < 2 →
      lower (String.ofList other) ≠ lower (String.ofList "if_a~run".toList) := by
  intro other first' last' spans early
  obtain rfl : first' = 1 := by have := spans.bounds.1; omega
  have none : (MethodBlock.line? (lines sampleSource) 1).bind beginName? = none := by
    decide +kernel
  cases none.symm.trans spans.begins

theorem form_sample : Location.Form "zcl_a" "IF_A%7ERun" 2 sampleLocation :=
  .parameter

theorem spells_sample : Location.Spells "IF_A%7ERun".toList "if_a~run".toList :=
  .letter rfl (.letter rfl (.letter rfl (.letter rfl (.escape
    (.letter rfl (.letter rfl (.letter rfl .nil)))))))

theorem className_sample : Location.ClassName "zcl_a" :=
  ⟨by decide,List.all_iff_forall_prop.mp (by decide),by decide⟩

theorem sampleFinding_placedAt : ∃ index below issue,
    SourceIndex.build sampleDisk sampleRoot "src" [".abap"] false = .ok index ∧
    (sampleRoot.within (Path.ofString "src")).below ["zcl_a.clas.abap"] = sampleRoot.below below ∧
    (Issue.ofFinding (Resolver.ofIndex index sampleDisk) "src" sampleFinding
      { base := some sampleRoot }).1 = .ok issue ∧
    issue.PlacedAt (Path.joined below) 3 := by
  obtain ⟨index,built⟩ := SourceIndex.exists_build sampleDisk sampleRoot [".abap"]
    (show (Path.ofString "src").isAbsolute = false by decide)
  have type : sampleFinding.objectType = "CLAS" := rfl
  have object : SameLetters sampleFinding.objectName.toList "zcl_a".toList := by
    decide +kernel
  have located : sampleFinding.location = some sampleLocation := rfl
  have short : 2 + 2 - 1 < 10 ^ digitLimit :=
    Nat.lt_of_lt_of_le (show 2 + 2 - 1 < 10 ^ 1 by decide)
      (Nat.pow_le_pow_right (by decide) (by decide))
  obtain ⟨below,issue,same,made,placed⟩ := Issue.ofFinding_placedAt classSource_sample (by decide)
    (Disk.isFolder_iff.mpr ⟨_,target?_sampleRoot⟩) built className_sample spans_sample
    foremost_sample (by decide) short type object located form_sample spells_sample .fresh
    "src"
  exact ⟨index,below,issue,built,same,made,placed⟩

end Example

end AbapAtlas

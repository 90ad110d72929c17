import AbapAtlas.Command.Run
import AbapAtlas.Proofs.Answer
import AbapAtlas.Proofs.ReportedLine

/-! Looking an object up from the command line and reporting a finding on it tell the same position,
although the one is given the line and the method as they are and the other reads them off a
location. -/
namespace AbapAtlas
open Text

namespace LinePlacement

theorem named?_lower (name : String) : named? (some (lower name)) = named? (some name) := by
  funext blocks
  by_cases none : name = ""
  · subst none
    rfl
  · have some : lower name ≠ "" := lower_ne_empty none
    simp only [named?,if_neg none,if_neg some,lower_lower]

theorem fileLine_congr {hint hint' : Option String} (same : named? hint = named? hint')
    (line : Int) (path : String) (blocks : Option (List MethodBlock)) :
    fileLine line path blocks hint = fileLine line path blocks hint' := by
  simp only [fileLine,block?,same]

end LinePlacement

theorem Query.resolve_congr {hint hint' : Option String}
    (same : LinePlacement.named? hint = LinePlacement.named? hint') (type name : String)
    (line : Int) (index : SourceIndex) (disk : Disk) (session : Session) :
    resolve ⟨type,name,line,hint⟩ index disk session =
      resolve ⟨type,name,line,hint'⟩ index disk session := by
  simp only [resolve,resolveBy,file?,LinePlacement.fileLine_congr same]

namespace Location
open Percent

def ofMethod (method : String) (line : Int) : String :=
  "/methods/" ++ method ++ "#start=" ++ toString line

variable {method : String}

theorem notMem_of_isNameChar (proper : ∀ c ∈ method.toList, isNameChar c = true) {c : Char}
    (special : isNameChar c = false) : c ∉ method.toList := by
  intro member
  rw [proper c member] at special
  cases special

def signedDigits : List Char := "-0123456789".toList

theorem mem_signedDigits {n : Int} {c : Char} (member : c ∈ (toString n).toList) :
    c ∈ signedDigits := by
  have digit : ∀ k : Nat, c ∈ (toString k).toList → c ∈ signedDigits := by
    intro k inside
    have bounds : 48 ≤ c.toNat ∧ c.toNat ≤ 57 := by
      simpa [Char.isDigit,Char.le_def,UInt32.le_iff_toNat_le] using isDigit_of_mem_toString inside
    have all : ∀ d < 10, Char.ofNat (48 + d) ∈ signedDigits := by decide
    have own := all (c.toNat - 48) (by omega)
    rwa [show 48 + (c.toNat - 48) = c.toNat by omega,Char.ofNat_toNat] at own
  cases n with
  | ofNat k => exact digit k member
  | negSucc k =>
    have split : (toString (Int.negSucc k)).toList = '-' :: (toString (k + 1)).toList := by
      change ("-" ++ toString (k + 1)).toList = _
      rw [String.toList_append]
      rfl
    rw [split,List.mem_cons] at member
    rcases member with rfl | inside
    · decide
    · exact digit (k + 1) inside

theorem toList_ofMethod (method : String) (line : Int) :
    (ofMethod method line).toList = "/methods/".toList ++ (method.toList ++
      '#' :: ("start=".toList ++ (toString line).toList)) := by
  simp [ofMethod]

theorem firstAt_ofMethod (proper : ∀ c ∈ method.toList, isNameChar c = true) (line : Int) :
    firstAt startDigits? (ofMethod method line).toList =
      firstAt startDigits? ("start=".toList ++ (toString line).toList) := by
  have sign : Marked startDigits? 5 ('=' == ·) := startDigits?_marked rfl
  have split : (ofMethod method line).toList =
      ("/methods/".toList ++ (method.toList ++ ['#'])) ++
        ("start=".toList ++ (toString line).toList) := by
    rw [toList_ofMethod]
    simp
  rw [split,firstAt_append sign]
  intro c member
  rw [beq_eq_false_iff_ne]
  rintro rfl
  have absent := notMem_of_isNameChar proper (c := '=') (by decide)
  simp [absent] at member

theorem firstAt_negSucc (k : Nat) :
    firstAt startDigits? ("start=".toList ++ (toString (Int.negSucc k)).toList) = none := by
  have letter : Marked startDigits? 0 ('s' == ·) := startDigits?_marked rfl
  have head : startDigits? ("start=".toList ++ (toString (Int.negSucc k)).toList) = none := by
    have sign : run? isDigit (toString (Int.negSucc k)).toList = none := by
      change run? isDigit ("-" ++ toString (k + 1)).toList = none
      rw [String.toList_append]
      rfl
    rw [startDigits?,dropLiteral?_append _ _ _ (fun c _ => beq_self_eq_true c)]
    simp only [Option.bind_eq_bind,Option.bind_some,sign,Option.bind_none]
  rw [show "start=".toList = 's' :: "tart=".toList from rfl,List.cons_append] at head ⊢
  rw [firstAt_cons head]
  refine firstAt_eq_none letter _ fun c member => ?_
  have passed : ∀ c ∈ "tart=".toList ++ signedDigits, ('s' == c) = false :=
    List.all_iff_forall_prop.mp (by decide)
  exact passed c (List.mem_append.mpr ((List.mem_append.mp member).imp id mem_signedDigits))

/-- Lines before the first are read as the first. -/
theorem exists_startLine (proper : ∀ c ∈ method.toList, isNameChar c = true) {n : Int}
    (short : n.natAbs < 10 ^ digitLimit) :
    ∃ line : Nat, startLine (ofMethod method n) = .ok line ∧ (line : Int) = max n 1 := by
  rw [startLine,firstAt_ofMethod proper]
  cases n with
  | ofNat k =>
    have digits : startDigits? ("start=".toList ++ ((toString k).toList ++ [])) =
        some ((toString k).toList.filterMap digitValue?) := startDigits?_start (by simp)
    rw [List.append_nil] at digits
    have found : firstAt startDigits? ("start=".toList ++ (toString (Int.ofNat k)).toList) =
        some ((toString k).toList.filterMap digitValue?) := firstAt_of_head digits
    have short' : k < 10 ^ digitLimit := short
    rw [found]
    simp only [readDigits_toString short',Except.map]
    refine ⟨max 1 k,rfl,?_⟩
    rw [Int.ofNat_eq_natCast]
    omega
  | negSucc k =>
    -- Behind the sign no number is read, so the first line is taken.
    rw [firstAt_negSucc]
    refine ⟨1,rfl,?_⟩
    omega

theorem decode_ofMethod (proper : ∀ c ∈ method.toList, isNameChar c = true) (line : Int) :
    decode (ofMethod method line).toList = (ofMethod method line).toList := by
  have unescaped : '%' ∉ (ofMethod method line).toList := by
    have inside := notMem_of_isNameChar proper (c := '%') (by decide)
    have behind : '%' ∉ (toString line).toList := fun member =>
      absurd (mem_signedDigits member) (by decide)
    rw [toList_ofMethod]
    simp only [List.mem_append,List.mem_cons,inside,behind,or_false,false_or]
    decide
  have plain := decode_append unescaped []
  rwa [List.append_nil,show decode [] = [] from rfl,List.append_nil] at plain

theorem methodName?_ofMethod (proper : ∀ c ∈ method.toList, isNameChar c = true)
    (some : method ≠ "") (line : Int) :
    methodName? (ofMethod method line).toList = Option.some method.toList := by
  have nonempty : method.toList ≠ [] := fun empty => some (String.toList_eq_nil_iff.mp empty)
  have read : segmentName? (ofMethod method line).toList = Option.some method.toList := by
    rw [toList_ofMethod,segmentName?,
      dropLiteral?_append _ _ _ (List.all_iff_forall_prop.mp (by decide)),Option.bind_some]
    exact run?_append nonempty proper (by simp; decide)
  rw [methodName?,firstAt_of_head read]

/-- A location without a name in its methods segment has none elsewhere. -/
theorem methodName?_unnamed (line : Int) : methodName? (ofMethod "" line).toList = none := by
  have letter : Marked segmentName? 1 (isCaseOf 'm') := segmentName?_marked rfl
  have slash : Marked segmentName? 0 (isCaseOf '/') := segmentName?_marked rfl
  have head : segmentName? (ofMethod "" line).toList = none := by
    rw [toList_ofMethod,segmentName?,
      dropLiteral?_append _ _ _ (List.all_iff_forall_prop.mp (by decide)),Option.bind_some]
    rfl
  have whole : (ofMethod "" line).toList = "/methods/#start=".toList ++ (toString line).toList := by
    rw [toList_ofMethod]
    rfl
  have among : ∀ {text : String} {c : Char}, c ∈ text.toList ++ (toString line).toList →
      c ∈ text.toList ++ signedDigits := fun member =>
    List.mem_append.mpr ((List.mem_append.mp member).imp id mem_signedDigits)
  have segments : firstAt segmentName? (ofMethod "" line).toList = none := by
    have passed : ∀ c ∈ "ethods/#start=".toList ++ signedDigits, isCaseOf 'm' c = false :=
      List.all_iff_forall_prop.mp (by decide)
    have first : ∀ c ∈ ['m'], isCaseOf '/' c = false := List.all_iff_forall_prop.mp (by decide)
    have split : (ofMethod "" line).toList =
        '/' :: (['m'] ++ ("ethods/#start=".toList ++ (toString line).toList)) := whole
    rw [split] at head ⊢
    rw [firstAt_cons head,firstAt_append slash _ _ (by simpa using first)]
    exact firstAt_eq_none letter _ fun c member => passed c (among member)
  have parameters : firstAt parameterName? (ofMethod "" line).toList = none := by
    have passed : ∀ c ∈ "/methods/#start=".toList ++ signedDigits,
        (c == ';' || c == '?' || c == '&') = false := List.all_iff_forall_prop.mp (by decide)
    rw [whole]
    exact firstAt_eq_none parameterName?_marked _ fun c member => passed c (among member)
  rw [methodName?,segments]
  exact parameters

theorem named?_methodHint? (proper : ∀ c ∈ method.toList, isNameChar c = true) (line : Int) :
    LinePlacement.named? (methodHint? (ofMethod method line)) =
      LinePlacement.named? (some method) := by
  rw [methodHint?,decode_ofMethod proper]
  by_cases none : method = ""
  · subst none
    rw [methodName?_unnamed]
    rfl
  · rw [methodName?_ofMethod proper none,Option.map_some,String.ofList_toList]
    exact LinePlacement.named?_lower method

end Location

namespace Command
variable {disk : Disk} {root : Path} {settings : Settings} {index : SourceIndex}
  {finding : Finding} {session : Session}

theorem locate_show (homes : Homes) (argument : String) (type name : String) (line : Int)
    (method : Option String) (built : Publication.indexOf disk root settings = .ok index)
    {answer : Option FilePosition}
    (resolved : ((Query.mk type name (max line 1) method).resolve index disk
      { base := some root }).1 = .ok answer) :
    (runIn disk homes root settings (.locate type (some name) argument line method)).2 =
      showPosition settings type name answer := by
  rw [runIn,locate,built]
  simp only [Except.mapError,bind,Except.bind,resolved]

theorem locate_unindexed (homes : Homes) (argument : String) (type name : String) (line : Int)
    (method : Option String) {fault : SourceIndex.Fault}
    (broken : Publication.indexOf disk root settings = .error fault) :
    (runIn disk homes root settings (.locate type (some name) argument line method)).2 =
      .error (.index fault) := by
  rw [runIn,locate,broken]
  rfl

/-- That a report of a repository has an issue for a finding, and whether the finding is located
there or lies in its fallback file. -/
def Reports (disk : Disk) (root : Path) (settings : Settings) (session : Session)
    (finding : Finding) (located : Bool) (issue : Issue) : Prop :=
  ∃ index, Publication.indexOf disk root settings = .ok index ∧
    (Issue.ofFinding (Resolver.ofIndex index disk) settings.srcDir finding session).1 = .ok issue ∧
    Issue.located (Resolver.ofIndex index disk) finding session = located

theorem reports_iff (built : Publication.indexOf disk root settings = .ok index) {located : Bool}
    {issue : Issue} : Reports disk root settings session finding located issue ↔
      (Issue.ofFinding (Resolver.ofIndex index disk) settings.srcDir finding session).1 =
        .ok issue ∧
      Issue.located (Resolver.ofIndex index disk) finding session = located := by
  constructor
  · rintro ⟨other,again,reported⟩
    cases built.symm.trans again
    exact reported
  · exact fun reported => ⟨index,built,reported⟩

def positionText (position : FilePosition) : String :=
  position.path ++ ":" ++ toString position.line

section
variable {method : String} {n : Int}

theorem resolve_ofMethod (proper : ∀ c ∈ method.toList, isNameChar c = true)
    (location : finding.location = some (Location.ofMethod method n)) {line : Nat}
    (clamped : (line : Int) = max n 1) (index : SourceIndex)
    (reachable : Session.Reachable disk (some root) session) :
    ((Issue.queryOf finding line).resolve index disk session).1 =
      ((Query.mk finding.objectType finding.objectName (max n 1) (some method)).resolve index disk
        { base := some root }).1 := by
  obtain ⟨faithful,based⟩ := reachable.faithful
  have hints := Location.named?_methodHint? proper n
  rw [Query.resolve_eq _ index faithful,based,Issue.queryOf,location,Option.getD_some,clamped,
    Query.resolve_congr hints]

/-- The three ways that the command and the report of a finding can end, always together. -/
theorem locate_cases (named : disk.Named)
    (built : Publication.indexOf disk root settings = .ok index)
    (reachable : Session.Reachable disk (some root) session)
    (proper : ∀ c ∈ method.toList, isNameChar c = true) (short : n.natAbs < 10 ^ digitLimit)
    (location : finding.location = some (Location.ofMethod method n)) (homes : Homes)
    (argument : String) :
    let outcome := (runIn disk homes root settings
      (.locate finding.objectType (some finding.objectName) argument n (some method))).2
    let made := (Issue.ofFinding (Resolver.ofIndex index disk) settings.srcDir finding session).1
    let located := Issue.located (Resolver.ofIndex index disk) finding session
    (∃ error, outcome = .error (.numeral error) ∧ made = .error error) ∨
    (∃ issue, made = .ok issue ∧ located = true ∧
      outcome = .ok (say (positionText issue.position))) ∨
    ∃ issue, made = .ok issue ∧ located = false ∧
      issue.position = ⟨Issue.fallbackPath finding.objectType finding.objectName settings.srcDir,
        max n 1⟩ ∧
      outcome = showPosition settings finding.objectType finding.objectName none := by
  intro outcome made located
  obtain ⟨line,read,clamped⟩ := Location.exists_startLine proper short
  have read' : Location.startLine (finding.location.getD "") = .ok line := by
    rw [location,Option.getD_some]
    exact read
  -- Both ask for the same block and line, so the answer decides on both.
  obtain ⟨answer,resolved,_⟩ := Query.exists_resolve named built
    ⟨finding.objectType,finding.objectName,max n 1,some method⟩
  have same := (resolve_ofMethod proper location clamped index reachable).trans resolved
  have shown : outcome = showPosition settings finding.objectType finding.objectName answer :=
    locate_show homes argument _ _ n (some method) built resolved
  have reported : made = Issue.ofAnswer finding settings.srcDir line (.ofResult (.ok answer)) := by
    rw [← same]
    change (Issue.ofFinding _ _ _ _).1 = _
    rw [Issue.ofFinding_ofIndex _ _ _ read']
  have told : located = answer.isSome := by
    change Issue.located _ _ _ = _
    rw [Issue.located,read']
    simp only [Resolver.ofIndex_eq,same]
    cases answer <;> rfl
  cases answer with
  | none =>
    have small : (Issue.positionOf .unknown finding settings.srcDir line).line.natAbs <
        10 ^ digitLimit := Location.startLine_lt read'
    obtain ⟨issue,fallback⟩ := Issue.exists_ofAnswer_iff.mpr small
    have position := Issue.position_ofAnswer fallback
    simp only [Issue.positionOf,clamped] at position
    exact Or.inr (Or.inr ⟨issue,reported.trans fallback,told,position,shown⟩)
  | some position =>
    rw [showPosition] at shown
    cases written : writeInt position.line with
    | error error =>
      rw [written] at shown
      refine Or.inl ⟨error,shown,reported.trans ?_⟩
      rw [Issue.ofAnswer,Issue.fingerprintOf]
      simp only [Answer.ofResult,Issue.positionOf,written]
      rfl
    | ok digits =>
      have small : (Issue.positionOf (.found position) finding settings.srcDir line).line.natAbs <
          10 ^ digitLimit := lt_of_writeInt written
      obtain ⟨issue,found⟩ := Issue.exists_ofAnswer_iff.mpr small
      rw [writeInt_eq (lt_of_writeInt written)] at shown
      refine Or.inr (Or.inl ⟨issue,reported.trans found,told,?_⟩)
      rw [Issue.position_ofAnswer found]
      exact shown

end

theorem say_inj {text other : String} (same : say text = say other) : text = other := by
  have printed : text ++ "\n" = other ++ "\n" := congrArg Outcome.out same
  rw [← String.toList_inj,String.toList_append,String.toList_append] at printed
  exact String.toList_inj.mp (List.append_cancel_right printed)

theorem say_ne_notFound (settings : Settings) (type name text : String) :
    (.ok (say text) : Except Failure Outcome) ≠ showPosition settings type name none := by
  intro same
  cases congrArg Outcome.exit (Except.ok.inj same)

/-- Where a report locates a finding, the command prints the same position; and it finds nothing
exactly where the report falls back, whatever integer the line is. -/
theorem locate_as_reported (named : disk.Named)
    (reachable : Session.Reachable disk (some root) session) {method : String}
    (proper : ∀ c ∈ method.toList, isNameChar c = true) {n : Int}
    (short : n.natAbs < 10 ^ digitLimit)
    (location : finding.location = some (Location.ofMethod method n)) (settings : Settings)
    (homes : Homes) (argument : String) :
    let outcome := (runIn disk homes root settings
      (.locate finding.objectType (some finding.objectName) argument n (some method))).2
    let notFound := showPosition settings finding.objectType finding.objectName none
    (∀ text, outcome = .ok (say text) ↔
      ∃ issue, Reports disk root settings session finding true issue ∧
        text = positionText issue.position) ∧
    (outcome = notFound ↔ ∃ issue, Reports disk root settings session finding false issue) ∧
    (∀ shown, outcome = .ok shown → (∃ text, shown = say text) ∨ outcome = notFound) ∧
    ∀ issue, Reports disk root settings session finding false issue → issue.position =
      ⟨Issue.fallbackPath finding.objectType finding.objectName settings.srcDir,max n 1⟩ := by
  intro outcome notFound
  cases built : Publication.indexOf disk root settings with
  | error fault =>
    have broken : outcome = .error (.index fault) := locate_unindexed homes argument _ _ n _ built
    have none : ∀ located issue, ¬ Reports disk root settings session finding located issue := by
      rintro located issue ⟨index,indexed,_⟩
      cases built.symm.trans indexed
    simp [broken,none,notFound,showPosition]
  | ok index =>
    simp only [reports_iff built]
    obtain ⟨error,ended,made⟩ | ⟨issue,made,located,ended⟩ | ⟨issue,made,located,there,ended⟩ :=
      locate_cases named built reachable proper short location homes argument
    · simp [outcome,notFound,ended,made,showPosition]
    · refine ⟨fun text => ⟨?_,?_⟩,⟨?_,?_⟩,?_,?_⟩
      · intro printed
        exact ⟨issue,⟨made,located⟩,(say_inj (Except.ok.inj (ended.symm.trans printed))).symm⟩
      · rintro ⟨other,⟨made',_⟩,rfl⟩
        cases made.symm.trans made'
        exact ended
      · intro missed
        exact absurd (ended.symm.trans missed) (say_ne_notFound _ _ _ _)
      · rintro ⟨other,_,missed⟩
        cases located.symm.trans missed
      · intro shown printed
        exact Or.inl ⟨_,Except.ok.inj (printed.symm.trans ended)⟩
      · rintro other ⟨_,missed⟩
        cases located.symm.trans missed
    · refine ⟨fun text => ⟨?_,?_⟩,⟨?_,?_⟩,?_,?_⟩
      · intro printed
        exact absurd (printed.symm.trans ended) (say_ne_notFound _ _ _ _)
      · rintro ⟨other,⟨_,found⟩,_⟩
        cases located.symm.trans found
      · intro _
        exact ⟨issue,made,located⟩
      · intro _
        exact ended
      · intro shown _
        exact Or.inr ended
      · rintro other ⟨made',_⟩
        cases made.symm.trans made'
        exact there

section Example
open Report

def plainSettings : Settings := { respectIgnore := false }

theorem indexOf_sample :
    Publication.indexOf sampleDisk sampleRoot plainSettings = .ok sampleIndex := by
  have folder : sampleRoot.within (Path.ofString "src") = ⟨.root,["src"]⟩ := by decide +kernel
  have present : sampleDisk.isFolder ⟨.root,["src"]⟩ = true :=
    Disk.isFolder_iff.mpr ⟨_,target?_sampleFolder⟩
  have found : SourceFiles.find sampleDisk ⟨.root,["src"]⟩ SourceFiles.defaultExtensions
      (fun _ => false) = [["zcl_a.clas.abap"]] := by
    have wanted : SourceFiles.hasExtension SourceFiles.defaultExtensions "zcl_a.clas.abap" =
        true := by decide +kernel
    rw [SourceFiles.find,SourceFiles.candidates,target?_sampleFolder]
    simp [filesBelow_sampleFolder,wanted]
  have placed : SourceIndex.repositoryNames sampleRoot ⟨.root,["src"]⟩ [["zcl_a.clas.abap"]] =
      .ok [["src","zcl_a.clas.abap"]] := by decide +kernel
  change SourceIndex.build sampleDisk sampleRoot "src" SourceFiles.defaultExtensions false = _
  rw [SourceIndex.build_eq,folder,if_pos present]
  simp only [Bool.false_eq_true,if_false,SourceFiles.findUnder,found,Except.mapError,bind,
    Except.bind,placed]
  decide +kernel

def earlyFinding : Finding :=
  { sampleFinding with location := some (Location.ofMethod "IF_A~RUN" (-7)) }

def earlyIssue : Issue :=
  { sampleIssue with
    fingerprint := "C-Zcl_A-2"
    position := ⟨"src/zcl_a.clas.abap",2⟩
    location := some (Location.ofMethod "IF_A~RUN" (-7)) }

theorem reports_earlyFinding : Reports sampleDisk sampleRoot plainSettings
    { base := some sampleRoot } earlyFinding true earlyIssue := by
  have read : Location.startLine (earlyFinding.location.getD "") = .ok 1 := by decide +kernel
  have file : (Issue.queryOf earlyFinding (1 : Nat)).file? sampleIndex =
      some "src/zcl_a.clas.abap" := by decide +kernel
  have counted : LinePlacement.countsFromMethod "src/zcl_a.clas.abap" = true := by decide +kernel
  have place : Session.fullPath { base := some sampleRoot } "src/zcl_a.clas.abap" = sampleFile := by
    decide
  have blocks : Session.readBlocks sampleDisk sampleFile = .ok (some [⟨"if_a~run",2,3⟩]) := by
    rw [Session.readBlocks,Session.readLines_eq,content_sampleFile]
    decide +kernel
  refine ⟨sampleIndex,indexOf_sample,?_,?_⟩
  · refine (alone_of_counted sampleDisk "src" { base := some sampleRoot } read file
      counted).trans ?_
    rw [place,blocks]
    decide +kernel
  · rw [Issue.located_eq (by decide) indexOf_sample read]
    decide +kernel

theorem locate_before_first_line :
    (runIn sampleDisk [] sampleRoot plainSettings
      (.locate "CLAS" (some "Zcl_A") "." (-7) (some "IF_A~RUN"))).2 =
        .ok (say "src/zcl_a.clas.abap:2") := by
  have named : sampleDisk.Named := by decide
  have proper : ∀ c ∈ "IF_A~RUN".toList, isNameChar c = true :=
    List.all_iff_forall_prop.mp (by decide)
  have short : (-7 : Int).natAbs < 10 ^ digitLimit :=
    Nat.lt_of_lt_of_le (show 7 < 10 ^ 1 by decide) (Nat.pow_le_pow_right (by decide) (by decide))
  have location : earlyFinding.location = some (Location.ofMethod "IF_A~RUN" (-7)) := rfl
  obtain ⟨printed,_⟩ :=
    locate_as_reported named .fresh proper short location plainSettings [] "."
  exact (printed _).mpr ⟨earlyIssue,reports_earlyFinding,by decide +kernel⟩

end Example
end Command
end AbapAtlas

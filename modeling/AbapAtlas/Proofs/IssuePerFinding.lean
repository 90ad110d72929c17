import AbapAtlas.Proofs.Location
import AbapAtlas.Proofs.Report
import AbapAtlas.Proofs.SourceIndex

/-! What can keep a report from being made. Whatever resolvers answer, and also where they fail,
every finding gets its issue; only numbers that are too long to be read or written stop a batch. -/
namespace AbapAtlas
open Text

namespace Location

theorem lt_of_mem_startDigits? {text : List Char} {digits : List Nat}
    (read : startDigits? text = some digits) : ∀ digit ∈ digits, digit < 10 := by
  simp only [startDigits?,Option.bind_eq_bind,Option.bind_eq_some_iff] at read
  obtain ⟨rest,_,run,_,same⟩ := read
  cases same
  intro digit member
  obtain ⟨c,_,value⟩ := List.mem_filterMap.mp member
  exact digitValue?_lt value

def Readable (location : String) : Prop :=
  ∀ digits, firstAt startDigits? location.toList = some digits → digits.length ≤ digitLimit

theorem exists_startLine_iff {location : String} :
    (∃ line, startLine location = .ok line) ↔ Readable location := by
  rw [startLine]
  cases found : firstAt startDigits? location.toList with
  | none => simp [Readable,found]
  | some digits =>
    have readable : Readable location ↔ digits.length ≤ digitLimit := by
      simp [Readable,found]
    rw [readable]
    by_cases short : digits.length ≤ digitLimit
    · simp only [readDigits,short,if_true,iff_true]
      exact ⟨_,rfl⟩
    · simp only [readDigits,short,if_false,iff_false]
      rintro ⟨line,read⟩
      cases read

/-- A line that can be read can also be written. -/
theorem startLine_lt {location : String} {line : Nat} (read : startLine location = .ok line) :
    line < 10 ^ digitLimit := by
  have one : 1 < 10 ^ digitLimit := Nat.one_lt_pow (by decide) (by decide)
  rw [startLine] at read
  split at read
  · cases read
    exact one
  · next digits found =>
    obtain ⟨rest,there⟩ := exists_of_firstAt found
    cases value : readDigits digits with
    | error error => rw [value] at read; cases read
    | ok n =>
      rw [value] at read
      cases read
      exact Nat.max_lt.mpr ⟨one,readDigits_lt (lt_of_mem_startDigits? there) value⟩

end Location

namespace Issue

theorem exists_ofAnswer_iff {finding : Finding} {srcDir : String} {line : Int} {answer : Answer} :
    (∃ issue, ofAnswer finding srcDir line answer = .ok issue) ↔
      (positionOf answer finding srcDir line).line.natAbs < 10 ^ digitLimit := by
  rw [ofAnswer,fingerprintOf]
  constructor
  · rintro ⟨issue,made⟩
    cases written : writeInt (positionOf answer finding srcDir line).line with
    | error error => rw [written] at made; cases made
    | ok text => exact lt_of_writeInt written
  · intro short
    rw [writeInt_eq short]
    exact ⟨_,rfl⟩

/-- The line that a finding names can be written, so only a line that is found can be too long. -/
theorem writable_iff {finding : Finding} {srcDir : String} {line : Nat} {answer : Answer}
    (short : line < 10 ^ digitLimit) :
    (positionOf answer finding srcDir line).line.natAbs < 10 ^ digitLimit ↔
      ∀ position, answer = .found position → position.line.natAbs < 10 ^ digitLimit := by
  cases answer with
  | found position => simp only [positionOf,Answer.found.injEq,forall_eq']
  | unknown | failed =>
    simp only [positionOf,Int.natAbs_natCast,short,reduceCtorEq,false_implies,implies_true]

theorem position_ofAnswer {finding : Finding} {srcDir : String} {line : Int} {answer : Answer}
    {issue : Issue} (made : ofAnswer finding srcDir line answer = .ok issue) :
    issue.position = positionOf answer finding srcDir line := by
  rw [ofAnswer,fingerprintOf] at made
  cases written : writeInt (positionOf answer finding srcDir line).line with
  | error error => rw [written] at made; cases made
  | ok text =>
    rw [written] at made
    cases made
    rfl

section
variable {σ : Type} (resolver : Resolver σ) (srcDir : String) (finding : Finding) (memory : σ)

/-- Where an issue lies: where the resolver finds its finding or, if it finds nothing or fails, in
the fallback file, in the line that the finding names. -/
inductive LocatedBy (issue : Issue) : Prop where
  | resolved {line : Nat} {position : FilePosition}
      (read : Location.startLine (finding.location.getD "") = .ok line)
      (answer : (resolver (queryOf finding line) memory).1 = .found position)
      (there : issue.position = position)
  | fallback {line : Nat} (read : Location.startLine (finding.location.getD "") = .ok line)
      (answer : (resolver (queryOf finding line) memory).1 = .unknown ∨
        (resolver (queryOf finding line) memory).1 = .failed)
      (there : issue.position =
        ⟨fallbackPath finding.objectType finding.objectName srcDir,line⟩)

/-- That no number stands in the way of an issue: neither that of the finding's start mark nor that
of the line where a resolver finds it. -/
structure Reportable : Prop where
  readable : Location.Readable (finding.location.getD "")
  writable : ∀ line position, Location.startLine (finding.location.getD "") = .ok line →
    (resolver (queryOf finding line) memory).1 = .found position →
      position.line.natAbs < 10 ^ digitLimit

variable {resolver srcDir finding memory}

/-- A finding has an issue just if no number stands in its way. -/
theorem exists_ofFinding_iff :
    (∃ issue, (ofFinding resolver srcDir finding memory).1 = .ok issue) ↔
      Reportable resolver finding memory := by
  cases read : Location.startLine (finding.location.getD "") with
  | error error =>
    rw [ofFinding_of_error _ _ read]
    constructor
    · rintro ⟨issue,made⟩
      cases made
    · rintro ⟨readable,_⟩
      obtain ⟨line,again⟩ := Location.exists_startLine_iff.mpr readable
      cases read.symm.trans again
  | ok line =>
    rw [ofFinding_of_line _ _ read,exists_ofAnswer_iff,writable_iff (Location.startLine_lt read)]
    constructor
    · intro writable
      refine ⟨Location.exists_startLine_iff.mp ⟨line,read⟩,?_⟩
      intro line' position read' answer
      cases read.symm.trans read'
      exact writable position answer
    · rintro ⟨_,writable⟩ position answer
      exact writable line position read answer

theorem locatedBy_of_ofFinding {issue : Issue}
    (made : (ofFinding resolver srcDir finding memory).1 = .ok issue) :
    LocatedBy resolver srcDir finding memory issue := by
  cases read : Location.startLine (finding.location.getD "") with
  | error error =>
    rw [ofFinding_of_error _ _ read] at made
    cases made
  | ok line =>
    rw [ofFinding_of_line _ _ read] at made
    dsimp only at made
    have there := position_ofAnswer made
    cases answer : (resolver (queryOf finding line) memory).1 with
    | found position =>
      rw [answer] at there
      exact .resolved read answer there
    | unknown =>
      rw [answer] at there
      exact .fallback read (Or.inl answer) there
    | failed =>
      rw [answer] at there
      exact .fallback read (Or.inr answer) there

end
end Issue

namespace Report
variable {σ : Type} (resolver : Resolver σ) (srcDir : String)

def calls : List Finding → σ → List (Finding × σ)
  | [], _ => []
  | finding :: rest, memory =>
    (finding,memory) :: calls rest (Issue.ofFinding resolver srcDir finding memory).2

theorem map_fst_calls (findings : List Finding) (memory : σ) :
    (calls resolver srcDir findings memory).map Prod.fst = findings := by
  induction findings generalizing memory with
  | nil => rfl
  | cons finding rest ih => rw [calls,List.map_cons,ih]

theorem outcomes_eq_map (findings : List Finding) (memory : σ) :
    (outcomes resolver srcDir findings memory).1 =
      (calls resolver srcDir findings memory).map fun call =>
        (Issue.ofFinding resolver srcDir call.1 call.2).1 := by
  induction findings generalizing memory with
  | nil => rfl
  | cons finding rest ih => rw [outcomes,calls,List.map_cons,← ih]

/-- That calls for findings come out as a list of issues: one for each call, in order, and where the
resolver or else the fallback puts it. -/
def Reports (seen : List (Finding × σ)) (result : Except NumeralError (List Issue)) : Prop :=
  ∃ made, result = .ok made ∧
    List.Forall₂ (fun call issue => Issue.LocatedBy resolver srcDir call.1 call.2 issue) seen made

/-- Whatever a resolver remembers at each call, findings have an issue each if and only if no
number stands in the way of one of them. -/
theorem reports_mapM_iff (seen : List (Finding × σ)) :
    Reports resolver srcDir seen
        (seen.mapM fun call => (Issue.ofFinding resolver srcDir call.1 call.2).1) ↔
      ∀ call ∈ seen, Issue.Reportable resolver call.1 call.2 := by
  constructor
  · rintro ⟨made,mapped,_⟩ call member
    obtain ⟨issue,_,alone⟩ := exists_right_of_mem (mapM_ok mapped) member
    exact Issue.exists_ofFinding_iff.mp ⟨issue,alone⟩
  · intro reportable
    have each : ∀ call ∈ seen, ∃ issue,
        (Issue.ofFinding resolver srcDir call.1 call.2).1 = .ok issue := fun call member =>
      Issue.exists_ofFinding_iff.mpr (reportable call member)
    obtain ⟨made,mapped⟩ := exists_mapM_ok each
    exact ⟨made,mapped,(mapM_ok mapped).imp fun _ _ => Issue.locatedBy_of_ofFinding⟩

/-- A report comes back with one issue for each finding, in order and each where the resolver or
else the fallback puts it, if and only if no number is too long. The same is so of the outcomes of
workers that call the resolver in another order, whatever it remembers at each call. -/
theorem issue_of_each_finding_iff (maxWorkers : Int) (findings : List Finding) (memory : σ) :
    (calls resolver srcDir findings memory).map Prod.fst = findings ∧
    (Reports resolver srcDir (calls resolver srcDir findings memory)
        (issues resolver srcDir maxWorkers findings memory).1 ↔
      ∀ call ∈ calls resolver srcDir findings memory,
        Issue.Reportable resolver call.1 call.2) ∧
    ∀ seen : List (Finding × σ),
      Reports resolver srcDir seen
          ((seen.map fun call => (Issue.ofFinding resolver srcDir call.1 call.2).1).mapM id) ↔
        ∀ call ∈ seen, Issue.Reportable resolver call.1 call.2 := by
  refine ⟨map_fst_calls resolver srcDir findings memory,?_,fun seen => ?_⟩
  · rw [issues_eq_mapM,outcomes_eq_map,List.mapM_map]
    exact reports_mapM_iff resolver srcDir _
  · rw [List.mapM_map]
    exact reports_mapM_iff resolver srcDir seen

section Example

def locationOf (digits : List Char) : String := String.ofList ('#' :: ("start=".toList ++ digits))

theorem startLine_locationOf {run : List Char} (nonempty : run ≠ [])
    (digits : ∀ c ∈ run, isDigit c = true) :
    Location.startLine (locationOf run) =
      (readDigits (run.filterMap digitValue?)).map (max 1) := by
  have letter : Marked Location.startDigits? 0 ('s' == ·) := Location.startDigits?_marked rfl
  have found : firstAt Location.startDigits? (locationOf run).toList =
      some (run.filterMap digitValue?) := by
    have stops : ∀ c ∈ ([] : List Char).head?, isDigit c = false := by simp
    have head := Location.startDigits?_append nonempty digits stops
    rw [List.append_nil] at head
    have letters : (locationOf run).toList = ['#'] ++ ("start=".toList ++ run) :=
      String.toList_ofList
    rw [letters,firstAt_append letter,firstAt_of_head head]
    rw [List.take_zero,List.append_nil]
    intro c member
    rw [List.mem_singleton.mp member]
    rfl
  rw [Location.startLine,found]

def paddedFive : List Char := List.replicate digitLimit '0' ++ ['5']

theorem startLine_paddedFive :
    Location.startLine (locationOf paddedFive) = .error (.tooLongToRead (digitLimit + 1)) := by
  have digits : ∀ c ∈ paddedFive, isDigit c = true := by
    intro c member
    rcases List.mem_append.mp member with zero | five
    · rw [List.eq_of_mem_replicate zero]
      decide
    · rw [List.mem_singleton.mp five]
      decide
  have length : (paddedFive.filterMap digitValue?).length = digitLimit + 1 := by
    have zero : digitValue? '0' = some 0 := by decide
    have five : digitValue? '5' = some 5 := by decide
    rw [paddedFive,List.filterMap_append,List.filterMap_replicate_of_some zero,
      List.filterMap_cons_some five,List.length_append,List.length_replicate]
    rfl
  have nonempty : paddedFive ≠ [] :=
    List.append_ne_nil_of_right_ne_nil _ (List.cons_ne_nil _ _)
  rw [startLine_locationOf nonempty digits,readDigits,length,if_neg (by omega)]
  rfl

def unplacedFinding : Finding where
  checkId := "C"
  checkTitle := ""
  messageId := none
  priority := 1
  messageText := ""
  objectUri := none
  objectType := "CLAS"
  objectName := "ZCL_A"
  location := none
  findingUri := none

def paddedFinding : Finding :=
  { unplacedFinding with objectName := "ZCL_B", location := some (locationOf paddedFive) }

/-- One finding whose line has too many digits stops the report on another one. -/
theorem padded_start_stops_report : ¬ ∃ made,
    (issues Resolver.blind "src" defaultMaxWorkers [unplacedFinding,paddedFinding] ()).1 =
      .ok made := by
  rintro ⟨made,result⟩
  rw [issues_eq_mapM,outcomes_eq_map,List.mapM_map] at result
  have listed : paddedFinding ∈
      (calls Resolver.blind "src" [unplacedFinding,paddedFinding] ()).map Prod.fst := by
    rw [map_fst_calls]
    exact List.mem_cons_of_mem _ List.mem_cons_self
  obtain ⟨call,member,same⟩ := List.mem_map.mp listed
  obtain ⟨issue,_,fine⟩ := exists_right_of_mem (mapM_ok result) member
  have read : Location.startLine (call.1.location.getD "") =
      .error (.tooLongToRead (digitLimit + 1)) := by
    rw [same]
    exact startLine_paddedFive
  rw [Function.comp_apply,Issue.ofFinding_of_error _ _ read] at fine
  cases fine

end Example

end Report
end AbapAtlas

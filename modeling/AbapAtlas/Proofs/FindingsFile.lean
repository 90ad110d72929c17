import AbapAtlas.FindingsFile
import AbapAtlas.Proofs.Checked
import AbapAtlas.Proofs.StoredRecords

/-! The two shapes of a findings file. A bare list of findings and a record that has nothing but that
list are loaded as the same run, and both are refused if one of the findings is. -/
namespace AbapAtlas

namespace FindingsFile
open Datum
variable {items : List Datum} {findings : List Finding}

def findingsAlone (items : List Datum) : Datum := .table [("findings",.list items)]

theorem checkEach_passed_iff :
    checkEach items = .passed findings ↔ Validates Finding.check items findings := by
  induction items generalizing findings with
  | nil =>
    rw [Validates,List.forall₂_nil_left_iff,checkEach,Checked.passed.injEq]
    exact eq_comm
  | cons item rest ih =>
    simp only [checkEach,Checked.andThen_passed_iff,Checked.map_passed_iff,ih]
    constructor
    · rintro ⟨first,head,later,tail,rfl⟩
      exact .cons head tail
    · intro validated
      cases validated with
      | cons head tail => exact ⟨_,head,_,tail,rfl⟩

theorem check_findingsAlone (items : List Datum) :
    CheckRun.check (findingsAlone items) =
      ((checkItems Finding.check 0 items).at' (.field "findings")).map
        fun findings => ⟨"",0,0,0,0,findings⟩ := by
  have check : CheckRun.check (findingsAlone items) =
      (Checked.passed fun findings => (⟨"",0,0,0,0,findings⟩ : CheckRun)).also
        ((checkItems Finding.check 0 items).at' (.field "findings")) := rfl
  rw [check]
  cases checkItems Finding.check 0 items <;> rfl

theorem load_of_contains {disk : Disk} {path : Path} {document : Datum}
    (stored : disk.Contains path document) : load disk path = ofDatum path document := by
  obtain ⟨content,found,read⟩ := stored
  simp only [load,found,read]

theorem counted_uncounted (findings : List Finding) :
    counted ⟨"",0,0,0,0,findings⟩ = runOf findings := rfl

section
variable (path : Path)

theorem ofDatum_list_of_validates (validated : Validates Finding.check items findings) :
    ofDatum path (.list items) = .ok (runOf findings) := by
  simp only [ofDatum,checkEach_passed_iff.mpr validated]

theorem ofDatum_findingsAlone_of_validates (validated : Validates Finding.check items findings) :
    ofDatum path (findingsAlone items) = .ok (runOf findings) := by
  have passed : CheckRun.check (findingsAlone items) = .passed ⟨"",0,0,0,0,findings⟩ := by
    rw [check_findingsAlone,(checkItems_passed_iff Finding.check 0).mpr validated]
    rfl
  rw [findingsAlone] at passed ⊢
  simp only [ofDatum,passed,counted_uncounted]

theorem ofDatum_list_of_refused (refused : ∀ findings, ¬ Validates Finding.check items findings) :
    ∃ faults, ofDatum path (.list items) = .error (.invalid path Finding.recordName faults) := by
  cases checked : checkEach items with
  | passed findings => exact absurd (checkEach_passed_iff.mp checked) (refused findings)
  | failed faults => exact ⟨faults,by simp only [ofDatum,checked]⟩

theorem ofDatum_findingsAlone_of_refused
    (refused : ∀ findings, ¬ Validates Finding.check items findings) :
    ∃ faults, ofDatum path (findingsAlone items) =
      .error (.invalid path CheckRun.recordName faults) := by
  cases checked : checkItems Finding.check 0 items with
  | passed findings =>
    exact absurd ((checkItems_passed_iff Finding.check 0).mp checked) (refused findings)
  | failed faults =>
    have failed := check_findingsAlone items
    rw [checked] at failed
    rw [findingsAlone] at failed ⊢
    exact ⟨_,by rw [ofDatum,failed]; rfl⟩

end

/-- A file with a list of findings and a file with the record of that list alone are both loaded, as
one run that has the validated findings in their order and their number, if every finding in the
list passes its check. Else both are refused for what they contain. -/
theorem load_alike {disk disk' : Disk} {bare record : Path}
    (list : disk.Contains bare (.list items))
    (alone : disk'.Contains record (findingsAlone items)) :
    ((∀ item ∈ items, ∃ finding, Finding.check item = .passed finding) →
      ∃ run, load disk bare = .ok run ∧ load disk' record = .ok run ∧
        Validates Finding.check items run.findings ∧ run.totalFindings = items.length) ∧
    ((¬ ∀ item ∈ items, ∃ finding, Finding.check item = .passed finding) →
      (∃ faults, load disk bare = .error (.invalid bare Finding.recordName faults)) ∧
      ∃ faults, load disk' record = .error (.invalid record CheckRun.recordName faults)) := by
  rw [load_of_contains list,load_of_contains alone,← exists_validates_iff]
  constructor
  · rintro ⟨findings,validated⟩
    refine ⟨runOf findings,ofDatum_list_of_validates bare validated,
      ofDatum_findingsAlone_of_validates record validated,validated,?_⟩
    rw [runOf,validated.length_eq]
  · intro refused
    have none := not_exists.mp refused
    exact ⟨ofDatum_list_of_refused bare none,ofDatum_findingsAlone_of_refused record none⟩

section Example
open Json

def priorityItem : Datum :=
  .table [("checkId",.text "C"),("priority",.text "2"),("objectType",.text "CLAS"),
    ("objectName",.text "ZCL_A")]

def priorityFinding : Finding := ⟨"C","",none,2,"",none,"CLAS","ZCL_A",none,none⟩

def twoShapes : Disk where
  entries := [(["bare.json"],.file (write (.list [priorityItem])).toUTF8),
    (["record.json"],.file (write (findingsAlone [priorityItem])).toUTF8)]

def bareFile : Path := ⟨.root,["bare.json"]⟩

def recordFile : Path := ⟨.root,["record.json"]⟩

theorem contains_of_entry {disk : Disk} {name : String} {document : Datum}
    (downward : name ≠ Path.parent) (whole : Path.hasNull ⟨.root,[name]⟩ = false)
    (entry : disk.get? [name] = some (.file (write document).toUTF8))
    (storable : Storable depthLimit document) : disk.Contains ⟨.root,[name]⟩ document :=
  ⟨_,Disk.content_of_target? (Disk.target?_eq_some_iff.mpr ⟨whole,Disk.walk_file downward entry⟩),
    readBytes?_write storable⟩

theorem storable_priorityItem (depth : Nat) : Storable (depth + 1) priorityItem := by
  refine .table (by decide) ?_
  simp only [List.forall_mem_cons]
  exact ⟨.text _,.text _,.text _,.text _,by simp⟩

theorem storable_priorityItems (depth : Nat) : Storable (depth + 2) (.list [priorityItem]) := by
  refine .list ?_
  rw [List.forall_mem_singleton]
  exact storable_priorityItem depth

theorem priority_alike : ∃ run, load twoShapes bareFile = .ok run ∧
    load twoShapes recordFile = .ok run ∧ Validates Finding.check [priorityItem] run.findings ∧
    run.totalFindings = 1 := by
  have list : twoShapes.Contains bareFile (.list [priorityItem]) :=
    contains_of_entry (by decide) (by decide) rfl (storable_priorityItems _)
  have record : Storable depthLimit (findingsAlone [priorityItem]) := by
    refine .table (by decide) ?_
    rw [List.forall_mem_singleton]
    exact storable_priorityItems _
  have alone : twoShapes.Contains recordFile (findingsAlone [priorityItem]) :=
    contains_of_entry (by decide) (by decide) rfl record
  have passed : Finding.check priorityItem = .passed priorityFinding := by decide +kernel
  refine (load_alike list alone).1 ?_
  rw [List.forall_mem_singleton]
  exact ⟨priorityFinding,passed⟩

end Example

end FindingsFile
end AbapAtlas

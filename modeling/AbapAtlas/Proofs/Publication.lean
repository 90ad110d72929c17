import AbapAtlas.Proofs.TreeChange
import AbapAtlas.Publication

/-! What publishing a report changes in the file tree: nothing but new folders above the report as
long as it fails, and beyond that nothing but the report if it succeeds. -/
namespace AbapAtlas

namespace Repository
open Disk

theorem writeRecords_eq (disk : Disk) (path : Path) (records : List Datum) :
    writeRecords disk path records =
      if Json.fits (.list records) then
        (disk.writeFile path (Json.write (.list records)).toUTF8).mapError fun trouble =>
          .ofRefusal .records ⟨trouble,path⟩
      else .error .tooWide := by
  rw [writeRecords,writeRecordsOn,Json.obstacle_of_spelled Host.spells_plain]
  cases Json.fits (.list records) with
  | false => rfl
  | true =>
    simp only [if_true,Host.canName_plain]
    rfl

theorem writeReport_eq (disk : Disk) (path : Path) (issues : List Issue) :
    writeReport disk path issues =
      match disk.makeFolders path.folder with
      | (disk,some refusal) => (disk,some (.ofRefusal (.report path) refusal))
      | (disk,none) =>
        match writeRecords disk path (issues.map Issue.toDatum) with
        | .ok disk => (disk,none)
        | .error (.records refusal) => (disk,some (.report path refusal))
        | .error fault => (disk,some fault) := by
  rw [writeReport,writeReportOn,Host.canName_plain,if_neg Bool.true_eq_false.mp]
  rfl

theorem writeRecords_cases (disk : Disk) (path : Path) (records : List Datum) :
    (∃ fault, writeRecords disk path records = .error fault) ∨
      ∃ place, Json.fits (.list records) = true ∧ disk.locate true path = .ok place ∧
        place.Free ∧ writeRecords disk path records =
          .ok (disk.put place.address (.file (Json.write (.list records)).toUTF8)) := by
  rw [writeRecords_eq]
  cases fits : Json.fits (.list records) with
  | false => exact Or.inl ⟨.tooWide,rfl⟩
  | true =>
    cases written : disk.writeFile path (Json.write (.list records)).toUTF8 with
    | error trouble => exact Or.inl ⟨.ofRefusal .records ⟨trouble,path⟩,rfl⟩
    | ok later =>
      obtain ⟨place,found,free,rfl⟩ := free_of_writeFile written
      exact Or.inr ⟨place,rfl,found,free,rfl⟩

/-- A report is written as a whole, or there is a fault and nothing but folders above it. -/
theorem writeReport_cases (disk : Disk) (path : Path) (issues : List Issue) :
    (∃ later fault, writeReport disk path issues = (later,some fault) ∧
      Grown path.folder disk later) ∨
    ∃ later address, writeReport disk path issues = (later,none) ∧
      Json.fits (.list (issues.map Issue.toDatum)) = true ∧
      Replaced path address (Json.write (.list (issues.map Issue.toDatum))).toUTF8 disk later := by
  have grown := grown_makeFolders disk path.folder
  rw [writeReport_eq]
  rcases made : disk.makeFolders path.folder with ⟨between,_ | refusal⟩
  · rw [made] at grown
    obtain ⟨fault,refused⟩ | ⟨place,fits,found,free,written⟩ :=
      writeRecords_cases between path (issues.map Issue.toDatum)
    · refine Or.inl ⟨between,?_⟩
      simp only [refused]
      split
      · next same => cases same
      · exact ⟨_,rfl,grown⟩
      · exact ⟨_,rfl,grown⟩
    · refine Or.inr ⟨_,place.address,?_,fits,replaced_of_grown grown found free _⟩
      simp only [written]
  · rw [made] at grown
    exact Or.inl ⟨between,_,rfl,grown⟩

end Repository

namespace Publication
open Disk

variable (disk : Disk) (root findings : Path) (report : Option Path) (given : Option Settings)
  (maxWorkers : Option Int)

def generate : Disk × Except Fault Summary :=
  match given with
  | some settings => publish disk root findings report settings maxWorkers
  | none => publishWithFile disk root findings report maxWorkers

def settingsFor : Except Fault Settings :=
  match given with
  | some settings => .ok settings
  | none => (SettingsFile.load disk root).mapError .settings

theorem generate_eq : generate disk root findings report given maxWorkers =
    match settingsFor disk root given with
    | .error fault => (disk,.error fault)
    | .ok settings => publish disk root findings report settings maxWorkers := by
  cases given with
  | some settings => rfl
  | none =>
    rw [generate,publishWithFile,settingsFor]
    cases SettingsFile.load disk root <;> rfl

theorem publish_cases (settings : Settings) :
    (∃ later fault, publish disk root findings report settings maxWorkers =
        (later,.error fault) ∧ Grown (reportPath root report settings).folder disk later) ∨
    ∃ index issues later address,
      prepare disk root findings settings maxWorkers = .ok (index,issues) ∧
      publish disk root findings report settings maxWorkers =
        (later,.ok (summaryOf index issues (reportPath root report settings))) ∧
      Json.fits (.list (issues.map Issue.toDatum)) = true ∧
      Replaced (reportPath root report settings) address
        (Json.write (.list (issues.map Issue.toDatum))).toUTF8 disk later := by
  rw [publish]
  rcases prepared : prepare disk root findings settings maxWorkers with fault | ⟨index,issues⟩
  · exact Or.inl ⟨disk,fault,rfl,.refl _ disk⟩
  · obtain ⟨later,fault,refused,grown⟩ | ⟨later,address,written,fits,replaced⟩ :=
      Repository.writeReport_cases disk (reportPath root report settings) issues
    · refine Or.inl ⟨later,.write fault,?_,grown⟩
      simp only [refused]
    · refine Or.inr ⟨index,issues,later,address,rfl,?_,fits,replaced⟩
      simp only [written]

/-- A report is published as a whole or not at all. -/
theorem published_or_untouched :
    match generate disk root findings report given maxWorkers with
    | (later,.error _) =>
      (∀ address content, later.get? address = some (.file content) ↔
        disk.get? address = some (.file content)) ∧
      (later = disk ∨ ∃ settings, settingsFor disk root given = .ok settings ∧
        Grown (reportPath root report settings).folder disk later)
    | (later,.ok summary) =>
      ∃ settings address content, settingsFor disk root given = .ok settings ∧
        summary.report = reportPath root report settings ∧
        Replaced summary.report address content disk later := by
  rw [generate_eq]
  cases chosen : settingsFor disk root given with
  | error fault => exact ⟨fun _ _ => Iff.rfl,Or.inl rfl⟩
  | ok settings =>
    obtain ⟨later,fault,failed,grown⟩ | ⟨index,issues,later,address,_,done,_,replaced⟩ :=
      publish_cases disk root findings report maxWorkers settings
    · simp only [failed]
      exact ⟨grown.file_iff,Or.inr ⟨settings,rfl,grown⟩⟩
    · simp only [done]
      exact ⟨settings,address,_,rfl,rfl,replaced⟩

end Publication
end AbapAtlas

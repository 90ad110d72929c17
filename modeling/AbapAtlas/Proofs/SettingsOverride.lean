import AbapAtlas.Proofs.SourceFolder

/-! Settings with another source folder. They are checked again as a whole, but a value that has
passed its check passes it again as it is, so only the new folder can be refused and only the source
folder changes. -/
namespace AbapAtlas
open Text

theorem Fields.optional_of_lookup {α : Type} {fields : Fields} {key : String} {value : Datum}
    (given : fields.lookup key = some value) (default : α) (check : Datum → Checked α) :
    fields.optional [key] default check = (check value).at' (.field key) := by
  simp only [Fields.optional,Fields.find?,given]

theorem Fields.optional_stored {α : Type} {fields : Fields} {key : String} {datum : Datum}
    {value : α} {check : Datum → Checked α} (given : fields.lookup key = some datum)
    (passed : check datum = .passed value) (default : α) :
    fields.optional [key] default check = .passed value := by
  rw [Fields.optional_of_lookup given,Checked.at'_passed_iff]
  exact passed

/-- A field that passes is its default, or has a value that passes. -/
theorem Fields.optional_passed {α : Type} {fields : Fields} {keys : List String} {default value : α}
    {check : Datum → Checked α} (passed : fields.optional keys default check = .passed value) :
    value = default ∨ ∃ datum, check datum = .passed value := by
  rw [Fields.optional] at passed
  split at passed
  · next key datum _ => exact Or.inr ⟨datum,Checked.at'_passed_iff.mp passed⟩
  · exact Or.inl (Checked.passed.inj passed).symm

namespace Settings

structure Regular (settings : Settings) : Prop where
  someExtension : settings.extensions ≠ []
  dotted : ∀ extension ∈ settings.extensions, extension.toList.head? = some '.'
  someWorker : 1 ≤ settings.maxWorkers

theorem head?_dotted (extension : String) : (dotted extension).toList.head? = some '.' := by
  rw [dotted]
  split
  · next already => exact already
  · rw [String.toList_append]
    rfl

theorem dotted_of_head {extension : String} (already : extension.toList.head? = some '.') :
    dotted extension = extension := if_pos already

theorem validates_texts (texts : List String) :
    Datum.Validates Datum.checkText (texts.map .text) texts := by
  rw [Datum.Validates,List.forall₂_map_left_iff]
  exact List.forall₂_same.mpr fun _ _ => rfl

theorem checkExtensions_passed {value : Datum} {extensions : List String}
    (passed : checkExtensions value = .passed extensions) :
    extensions ≠ [] ∧ ∀ extension ∈ extensions, extension.toList.head? = some '.' := by
  obtain ⟨texts,_,dots⟩ := Checked.andThen_passed_iff.mp passed
  split at dots
  · cases dots
  · next some =>
    cases dots
    refine ⟨fun none => some (List.map_eq_nil_iff.mp none),?_⟩
    intro extension member
    obtain ⟨text,_,rfl⟩ := List.mem_map.mp member
    exact head?_dotted text

/-- Extensions that have their dots pass as they are. -/
theorem checkExtensions_of_dotted {extensions : List String} (some : extensions ≠ [])
    (dots : ∀ extension ∈ extensions, extension.toList.head? = Option.some '.') :
    checkExtensions (.list (extensions.map .text)) = .passed extensions := by
  have kept : extensions.map dotted = extensions :=
    (List.map_congr_left fun extension member => dotted_of_head (dots extension member)).trans
      (List.map_id' _)
  refine Checked.andThen_passed_iff.mpr ⟨extensions,?_,?_⟩
  · exact (Datum.checkItems_passed_iff _ 0).mpr (validates_texts _)
  · rw [if_neg some,kept]

theorem checkExtensions_again {value : Datum} {extensions : List String}
    (passed : checkExtensions value = .passed extensions) :
    checkExtensions (.list (extensions.map .text)) = .passed extensions := by
  obtain ⟨some,dots⟩ := checkExtensions_passed passed
  exact checkExtensions_of_dotted some dots

theorem checkIntFrom_passed {least value : Int} {datum : Datum}
    (passed : datum.checkIntFrom least = .passed value) : least ≤ value := by
  obtain ⟨number,_,bounded⟩ := Checked.andThen_passed_iff.mp passed
  split at bounded
  · next enough =>
    cases bounded
    exact enough
  · cases bounded

theorem regular_of_check {document : Datum} {settings : Settings}
    (passed : check document = .passed settings) : settings.Regular := by
  cases document with
  | table fields =>
    obtain ⟨_,_,_,extensions,workers,_⟩ := check_passed passed
    have extensions : settings.extensions ≠ [] ∧
        ∀ extension ∈ settings.extensions, extension.toList.head? = some '.' := by
      rcases Fields.optional_passed extensions with default | ⟨_,given⟩
      · rw [default]
        decide
      · exact checkExtensions_passed given
    refine ⟨extensions.1,extensions.2,?_⟩
    rcases Fields.optional_passed workers with default | ⟨_,given⟩
    · omega
    · exact checkIntFrom_passed given
  | _ => cases passed

/-- Every field but the source folder passes its check again when regular settings are stored with
another folder, and there is no other field. -/
theorem Regular.rest_passed {settings : Settings} (regular : settings.Regular) (srcDir : String) :
    let fields : Fields := Datum.setField "src_dir" (.text srcDir) settings.toFields
    (∀ default, fields.optional ["report_file"] default Datum.checkText =
      .passed settings.reportFile) ∧
    (∀ default, fields.optional ["folder_logic"] default Datum.checkOptionalText =
      .passed settings.folderLogic) ∧
    (∀ default, fields.optional ["extensions"] default checkExtensions =
      .passed settings.extensions) ∧
    (∀ default, fields.optional ["max_workers"] default (Datum.checkIntFrom 1) =
      .passed settings.maxWorkers) ∧
    (∀ default, fields.optional ["respect_gitignore"] default Datum.checkBool =
      .passed settings.respectIgnore) ∧
    fields.onlyKeys keys = .passed () := by
  refine ⟨fun _ => rfl,Fields.optional_stored rfl ?_,Fields.optional_stored rfl ?_,
    Fields.optional_stored rfl ?_,fun _ => rfl,rfl⟩
  · cases settings.folderLogic <;> rfl
  · exact checkExtensions_of_dotted regular.someExtension regular.dotted
  · exact Checked.andThen_passed_iff.mpr ⟨settings.maxWorkers,rfl,if_pos regular.someWorker⟩

/-- Regular settings with another source folder are refused for that folder or for nothing, and all
else stays as it is. -/
theorem Regular.withSrcDir {settings : Settings} (regular : settings.Regular) (srcDir : String) :
    settings.withSrcDir srcDir = ((checkSrcDir (.text srcDir)).at' (.field "src_dir")).map
      fun folder => { settings with srcDir := folder } := by
  obtain ⟨report,logic,extensions,workers,ignore,only⟩ := regular.rest_passed srcDir
  rw [Settings.withSrcDir,check,Fields.optional_of_lookup (lookup_setField _ _ _)]
  simp only [report,logic,extensions,workers,ignore,only]
  cases checkSrcDir (.text srcDir) <;> rfl

/-- Accepted settings have extensions, all with their dots, and at least one worker, and checking
accepted extensions again leaves them as they are. With another source folder settings are refused
if and only if that folder is, for its faults; else only the folder changes, to the text that was
given without the blanks and slashes around it. -/
theorem override_changes_srcDir_only {document : Datum} {settings : Settings}
    (passed : check document = .passed settings) :
    settings.Regular ∧
    (∀ value extensions, checkExtensions value = .passed extensions →
      checkExtensions (.list (extensions.map .text)) = .passed extensions) ∧
    ∀ srcDir : String,
      ((∃ faults, settings.withSrcDir srcDir = .failed faults) ↔
        ∃ faults, checkSrcDir (.text srcDir) = .failed faults) ∧
      (∀ faults, checkSrcDir (.text srcDir) = .failed faults → settings.withSrcDir srcDir =
        .failed (faults.map fun fault => { fault with place := .field "src_dir" :: fault.place })) ∧
      ∀ folder, checkSrcDir (.text srcDir) = .passed folder →
        folder = trimBy (· == '/') (trim srcDir) ∧
        settings.withSrcDir srcDir = .passed { settings with srcDir := folder } := by
  have regular := regular_of_check passed
  refine ⟨regular,fun _ _ => checkExtensions_again,fun srcDir => ?_⟩
  rw [regular.withSrcDir]
  cases checked : checkSrcDir (.text srcDir) with
  | failed faults =>
    refine ⟨⟨fun _ => ⟨faults,rfl⟩,fun _ => ⟨_,rfl⟩⟩,?_,?_⟩
    · intro same equal
      cases equal
      rfl
    · intro folder other
      cases other
  | passed folder =>
    refine ⟨⟨?_,?_⟩,?_,?_⟩
    · rintro ⟨faults,other⟩
      cases other
    · rintro ⟨faults,other⟩
      cases other
    · intro faults other
      cases other
    · intro same equal
      cases equal
      obtain ⟨text,written,_,kept⟩ := checkSrcDir_passed checked
      cases written
      exact ⟨kept,rfl⟩

section Example

def lenientDocument : Datum :=
  .table [("extensions",.list [.text "clas.abap",.text ""]),("max_workers",.text " +1_6.0 "),
    ("respect_gitignore",.text "Off"),("folder_logic",.null)]

def lenientSettings : Settings :=
  { extensions := [".clas.abap","."], maxWorkers := 16, respectIgnore := false }

theorem lenient_overridden : check lenientDocument = .passed lenientSettings ∧
    lenientSettings.Regular ∧
    lenientSettings.withSrcDir " lib/ " = .passed { lenientSettings with srcDir := "lib" } ∧
    ∃ faults, lenientSettings.withSrcDir "lib/../.." = .failed faults := by
  have passed : check lenientDocument = .passed lenientSettings := by decide +kernel
  obtain ⟨regular,_,override⟩ := override_changes_srcDir_only passed
  have within : checkSrcDir (.text " lib/ ") = .passed "lib" := by decide +kernel
  have outside : ∃ faults, checkSrcDir (.text "lib/../..") = .failed faults := ⟨_,rfl⟩
  exact ⟨passed,regular,((override " lib/ ").2.2 _ within).2,(override "lib/../..").1.mpr outside⟩

end Example

end Settings
end AbapAtlas

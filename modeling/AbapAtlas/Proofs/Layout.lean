import AbapAtlas.Layout
import AbapAtlas.Proofs.Path
import AbapAtlas.Proofs.Text.LetterCase

/-! Planned paths as rows of names: the source folder, the folders of the package and the file. -/
namespace AbapAtlas.Layout
open Text

inductive SourceFolder : String → List String → Prop where
  | here : SourceFolder "." []
  | below {names : List String} (nonempty : names ≠ [])
      (written : ∀ name ∈ names, Path.Written name) : SourceFolder (Path.joined names) names

theorem nil_notMem_cutAt_joined {names : List String} (nonempty : names ≠ [])
    (written : ∀ name ∈ names, Path.Written name) :
    [] ∉ cutAt '/' (Path.joined names).toList := by
  rw [Path.cutAt_joined nonempty written]
  intro member
  obtain ⟨name,inside,empty⟩ := List.mem_map.mp member
  exact (written name inside).nonempty (String.toList_eq_nil_iff.mp empty)

theorem joined_eq_empty_iff {names : List String} (written : ∀ name ∈ names, Path.Written name) :
    Path.joined names = "" ↔ names = [] := by
  constructor
  · intro empty
    by_contra nonempty
    refine nil_notMem_cutAt_joined nonempty written ?_
    rw [empty]
    exact List.mem_singleton_self _
  · rintro rfl
    rfl

theorem under_joined {folder path : List String} (written : ∀ name ∈ folder, Path.Written name)
    (written' : ∀ name ∈ path, Path.Written name) :
    under (Path.joined folder) (Path.joined path) = Path.joined (folder ++ path) := by
  rw [under]
  by_cases none : path = []
  · rw [if_pos ((joined_eq_empty_iff written').mpr none),none,List.append_nil]
  · rw [if_neg (mt (joined_eq_empty_iff written').mp none)]
    by_cases here : folder = []
    · rw [if_pos ((joined_eq_empty_iff written).mpr here),here,List.nil_append]
    · rw [if_neg (mt (joined_eq_empty_iff written).mp here),Path.joined_append here none]

/-- Nothing is trimmed off a text without empty names: a slash at either end would have one next to
it. -/
theorem trimBy_of_whole {text : String} (whole : [] ∉ cutAt '/' text.toList) :
    trimBy (· == '/') text = text := by
  have nonempty : text.toList ≠ [] := by
    intro empty
    rw [empty] at whole
    exact whole (List.mem_singleton_self _)
  have first : (text.toList.head nonempty == '/') = false := by
    rw [beq_eq_false_iff_ne]
    intro slash
    rw [← List.cons_head_tail nonempty,slash] at whole
    exact whole (cutAt_append_cons '/' [] _ ▸ List.mem_append_left _ (List.mem_singleton_self _))
  have last : (text.toList.getLast nonempty == '/') = false := by
    rw [beq_eq_false_iff_ne]
    intro slash
    rw [← List.dropLast_append_getLast nonempty,slash] at whole
    exact whole (cutAt_append_cons '/' _ [] ▸ List.mem_append_right _ (List.mem_singleton_self _))
  have kept := trim_around (· == '/') [] text.toList [] nonempty first last
  rw [← String.toList_inj,toList_trimBy]
  simpa using kept

theorem trimBy_joined {names : List String} (written : ∀ name ∈ names, Path.Written name) :
    trimBy (· == '/') (Path.joined names) = Path.joined names := by
  by_cases none : names = []
  · rw [none]
    rfl
  · exact trimBy_of_whole (nil_notMem_cutAt_joined none written)

theorem SourceFolder.ofString {srcDir : String} {names : List String}
    (folder : SourceFolder srcDir names) : Path.ofString srcDir = ⟨.relative,names⟩ := by
  cases folder with
  | here => decide
  | below nonempty written => exact Path.ofString_joined nonempty written

theorem SourceFolder.within {srcDir : String} {names : List String}
    (folder : SourceFolder srcDir names) (root : Path) :
    root.within (Path.ofString srcDir) = root.below names := by
  rw [folder.ofString]
  rfl

theorem SourceFolder.written {srcDir : String} {names : List String}
    (folder : SourceFolder srcDir names) : ∀ name ∈ names, Path.Written name := by
  cases folder with
  | here => exact fun name member => absurd member List.not_mem_nil
  | below nonempty written => exact written

theorem SourceFolder.sourceFolder {srcDir : String} {names : List String}
    (folder : SourceFolder srcDir names) : Layout.sourceFolder srcDir = Path.joined names := by
  cases folder with
  | here => decide
  | below nonempty written =>
    rw [Layout.sourceFolder,trimBy_joined written]
    refine if_neg ?_
    intro dot
    have parts := Path.cutAt_joined nonempty written
    rw [dot,show cutAt '/' ".".toList = [".".toList] from rfl] at parts
    have member : ".".toList ∈ names.map String.toList := parts ▸ List.mem_singleton_self _
    obtain ⟨name,inside,same⟩ := List.mem_map.mp member
    exact (written name inside).other (String.toList_inj.mp same)

theorem notMem_lower {c : Char} (early : c.toNat < 97) {text : String} (absent : c ∉ text.toList) :
    c ∉ (lower text).toList := by
  rw [toList_lower]
  exact mt (mem_of_mem_lowerAfter early) absent

theorem slash_mem_lower_iff (text : String) : '/' ∈ (lower text).toList ↔ '/' ∈ text.toList := by
  rw [toList_lower]
  exact ⟨mem_of_mem_lowerAfter (by decide),mem_lowerAfter_of_isLower (by decide)⟩

theorem toList_fileName (type name extension : String) : (fileName type name extension).toList =
    (lower name).toList ++ '.' :: ((lower type).toList ++ '.' :: extension.toList) := by
  simp [fileName]

theorem slash_mem_fileName_iff (type name extension : String) :
    '/' ∈ (fileName type name extension).toList ↔
      '/' ∈ name.toList ∨ '/' ∈ type.toList ∨ '/' ∈ extension.toList := by
  rw [toList_fileName]
  simp [slash_mem_lower_iff]

/-- The name of a source file ends in its extension, so it can be written if its parts can. -/
theorem written_fileName {type name : String} (whole : '/' ∉ name.toList)
    (whole' : '/' ∉ type.toList) : Path.Written (fileName type name "abap") := by
  have ends : (fileName type name "abap").toList =
      (lower name).toList ++ '.' :: ((lower type).toList ++ ".abap".toList) :=
    toList_fileName type name "abap"
  refine ⟨?_,?_,?_⟩
  · intro empty
    rw [empty] at ends
    have length := congrArg List.length ends
    simp at length
  · intro dot
    rw [dot] at ends
    have length := congrArg List.length ends
    simp at length
    omega
  · simp [slash_mem_fileName_iff,whole,whole']

theorem filePath_eq_joined {srcDir : String} {names : List String}
    (folder : SourceFolder srcDir names) {logic : FolderLogic} {packages : PackagePath}
    (written : ∀ name ∈ folders logic packages, Path.Written name) {type name : String}
    (source : upper type ≠ "DEVC") (file : Path.Written (fileName type name "abap")) :
    filePath srcDir logic packages type name "abap" =
      Path.joined (names ++ folders logic packages ++ [fileName type name "abap"]) := by
  have above : objectFolder srcDir logic packages = Path.joined (names ++ folders logic packages) := by
    rw [objectFolder,folder.sourceFolder]
    exact under_joined folder.written written
  have whole : ∀ name ∈ names ++ folders logic packages, Path.Written name := by
    intro name member
    rcases List.mem_append.mp member with inside | below
    · exact folder.written name inside
    · exact written name below
  have single : ∀ other ∈ [fileName type name "abap"], Path.Written other := by
    intro other member
    rw [List.mem_singleton.mp member]
    exact file
  have joined := under_joined whole single
  rw [Path.joined_singleton] at joined
  rw [filePath,above,← joined,under,if_neg source,if_neg file.nonempty]

end AbapAtlas.Layout

import AbapAtlas.Proofs.Json.Reader
import AbapAtlas.Proofs.TreeChange
import AbapAtlas.Repository

/-! Imports that are declared and planned again. What an import declares is read back, so later
imports place every object where the first one did, and declaring it again changes nothing. -/
namespace AbapAtlas
open Text

namespace FolderLogic

def declarable : FolderLogic → FolderLogic
  | .fullWithRoot => .full
  | logic => logic

theorem declarable_of_ne {logic : FolderLogic} (other : logic ≠ .fullWithRoot) :
    logic.declarable = logic := by
  cases logic with
  | short => rfl
  | full => rfl
  | fullWithRoot => exact absurd rfl other

theorem metadata_declarable (logic : FolderLogic) :
    logic.declarable.metadata = logic.metadata := by
  cases logic <;> rfl

/-- Rows of characters one after the other; a literal is such a row. -/
theorem toList_rows (a b c d e f g h i j k l : List Char) :
    (String.ofList a ++ String.ofList b ++ String.ofList c ++ String.ofList d ++ String.ofList e ++
      String.ofList f ++ String.ofList g ++ String.ofList h ++ String.ofList i ++
      String.ofList j ++ String.ofList k ++ String.ofList l).toList =
    a ++ b ++ c ++ d ++ e ++ f ++ g ++ h ++ i ++ j ++ k ++ l := by
  simp only [String.toList_append,String.toList_ofList]

/-- What is written for a folder logic is read as the one that can be declared. -/
theorem declared?_metadata (logic : FolderLogic) :
    declared? (String.ofList (unifyLineEnds logic.metadata.toList)) = some logic.declarable := by
  rw [declared?,String.toList_ofList]
  -- Texts of this length are only evaluated as rows of characters.
  cases logic with
  | short =>
    have rows : short.metadata.toList = _ := toList_rows _ _ _ _ _ _ _ _ _ _ _ _
    rw [rows]
    decide +kernel
  | full =>
    have rows : full.metadata.toList = _ := toList_rows _ _ _ _ _ _ _ _ _ _ _ _
    rw [rows]
    decide +kernel
  | fullWithRoot =>
    have rows : fullWithRoot.metadata.toList = _ := toList_rows _ _ _ _ _ _ _ _ _ _ _ _
    rw [rows]
    decide +kernel

end FolderLogic

namespace Repository
variable {disk declared : Disk} {root : Path} {logic : FolderLogic}

def metadataPath (root : Path) : Path := root.below [metadataFile]

def Declarable (disk : Disk) (root : Path) : Prop :=
  ∃ place, disk.locate true (metadataPath root) = .ok place ∧ place.Free

theorem declarable_of_folder {address : Address}
    (rooted : disk.target? root = some (address,.folder))
    (free : ∀ entry, disk.get? (address ++ [metadataFile]) = some entry → entry.isFile = true) :
    Declarable disk root := by
  obtain ⟨whole,reached⟩ := Disk.target?_eq_some_iff.mp rooted
  obtain ⟨left,further⟩ := Disk.walk_append [metadataFile] reached
  have named : ∀ name ∈ [metadataFile], Disk.EntryName name := by decide
  have located : disk.locate true (metadataPath root) =
      disk.walk true left address [metadataFile] := by
    rw [Disk.locate,metadataPath,Disk.hasNull_below whole named]
    exact further
  have downward : metadataFile ≠ Path.parent := by decide
  cases there : disk.get? (address ++ [metadataFile]) with
  | none => exact ⟨_,located.trans (Disk.walk_vacant downward there),trivial⟩
  | some entry =>
    have file := free entry there
    cases entry with
    | file content => exact ⟨_,located.trans (Disk.walk_file downward there),rfl⟩
    | folder => cases file
    | link target => cases file

def Declares (disk : Disk) (root : Path) (logic : FolderLogic) : Prop :=
  ∃ address, disk.target? (metadataPath root) =
    some (address,.file logic.metadata.toUTF8)

theorem exists_declare (declarable : Declarable disk root) (logic : FolderLogic) :
    ∃ declared, declare disk root logic = .ok declared ∧ Declares declared root logic := by
  obtain ⟨place,found,free⟩ := declarable
  refine ⟨disk.put place.address (.file logic.metadata.toUTF8),?_,place.address,
    Disk.target?_put found free (by simp)⟩
  rw [declare]
  exact congrArg _ (Disk.writeFile_of_free found free logic.metadata.toUTF8)

theorem declaredLogic?_of_declares (declares : Declares declared root logic) :
    declaredLogic? declared root = some logic.declarable := by
  obtain ⟨address,there⟩ := declares
  have content : declared.content (root.below [metadataFile]) = .ok logic.metadata.toUTF8 :=
    Disk.content_of_target? there
  simp only [declaredLogic?,content,Json.fromUTF8?_toUTF8,FolderLogic.declared?_metadata]

theorem declare_of_declares (declares : Declares declared root logic) :
    declare declared root logic.declarable = .ok declared := by
  obtain ⟨address,there⟩ := declares
  rw [declare,FolderLogic.metadata_declarable]
  exact congrArg _ (Disk.writeFile_again there)

end Repository

namespace ImportPlan
open Repository
variable {disk declared : Disk} {root : Path} {logic : FolderLogic}

def under (srcDir : String) (objects : List ImportedObject) (logic : FolderLogic) : ImportPlan :=
  ⟨logic,objects.map (place srcDir logic)⟩

theorem make_of_declares (declares : Declares declared root logic) (objects : List ImportedObject)
    (configured : Option FolderLogic) (srcDir : String) :
    make declared root objects none configured srcDir =
      under srcDir objects logic.declarable := by
  rw [make,folderLogic,declaredLogic?_of_declares declares]
  rfl

/-- What can be done with a repository and its latest plan: declare the folder logic of the plan, or
plan again without an override. -/
inductive Move where
  | finish
  | plan (configured : Option FolderLogic)

def Move.run (root : Path) (objects : List ImportedObject) (srcDir : String)
    (state : Disk × ImportPlan) : Move → Except WriteFault (Disk × ImportPlan)
  | .finish => (ImportPlan.finish state.1 root state.2.logic).map (·,state.2)
  | .plan configured => .ok (state.1,make state.1 root objects none configured srcDir)

theorem run_of_declares (declares : Declares declared root logic) (objects : List ImportedObject)
    (srcDir : String) (move : Move) :
    move.run root objects srcDir (declared,under srcDir objects logic.declarable) =
      .ok (declared,under srcDir objects logic.declarable) := by
  cases move with
  | finish =>
    have again := declare_of_declares declares
    simp only [Move.run,finish,under,again,Except.map]
  | plan configured =>
    simp only [Move.run,make_of_declares declares]

theorem runs_of_declares (declares : Declares declared root logic) (objects : List ImportedObject)
    (srcDir : String) (moves : List Move) :
    moves.foldlM (Move.run root objects srcDir)
        (declared,under srcDir objects logic.declarable) =
      .ok (declared,under srcDir objects logic.declarable) := by
  induction moves with
  | nil => rfl
  | cons move rest ih =>
    rw [List.foldlM_cons,run_of_declares declares]
    exact ih

/-- An import that is declared is planned the same from then on, whatever is configured, and neither
planning nor declaring it again changes the file tree. -/
theorem reimport_stable (declarable : Declarable disk root) (objects : List ImportedObject)
    (override configured : Option FolderLogic) (srcDir : String) :
    let first := make disk root objects override configured srcDir
    let second := under srcDir objects first.logic.declarable
    ∃ declared, finish disk root first.logic = .ok declared ∧
      declared.content (metadataPath root) = .ok first.logic.metadata.toUTF8 ∧
      (∀ configured', make declared root objects none configured' srcDir = second) ∧
      (first.logic ≠ .fullWithRoot → second = first) ∧
      ∀ moves : List Move, moves.foldlM (Move.run root objects srcDir) (declared,second) =
        .ok (declared,second) := by
  intro first second
  obtain ⟨declared,done,declares⟩ := exists_declare declarable first.logic
  refine ⟨declared,done,?_,?_,?_,runs_of_declares declares objects srcDir⟩
  · obtain ⟨address,there⟩ := declares
    exact Disk.content_of_target? there
  · exact fun configured' => make_of_declares declares objects configured' srcDir
  · intro other
    change under srcDir objects first.logic.declarable = first
    rw [FolderLogic.declarable_of_ne other]
    rfl

section Example

def strayTree : Disk where
  entries := [([metadataFile],.file ⟨#[0xff]⟩)]

def strayObjects : List ImportedObject := [⟨"CLAS","ZCL_A",["ZROOT","ZROOT_CHILD"],"abap"⟩]

theorem reimport_stray : ∃ declared,
    finish strayTree ⟨.root,[]⟩ .fullWithRoot = .ok declared ∧
    make strayTree ⟨.root,[]⟩ strayObjects (some .fullWithRoot) none "src" =
      ⟨.fullWithRoot,[⟨"CLAS","ZCL_A","src/zroot/zroot_child/zcl_a.clas.abap"⟩]⟩ ∧
    make declared ⟨.root,[]⟩ strayObjects none (some .short) "src" =
      ⟨.full,[⟨"CLAS","ZCL_A","src/zroot_child/zcl_a.clas.abap"⟩]⟩ := by
  have rooted : strayTree.target? ⟨.root,[]⟩ = some ([],.folder) := by
    refine Disk.target?_eq_some_iff.mpr ⟨by decide,?_⟩
    rw [Disk.walk]
    rfl
  have free : ∀ entry, strayTree.get? ([] ++ [metadataFile]) = some entry →
      entry.isFile = true := by
    intro entry there
    cases there
    rfl
  obtain ⟨declared,done,_,again,_⟩ := reimport_stable (declarable_of_folder rooted free)
    strayObjects (some .fullWithRoot) none "src"
  exact ⟨declared,done,by decide +kernel,(again (some .short)).trans (by decide +kernel)⟩

end Example
end ImportPlan
end AbapAtlas

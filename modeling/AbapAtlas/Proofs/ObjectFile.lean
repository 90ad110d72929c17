import AbapAtlas.Proofs.Answer
import AbapAtlas.Proofs.Catalogue
import AbapAtlas.Proofs.Layout

/-! The files that objects are found in. The name of a file tells the object: its type stands
between the last two dots and has none in it, and all before it is the name of the object. -/
namespace AbapAtlas
open Text

namespace Layout

/-- Type and name can be read back from the name of a file, in lower case. -/
theorem fileName_eq_iff {type type' : String} (plain : '.' ∉ type.toList)
    (plain' : '.' ∉ type'.toList) (name name' extension : String) :
    fileName type name extension = fileName type' name' extension ↔
      lower type = lower type' ∧ lower name = lower name' := by
  constructor
  · intro same
    have letters := congrArg String.toList same
    have split : ∀ type name : String, (fileName type name extension).toList =
        ((lower name).toList ++ ['.']) ++ (lower type).toList ++ '.' :: extension.toList := by
      intro type name
      rw [toList_fileName]
      simp
    rw [split,split,List.append_cancel_right_eq] at letters
    obtain ⟨front,back⟩ := EndsPart.append_inj (Or.inr ⟨_,rfl⟩) (Or.inr ⟨_,rfl⟩)
      (notMem_lower (by decide) plain) (notMem_lower (by decide) plain') letters
    exact ⟨String.toList_inj.mp back,String.toList_inj.mp (List.append_cancel_right front)⟩
  · rintro ⟨type,name⟩
    rw [fileName,fileName,type,name]

-- With a dot in a type, another object may have the same file.
example : fileName "PROG" "A.B" "abap" = fileName "B.PROG" "A" "abap" := by decide +kernel

end Layout

variable {disk : Disk} {root : Path} {srcDir : String} {extensions : List String}
  {respectIgnore : Bool} {index : SourceIndex}

namespace SourceIndex

/-- What a path is looked up by is the last name of that path, so it has no slash in it. -/
theorem baseName_of_lookup (named : disk.Named)
    (built : build disk root srcDir extensions respectIgnore = .ok index) {file path : String}
    (found : index.lookup file = some path) : baseName path = file ∧ '/' ∉ file.toList := by
  obtain ⟨names,below,eligible,same,rfl,last⟩ := eligible_of_lookup built found
  have written := written_of_eligible named eligible same
  by_cases none : below = []
  · subst none
    subst last
    exact ⟨by decide,by decide⟩
  · rw [baseName,Path.ofString_joined none written]
    refine ⟨last,?_⟩
    rw [← last,List.getLastD_eq_getLast?,List.getLast?_eq_some_getLast none]
    exact (written _ (List.getLast_mem none)).whole

end SourceIndex

namespace Resolver

/-- Two objects are found in one file if and only if they have one type and one name, letter case
aside, whenever each of them is looked up; and an object with a slash in its type or its name is
never found. -/
theorem found_apart (named : disk.Named)
    (built : SourceIndex.build disk root srcDir extensions respectIgnore = .ok index) :
    (∀ (first second : Query) (now later : Disk) (session session' : Session)
        (position position' : FilePosition),
      '.' ∉ first.objectType.toList → '.' ∉ second.objectType.toList →
      (Resolver.ofIndex index now first session).1 = .found position →
      (Resolver.ofIndex index later second session').1 = .found position' →
      (position.path = position'.path ↔ lower first.objectType = lower second.objectType ∧
        lower first.objectName = lower second.objectName)) ∧
    ∀ (query : Query) (now : Disk) (session : Session),
      '/' ∈ query.objectType.toList ∨ '/' ∈ query.objectName.toList →
      Resolver.ofIndex index now query session = (.unknown,session) := by
  constructor
  · intro first second now later session session' position position' plain plain' found found'
    have file := file?_of_found found
    have file' := file?_of_found found'
    rw [← Layout.fileName_eq_iff plain plain' _ _ "abap"]
    constructor
    · intro same
      have base := (SourceIndex.baseName_of_lookup named built file).1
      have base' := (SourceIndex.baseName_of_lookup named built file').1
      rw [← base,← base',same]
    · intro same
      rw [Query.file?,same] at file
      exact Option.some.inj (file.symm.trans file')
  · intro query now session slash
    have unknown : query.file? index = none := by
      rw [Option.eq_none_iff_forall_ne_some]
      intro path found
      refine (SourceIndex.baseName_of_lookup named built found).2 ?_
      rw [Layout.slash_mem_fileName_iff,← or_assoc]
      exact Or.inl slash.symm
    rw [ofIndex_eq,Query.resolve_of_unknown unknown]
    rfl

section Example
open SourceIndex (twinTree)

def twinIndex : SourceIndex :=
  .ofFiles "src" [["src","a","zdemo.prog.abap"],["src","b","zdemo.prog.abap"]]

theorem build_twinIndex :
    SourceIndex.build twinTree ⟨.root,[]⟩ "src" [".abap"] false = .ok twinIndex := by
  have folder : Path.within ⟨.root,[]⟩ (Path.ofString "src") = ⟨.root,["src"]⟩ := by
    decide +kernel
  have found : SourceFiles.findUnder twinTree none ⟨.root,["src"]⟩ [".abap"] =
      .ok [["a","zdemo.prog.abap"],["b","zdemo.prog.abap"]] := by
    rw [SourceFiles.findUnder,SourceIndex.find_twinFolder]
  rw [← folder] at found
  refine SourceIndex.build_of_found found ?_
  rw [folder]
  decide +kernel

/-- Lines of programs count from the top, so no file is read. -/
theorem found_twin {type name : String} (typed : lower type = "prog") (named : lower name = "zdemo")
    (line : Int) (disk : Disk) (session : Session) :
    (Resolver.ofIndex twinIndex disk ⟨type,name,line,none⟩ session).1 =
      .found ⟨"src/a/zdemo.prog.abap",line⟩ := by
  have file : Query.file? ⟨type,name,line,none⟩ twinIndex = some "src/a/zdemo.prog.abap" := by
    rw [Query.file?,Layout.fileName,typed,named]
    decide +kernel
  have uncounted : LinePlacement.countsFromMethod "src/a/zdemo.prog.abap" = false := by
    decide +kernel
  rw [ofIndex_eq,Query.resolve_of_uncounted file uncounted,LinePlacement.fileLine,
    if_neg (by simp [uncounted])]
  rfl

/-- One program in two spellings, looked up while its file is there and when it is gone; and the
file asked for with its folder. -/
theorem twin_found_by_name :
    (Resolver.ofIndex twinIndex twinTree ⟨"Prog","ZDEMO",7,none⟩ {}).1 =
      .found ⟨"src/a/zdemo.prog.abap",7⟩ ∧
    (Resolver.ofIndex twinIndex Disk.bare ⟨"PROG","zDemo",9,none⟩ {}).1 =
      .found ⟨"src/a/zdemo.prog.abap",9⟩ ∧
    (lower "Prog" = lower "PROG" ∧ lower "ZDEMO" = lower "zDemo") ∧
    Resolver.ofIndex twinIndex twinTree ⟨"PROG","a/zdemo",1,none⟩ {} = (.unknown,{}) := by
  have named : twinTree.Named := by decide +kernel
  obtain ⟨alike,never⟩ := found_apart named build_twinIndex
  have early := found_twin (by decide +kernel : lower "Prog" = "prog")
    (by decide +kernel : lower "ZDEMO" = "zdemo") 7 twinTree {}
  have late := found_twin (by decide +kernel : lower "PROG" = "prog")
    (by decide +kernel : lower "zDemo" = "zdemo") 9 Disk.bare {}
  refine ⟨early,late,?_,never _ _ _ (Or.inr (by decide))⟩
  exact (alike _ _ _ _ _ _ _ _ (by decide) (by decide) early late).mp rfl

end Example

end Resolver
end AbapAtlas

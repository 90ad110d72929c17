import AbapAtlas.Proofs.Layout
import AbapAtlas.Proofs.Text.PlainName
import AbapAtlas.Proofs.Text.Search

/-! Package hierarchies and their folders. Under one root a folder stands for one hierarchy, up to
the case of letters, as long as the folder names of packages tell their siblings apart. -/
namespace AbapAtlas.Layout
open Text

def SameNames (packages others : PackagePath) : Prop :=
  List.Forall₂ (fun name other => SameLetters name.toList other.toList) packages others

def steps (packages : PackagePath) : List (String × String) := packages.zip packages.tail

def NamedFor (parent name : String) : Prop := ∃ own, own ≠ "" ∧ name = parent ++ "_" ++ own

/-- A hierarchy of plain names; where folders drop the parent's name, every package below the root
has it in its own. -/
structure Suits (logic : FolderLogic) (packages : PackagePath) : Prop where
  plain : ∀ name ∈ packages, PlainName name
  named : logic = .short → ∀ step ∈ steps packages, NamedFor step.1 step.2

/-- That packages of two hierarchies with the same parent have different own names unless they are
the same package. -/
def TellsSiblings (packages others : PackagePath) : Prop :=
  ∀ step ∈ steps packages, ∀ step' ∈ steps others,
    SameLetters step.1.toList step'.1.toList →
    lower (ownName step.1 step.2) = lower (ownName step'.1 step'.2) →
    SameLetters step.2.toList step'.2.toList

instance (packages others : PackagePath) : Decidable (TellsSiblings packages others) := by
  unfold TellsSiblings
  infer_instance

theorem mem_of_mem_steps {packages : PackagePath} {step : String × String}
    (member : step ∈ steps packages) : step.1 ∈ packages ∧ step.2 ∈ packages := by
  obtain ⟨first,second⟩ := List.of_mem_zip member
  exact ⟨first,List.mem_of_mem_tail second⟩

theorem ownNames_eq_map (packages : PackagePath) :
    ownNames packages = (steps packages).map fun step => ownName step.1 step.2 := by
  fun_induction ownNames packages with
  | case1 => rfl
  | case2 => rfl
  | case3 parent name rest ih => exact congrArg _ ih

theorem steps_concat {packages : PackagePath} {last : String}
    (ends : packages.getLast? = some last) (child : String) :
    steps (packages ++ [child]) = steps packages ++ [(last,child)] := by
  induction packages with
  | nil => cases ends
  | cons name rest ih =>
    cases rest with
    | nil =>
      cases ends
      rfl
    | cons next more =>
      rw [List.getLast?_cons_cons] at ends
      exact congrArg _ (ih ends)

theorem ownName_append (parent own : String) : ownName parent (parent ++ "_" ++ own) = own := by
  have letters : (parent ++ "_" ++ own).toList = (parent ++ "_").toList ++ own.toList :=
    String.toList_append
  rw [ownName,letters,dropLiteral?_append _ _ _ fun c _ => beq_self_eq_true c]
  exact String.ofList_toList

theorem NamedFor.ownName {parent name : String} (named : NamedFor parent name) :
    ownName parent name ≠ "" ∧ name = parent ++ "_" ++ Layout.ownName parent name := by
  obtain ⟨own,nonempty,rfl⟩ := named
  rw [ownName_append]
  exact ⟨nonempty,rfl⟩

instance (parent name : String) : Decidable (NamedFor parent name) :=
  decidable_of_iff (ownName parent name ≠ "" ∧ name = parent ++ "_" ++ ownName parent name)
    ⟨fun ⟨nonempty,whole⟩ => ⟨_,nonempty,whole⟩,NamedFor.ownName⟩

instance (logic : FolderLogic) (packages : PackagePath) : Decidable (Suits logic packages) :=
  decidable_of_iff ((∀ name ∈ packages, PlainName name) ∧
      (logic = .short → ∀ step ∈ steps packages, NamedFor step.1 step.2))
    ⟨fun ⟨plain,named⟩ => ⟨plain,named⟩,fun ⟨plain,named⟩ => ⟨plain,named⟩⟩

theorem ownName_suffix (parent name : String) : (ownName parent name).toList <:+ name.toList := by
  rw [ownName]
  split
  · next rest dropped =>
    obtain ⟨matched,whole,_⟩ := exists_of_dropLiteral? dropped
    rw [String.toList_ofList,whole]
    exact List.suffix_append matched rest
  · exact List.suffix_rfl

section
variable {packages others : PackagePath} (plain : ∀ name ∈ packages, PlainName name)
  (plain' : ∀ name ∈ others, PlainName name)
include plain

theorem isPlain_ownName {step : String × String} (member : step ∈ steps packages) :
    ∀ c ∈ (ownName step.1 step.2).toList, isPlain c = true := fun c inside =>
  (plain _ (mem_of_mem_steps member).2).plain c ((ownName_suffix _ _).subset inside)

theorem isPlain_of_mem_folders {logic : FolderLogic} {folder : String}
    (member : folder ∈ folders logic packages) : ∀ c ∈ folder.toList, isPlain c = true := by
  obtain ⟨name,inside,rfl⟩ := List.mem_map.mp member
  refine isPlain_of_mem_lower ?_
  cases logic with
  | short =>
    rw [ownNames_eq_map] at inside
    obtain ⟨step,below,rfl⟩ := List.mem_map.mp inside
    exact isPlain_ownName plain below
  | full => exact (plain name (List.mem_of_mem_drop inside)).plain
  | fullWithRoot => exact (plain name inside).plain

theorem written_folders {logic : FolderLogic} (own : logic = .short → "" ∉ ownNames packages) :
    ∀ folder ∈ folders logic packages, Path.Written folder := by
  intro folder member
  have letters := isPlain_of_mem_folders plain member
  refine ⟨?_,?_,?_⟩
  · obtain ⟨name,inside,rfl⟩ := List.mem_map.mp member
    refine lower_ne_empty ?_
    cases logic with
    | short => exact fun empty => own rfl (empty ▸ inside)
    | full => exact (plain name (List.mem_of_mem_drop inside)).nonempty
    | fullWithRoot => exact (plain name inside).nonempty
  · rintro rfl
    exact notMem_of_isPlain (c := '.') (by decide) letters (by decide)
  · exact notMem_of_isPlain (by decide) letters

include plain'

theorem sameNames_of_map_lower (same : packages.map lower = others.map lower) :
    SameNames packages others := by
  induction packages generalizing others with
  | nil =>
    rw [List.map_eq_nil_iff.mp same.symm]
    exact .nil
  | cons name rest ih =>
    cases others with
    | nil => cases same
    | cons other more =>
      obtain ⟨first,later⟩ := List.cons.inj same
      obtain ⟨whole,below⟩ := List.forall_mem_cons.mp plain
      obtain ⟨whole',below'⟩ := List.forall_mem_cons.mp plain'
      exact .cons ((lower_eq_iff whole.plain whole'.plain).mp first) (ih below below' later)

end

theorem SameNames.map_lower {packages others : PackagePath} (same : SameNames packages others) :
    packages.map lower = others.map lower := by
  induction same with
  | nil => rfl
  | cons first _ ih => rw [List.map_cons,List.map_cons,lower_eq_of_sameLetters first,ih]

theorem joined_eq_iff {names others : List String} (written : ∀ name ∈ names, Path.Written name)
    (written' : ∀ name ∈ others, Path.Written name) :
    Path.joined names = Path.joined others ↔ names = others := by
  refine ⟨fun same => ?_,congrArg _⟩
  by_cases none : names = []
  · have empty := (joined_eq_empty_iff written).mpr none
    rw [none,(joined_eq_empty_iff written').mp (same ▸ empty)]
  · have some : others ≠ [] := by
      rintro rfl
      exact none ((joined_eq_empty_iff written).mp same)
    exact Path.joined_inj none some written written' same

theorem mem_steps_of_tail {name : String} {step : String × String} {rest : PackagePath}
    (member : step ∈ steps rest) : step ∈ steps (name :: rest) := by
  cases rest with
  | nil => cases member
  | cons next more => exact List.mem_cons_of_mem _ member

/-- Own names rebuild a hierarchy package by package, each from the own name and its parent. -/
theorem sameNames_of_ownNames {root root' : String} {below below' : PackagePath}
    (same : SameLetters root.toList root'.toList)
    (siblings : TellsSiblings (root :: below) (root' :: below'))
    (rows : (ownNames (root :: below)).map lower = (ownNames (root' :: below')).map lower) :
    SameNames (root :: below) (root' :: below') := by
  refine .cons same ?_
  induction below generalizing root root' below' with
  | nil =>
    cases below' with
    | nil => exact .nil
    | cons => cases rows
  | cons name rest ih =>
    cases below' with
    | nil => cases rows
    | cons name' rest' =>
      obtain ⟨first,later⟩ := List.cons.inj rows
      have head := siblings (root,name) List.mem_cons_self (root',name') List.mem_cons_self same
        first
      -- The packages that are now known to be the same are the parents of the next ones.
      refine .cons head (ih head ?_ later)
      exact fun step member step' member' =>
        siblings step (mem_steps_of_tail member) step' (mem_steps_of_tail member')

section
variable {root root' : String} {below below' : PackagePath}
  (same : SameLetters root.toList root'.toList)
include same

/-- Hierarchies under one root that have the same folders are the same. -/
theorem sameNames_of_folders {logic : FolderLogic}
    (plain : ∀ name ∈ root :: below, PlainName name)
    (plain' : ∀ name ∈ root' :: below', PlainName name)
    (siblings : logic = .short → TellsSiblings (root :: below) (root' :: below'))
    (rows : folders logic (root :: below) = folders logic (root' :: below')) :
    SameNames (root :: below) (root' :: below') := by
  cases logic with
  | short => exact sameNames_of_ownNames same (siblings rfl) rows
  | full =>
    exact .cons same (sameNames_of_map_lower (List.forall_mem_cons.mp plain).2
      (List.forall_mem_cons.mp plain').2 rows)
  | fullWithRoot => exact sameNames_of_map_lower plain plain' rows

theorem sameNames_of_packageFolder {logic : FolderLogic}
    (plain : ∀ name ∈ root :: below, PlainName name)
    (plain' : ∀ name ∈ root' :: below', PlainName name)
    (own : logic = .short → "" ∉ ownNames (root :: below))
    (own' : logic = .short → "" ∉ ownNames (root' :: below'))
    (siblings : logic = .short → TellsSiblings (root :: below) (root' :: below'))
    (folder : packageFolder logic (root :: below) = packageFolder logic (root' :: below')) :
    SameNames (root :: below) (root' :: below') :=
  sameNames_of_folders same plain plain' siblings
    ((joined_eq_iff (written_folders plain own) (written_folders plain' own')).mp folder)

end

/-- Under one parent a name says as much as what it has of its own. -/
theorem sameLetters_iff_ownName {parent parent' name name' : String} (named : NamedFor parent name)
    (named' : NamedFor parent' name') (parents : SameLetters parent.toList parent'.toList) :
    SameLetters name.toList name'.toList ↔
      SameLetters (ownName parent name).toList (ownName parent' name').toList := by
  conv_lhs => rw [named.ownName.2,named'.ownName.2]
  simp only [String.toList_append,List.append_assoc]
  rw [sameLetters_append_iff parents,sameLetters_append_iff rfl]

theorem tellsSiblings_of_named {packages others : PackagePath}
    (plain : ∀ name ∈ packages, PlainName name) (plain' : ∀ name ∈ others, PlainName name)
    (named : ∀ step ∈ steps packages, NamedFor step.1 step.2)
    (named' : ∀ step ∈ steps others, NamedFor step.1 step.2) : TellsSiblings packages others := by
  intro step member step' member' parents own
  have letters := (lower_eq_iff (isPlain_ownName plain member)
    (isPlain_ownName plain' member')).mp own
  exact (sameLetters_iff_ownName (named step member) (named' step' member') parents).mpr letters

theorem SameNames.map_lower_ownNames {packages others : PackagePath}
    (same : SameNames packages others)
    (named : ∀ step ∈ steps packages, NamedFor step.1 step.2)
    (named' : ∀ step ∈ steps others, NamedFor step.1 step.2) :
    (ownNames packages).map lower = (ownNames others).map lower := by
  induction same with
  | nil => rfl
  | @cons parent parent' rest rest' first later ih =>
    cases later with
    | nil => rfl
    | @cons name name' more more' second further =>
      have own := (sameLetters_iff_ownName (named (parent,name) List.mem_cons_self)
        (named' (parent',name') List.mem_cons_self) first).mp second
      have tails := ih (fun step member => named step (mem_steps_of_tail member))
        fun step member => named' step (mem_steps_of_tail member)
      rw [ownNames,ownNames,List.map_cons,List.map_cons,lower_eq_of_sameLetters own,tails]

namespace Suits
variable {logic : FolderLogic} {packages : PackagePath}

theorem own (suits : Suits logic packages) : logic = .short → "" ∉ ownNames packages := by
  intro short member
  rw [ownNames_eq_map] at member
  obtain ⟨step,below,empty⟩ := List.mem_map.mp member
  exact (suits.named short step below).ownName.1 empty

theorem folders_eq {others : PackagePath} (suits : Suits logic packages)
    (suits' : Suits logic others) (same : SameNames packages others) :
    folders logic packages = folders logic others := by
  cases logic with
  | short => exact same.map_lower_ownNames (suits.named rfl) (suits'.named rfl)
  | full =>
    cases same with
    | nil => rfl
    | cons _ later => exact SameNames.map_lower later
  | fullWithRoot => exact same.map_lower

end Suits

/-- A package has the folders of its parent and one more. -/
theorem exists_folders_concat (logic : FolderLogic) (root child : String) (below : PackagePath) :
    ∃ own, folders logic (root :: below ++ [child]) = folders logic (root :: below) ++ [own] := by
  cases logic with
  | short =>
    obtain ⟨last,ends⟩ : ∃ last, (root :: below).getLast? = some last :=
      ⟨_,List.getLast?_eq_some_getLast (List.cons_ne_nil root below)⟩
    refine ⟨lower (ownName last child),?_⟩
    simp only [folders]
    rw [ownNames_eq_map,steps_concat ends,List.map_append,← ownNames_eq_map,List.map_append]
    rfl
  | full => exact ⟨lower child,by simp [folders]⟩
  | fullWithRoot => exact ⟨lower child,by simp [folders]⟩

section
variable {logic : FolderLogic} {root root' : String} {below below' : PackagePath}

theorem exists_packageFolder_concat {child : String} (suits : Suits logic (root :: below))
    (suits' : Suits logic (root :: below ++ [child])) :
    ∃ segment, segment ≠ "" ∧ '/' ∉ segment.toList ∧
      packageFolder logic (root :: below ++ [child]) =
        under (packageFolder logic (root :: below)) segment := by
  obtain ⟨segment,whole⟩ := exists_folders_concat logic root child below
  have written := written_folders suits'.plain suits'.own
  rw [whole] at written
  have last : Path.Written segment := written segment (by simp)
  have single : ∀ name ∈ [segment], Path.Written name := by simpa using last
  have joined := under_joined (written_folders suits.plain suits.own) single
  rw [Path.joined_singleton] at joined
  refine ⟨segment,last.nonempty,last.whole,?_⟩
  rw [packageFolder,packageFolder,whole]
  exact joined.symm

/-- Under one root, two packages share a folder if and only if their hierarchies are the same up to
case, and the folder of a package lies directly in that of its parent. -/
theorem packageFolder_hierarchical (same : SameLetters root.toList root'.toList)
    (suits : Suits logic (root :: below)) (suits' : Suits logic (root' :: below')) :
    (packageFolder logic (root :: below) = packageFolder logic (root' :: below') ↔
      SameNames (root :: below) (root' :: below')) ∧
    ∀ child, Suits logic (root :: below ++ [child]) → ∃ segment, segment ≠ "" ∧
      '/' ∉ segment.toList ∧ packageFolder logic (root :: below ++ [child]) =
        under (packageFolder logic (root :: below)) segment := by
  refine ⟨⟨?_,?_⟩,fun child extended => exists_packageFolder_concat suits extended⟩
  · refine sameNames_of_packageFolder same suits.plain suits'.plain suits.own suits'.own ?_
    intro short
    exact tellsSiblings_of_named suits.plain suits'.plain (suits.named short) (suits'.named short)
  · intro names
    rw [packageFolder,packageFolder,suits.folders_eq suits' names]

theorem child_apart_from_sibling :
    packageFolder .short ["ZROOT","ZROOT_CHILD"] ≠ packageFolder .short ["zroot","zroot_sibling"] ∧
    ∃ segment, segment ≠ "" ∧ '/' ∉ segment.toList ∧
      packageFolder .short ["ZROOT","ZROOT_CHILD","ZROOT_CHILD_DEEP"] =
        under (packageFolder .short ["ZROOT","ZROOT_CHILD"]) segment := by
  have same : SameLetters "ZROOT".toList "zroot".toList := by decide
  have suits : Suits .short ["ZROOT","ZROOT_CHILD"] := by decide +kernel
  have suits' : Suits .short ["zroot","zroot_sibling"] := by decide +kernel
  have extended : Suits .short ["ZROOT","ZROOT_CHILD","ZROOT_CHILD_DEEP"] := by decide +kernel
  obtain ⟨folders,children⟩ := packageFolder_hierarchical same suits suits'
  refine ⟨fun folder => ?_,children _ extended⟩
  cases folders.mp folder with
  | cons _ later =>
    cases later with
    | cons child _ => exact absurd child (by decide)

end

end AbapAtlas.Layout

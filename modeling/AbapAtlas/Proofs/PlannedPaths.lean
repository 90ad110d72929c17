import AbapAtlas.Proofs.PackageTree
import AbapAtlas.Repository

/-! Paths that an import plans. Two objects meet in one file only as packages with one folder, and
under folder logics that keep whole names no two packages do. -/
namespace AbapAtlas
open Text

namespace Layout

def lead (folder : String) : List Char := if folder = "" then [] else folder.toList ++ ['/']

theorem endsPart_lead (folder : String) : EndsPart '/' (lead folder) := by
  rw [lead]
  split
  · exact Or.inl rfl
  · exact Or.inr ⟨_,rfl⟩

theorem lead_inj {folder other : String} (same : lead folder = lead other) : folder = other := by
  unfold lead at same
  split at same <;> split at same
  · simp_all
  · simp at same
  · simp at same
  · exact String.toList_inj.mp (List.append_cancel_right same)

theorem lead_under (folder path : String) :
    lead (under folder path) = lead folder ++ lead path := by
  by_cases none : path = ""
  · simp [under,lead,none]
  · by_cases here : folder = ""
    · simp [under,lead,none,here]
    · have some : folder ++ "/" ++ path ≠ "" := by simp [none]
      rw [under,if_neg none,if_neg here,lead,lead,lead,if_neg some,if_neg here,if_neg none]
      simp only [String.toList_append,List.append_assoc]
      rfl

theorem toList_filePath (srcDir : String) (logic : FolderLogic) (packages : PackagePath)
    (type name extension : String) :
    (filePath srcDir logic packages type name extension).toList =
      lead (sourceFolder srcDir) ++ (lead (packageFolder logic packages) ++
        (if upper type = "DEVC" then packageFile else fileName type name extension).toList) := by
  rw [← List.append_assoc,← lead_under,← objectFolder,filePath,lead]
  split
  · rw [List.nil_append]
  · rw [String.toList_append,String.toList_append]
    rfl

theorem notMem_joined {c : Char} {names : List String} (other : c ≠ '/')
    (absent : ∀ name ∈ names, c ∉ name.toList) : c ∉ (Path.joined names).toList := by
  rw [Path.toList_joined]
  induction names with
  | nil => simp
  | cons name rest ih =>
    obtain ⟨first,later⟩ := List.forall_mem_cons.mp absent
    cases rest with
    | nil => simpa using first
    | cons next more =>
      rw [List.map_cons,List.map_cons,List.intercalate_cons_cons]
      simpa [first,other] using ih later

theorem dot_notMem_lead {logic : FolderLogic} {packages : PackagePath}
    (plain : ∀ name ∈ packages, PlainName name) :
    '.' ∉ lead (packageFolder logic packages) := by
  have absent : '.' ∉ (packageFolder logic packages).toList := by
    refine notMem_joined (by decide) fun folder member => ?_
    exact notMem_of_isPlain (by decide) (isPlain_of_mem_folders plain member)
  rw [lead]
  split
  · exact List.not_mem_nil
  · simpa using absent

end Layout

namespace ImportedObject

def IsPackage (object : ImportedObject) : Prop := upper object.objectType = "DEVC"

instance (object : ImportedObject) : Decidable object.IsPackage := by
  unfold IsPackage
  infer_instance

def stem (object : ImportedObject) : String :=
  if object.IsPackage then "package" else lower object.objectName

def ending (object : ImportedObject) : String :=
  if object.IsPackage then "xml" else object.extension

structure WellNamed (object : ImportedObject) : Prop where
  type : PlainName object.objectType
  name : PlainName object.objectName
  packages : ∀ name ∈ object.packages, PlainName name
  last : object.IsPackage →
    ∃ last ∈ object.packages.getLast?, SameLetters last.toList object.objectName.toList

instance (object : ImportedObject) : Decidable object.WellNamed :=
  decidable_of_iff (PlainName object.objectType ∧ PlainName object.objectName ∧
      (∀ name ∈ object.packages, PlainName name) ∧ (object.IsPackage →
        ∃ last ∈ object.packages.getLast?, SameLetters last.toList object.objectName.toList))
    ⟨fun ⟨type,name,packages,last⟩ => ⟨type,name,packages,last⟩,
      fun ⟨type,name,packages,last⟩ => ⟨type,name,packages,last⟩⟩

def SameObject (a b : ImportedObject) : Prop :=
  SameLetters a.objectType.toList b.objectType.toList ∧
    SameLetters a.objectName.toList b.objectName.toList

instance (a b : ImportedObject) : Decidable (SameObject a b) := by
  unfold SameObject
  infer_instance

section
variable {a b : ImportedObject} {logic : FolderLogic} {srcDir : String}

theorem IsPackage.lower_type (package : a.IsPackage) (type : PlainName a.objectType) :
    lower a.objectType = "devc" := by
  have devc : upper a.objectType = "DEVC" := package
  rw [← lower_upper type.plain,devc]
  decide

theorem WellNamed.exists_cons (named : a.WellNamed) (package : a.IsPackage) :
    ∃ root below, a.packages = root :: below := by
  obtain ⟨last,ends,_⟩ := named.last package
  exact List.exists_cons_of_ne_nil fun none => by simp [none] at ends

theorem toList_path (type : PlainName a.objectType) :
    (ImportPlan.place srcDir logic a).path.toList =
      Layout.lead (Layout.sourceFolder srcDir) ++
        ((Layout.lead (Layout.packageFolder logic a.packages) ++ a.stem.toList) ++
          '.' :: ((lower a.objectType).toList ++ '.' :: a.ending.toList)) := by
  rw [ImportPlan.place,Layout.toList_filePath,List.append_assoc (Layout.lead _)]
  by_cases package : a.IsPackage
  · have devc : upper a.objectType = "DEVC" := package
    have parts : Layout.packageFile.toList =
        "package".toList ++ '.' :: ("devc".toList ++ '.' :: "xml".toList) := by decide
    rw [stem,ending,if_pos package,if_pos package,if_pos devc,package.lower_type type,parts]
  · have other : upper a.objectType ≠ "DEVC" := package
    rw [stem,ending,if_neg package,if_neg package,if_neg other]
    simp [Layout.fileName]

theorem isPackage_iff_of_same (type : PlainName a.objectType) (type' : PlainName b.objectType)
    (same : lower a.objectType = lower b.objectType) : a.IsPackage ↔ b.IsPackage := by
  rw [IsPackage,IsPackage,← upper_lower type.plain,same,upper_lower type'.plain]

theorem plain_stem (name : PlainName a.objectName) : ∀ c ∈ a.stem.toList, isPlain c = true := by
  rw [stem]
  split
  · exact List.all_eq_true.mp (by decide)
  · exact isPlain_of_mem_lower name.plain

theorem WellNamed.slash_notMem_stem (named : a.WellNamed) : '/' ∉ a.stem.toList :=
  notMem_of_isPlain (by decide) (plain_stem named.name)

theorem WellNamed.dot_notMem_type (named : a.WellNamed) : '.' ∉ (lower a.objectType).toList :=
  notMem_of_isPlain (by decide) (isPlain_of_mem_lower named.type.plain)

theorem WellNamed.dot_notMem_front (named : a.WellNamed) :
    '.' ∉ Layout.lead (Layout.packageFolder logic a.packages) ++ a.stem.toList := by
  have stem : '.' ∉ a.stem.toList := notMem_of_isPlain (by decide) (plain_stem named.name)
  simp [Layout.dot_notMem_lead named.packages,stem]

/-- Different objects share a file if and only if they are packages that share a folder. -/
theorem path_eq_iff (named : a.WellNamed) (named' : b.WellNamed) (apart : ¬ SameObject a b) :
    (ImportPlan.place srcDir logic a).path = (ImportPlan.place srcDir logic b).path ↔
      (a.IsPackage ∧ b.IsPackage) ∧
        Layout.packageFolder logic a.packages = Layout.packageFolder logic b.packages := by
  rw [← String.toList_inj,toList_path named.type,toList_path named'.type,
    List.append_cancel_left_eq]
  constructor
  · intro same
    obtain ⟨fronts,rests⟩ := append_cons_inj named.dot_notMem_front named'.dot_notMem_front same
    obtain ⟨kinds,_⟩ := append_cons_inj named.dot_notMem_type named'.dot_notMem_type rests
    obtain ⟨leads,stems⟩ := (Layout.endsPart_lead _).append_inj (Layout.endsPart_lead _)
      named.slash_notMem_stem named'.slash_notMem_stem fronts
    have types : lower a.objectType = lower b.objectType := String.toList_inj.mp kinds
    have both := isPackage_iff_of_same named.type named'.type types
    by_cases package : a.IsPackage
    · exact ⟨⟨package,both.mp package⟩,Layout.lead_inj leads⟩
    · rw [stem,stem,if_neg package,if_neg (mt both.mpr package),String.toList_inj] at stems
      refine absurd ⟨?_,?_⟩ apart
      · exact (lower_eq_iff named.type.plain named'.type.plain).mp types
      · exact (lower_eq_iff named.name.plain named'.name.plain).mp stems
  · rintro ⟨⟨package,package'⟩,folders⟩
    rw [folders,package.lower_type named.type,package'.lower_type named'.type,stem,stem,ending,
      ending,if_pos package,if_pos package',if_pos package,if_pos package']

end
end ImportedObject

namespace ImportPlan
open ImportedObject

structure Importable (objects : List ImportedObject) : Prop where
  named : ∀ object ∈ objects, object.WellNamed
  apart : objects.Pairwise fun a b => ¬ SameObject a b
  root : ∀ a ∈ objects, ∀ b ∈ objects, ∀ root ∈ a.packages.head?, ∀ root' ∈ b.packages.head?,
    SameLetters root.toList root'.toList

/-- That no two packages among the objects have the same folder. -/
def PackagesApart (logic : FolderLogic) (objects : List ImportedObject) : Prop :=
  objects.Pairwise fun a b => a.IsPackage ∧ b.IsPackage →
    Layout.packageFolder logic a.packages ≠ Layout.packageFolder logic b.packages

/-- That no package is lost in its parent or takes the folder name of a sibling when the name of
the parent is dropped. -/
structure Separate (objects : List ImportedObject) : Prop where
  own : ∀ object ∈ objects, "" ∉ Layout.ownNames object.packages
  siblings : ∀ a ∈ objects, ∀ b ∈ objects, Layout.TellsSiblings a.packages b.packages

section
variable {objects : List ImportedObject} {logic : FolderLogic} {srcDir : String}

theorem nodup_paths_iff (logic : FolderLogic) (srcDir : String) (importable : Importable objects) :
    ((objects.map (place srcDir logic)).map PlannedFile.path).Nodup ↔
      PackagesApart logic objects := by
  rw [List.nodup_iff_pairwise_ne,List.pairwise_map,List.pairwise_map]
  have different : ∀ {a b}, a ∈ objects → b ∈ objects → ¬ SameObject a b →
      ((place srcDir logic a).path = (place srcDir logic b).path ↔ (a.IsPackage ∧ b.IsPackage) ∧
        Layout.packageFolder logic a.packages = Layout.packageFolder logic b.packages) :=
    fun member member' apart =>
      path_eq_iff (importable.named _ member) (importable.named _ member') apart
  constructor
  · intro paths
    refine (importable.apart.and paths).imp_of_mem ?_
    rintro a b member member' ⟨apart,path⟩ packages folders
    exact path ((different member member' apart).mpr ⟨packages,folders⟩)
  · intro folders
    refine (importable.apart.and folders).imp_of_mem ?_
    rintro a b member member' ⟨apart,folder⟩ path
    obtain ⟨packages,same⟩ := (different member member' apart).mp path
    exact folder packages same

/-- Packages of one hierarchy, up to case, are one object. -/
theorem sameLetters_of_sameNames {a b : ImportedObject} (named : a.WellNamed) (named' : b.WellNamed)
    (package : a.IsPackage) (package' : b.IsPackage)
    (same : Layout.SameNames a.packages b.packages) :
    SameLetters a.objectName.toList b.objectName.toList := by
  obtain ⟨last,ends,name⟩ := named.last package
  obtain ⟨last',ends',name'⟩ := named'.last package'
  have lasts : SameLetters last.toList last'.toList := by
    refine (lower_eq_iff (named.packages last (List.mem_of_getLast? ends)).plain
      (named'.packages last' (List.mem_of_getLast? ends')).plain).mp ?_
    have rows := congrArg List.getLast? same.map_lower
    rw [List.getLast?_map,List.getLast?_map,ends,ends'] at rows
    exact Option.some.inj rows
  exact (name.symm.trans lasts).trans name'

theorem packagesApart_of_separate (importable : Importable objects)
    (separate : logic = .short → Separate objects) : PackagesApart logic objects := by
  refine importable.apart.imp_of_mem ?_
  rintro a b member member' apart ⟨package,package'⟩ folder
  have named := importable.named a member
  have named' := importable.named b member'
  obtain ⟨root,below,rows⟩ := named.exists_cons package
  obtain ⟨root',below',rows'⟩ := named'.exists_cons package'
  have roots : SameLetters root.toList root'.toList :=
    importable.root a member b member' root (by simp [rows]) root' (by simp [rows'])
  have same : Layout.SameNames a.packages b.packages := by
    rw [rows,rows'] at folder ⊢
    refine Layout.sameNames_of_packageFolder roots (rows ▸ named.packages)
      (rows' ▸ named'.packages) ?_ ?_ ?_ folder
    · exact fun short => rows ▸ (separate short).own a member
    · exact fun short => rows' ▸ (separate short).own b member'
    · exact fun short => rows ▸ rows' ▸ (separate short).siblings a member b member'
  have types : SameLetters a.objectType.toList b.objectType.toList := by
    refine (lower_eq_iff named.type.plain named'.type.plain).mp ?_
    rw [package.lower_type named.type,package'.lower_type named'.type]
  exact apart ⟨types,sameLetters_of_sameNames named named' package package' same⟩

/-- The planned paths are pairwise different if and only if no two packages have the same folder.
That holds under every folder logic that keeps whole names, and where names are cut as long as what
is left of them tells the packages of one parent apart. -/
theorem nodup_paths {disk : Disk} {root : Path} {override configured : Option FolderLogic}
    {plan : ImportPlan} (planned : make disk root objects override configured srcDir = plan)
    (importable : Importable objects) :
    ((plan.files.map PlannedFile.path).Nodup ↔ PackagesApart plan.logic objects) ∧
      ((plan.logic = .short → Separate objects) → (plan.files.map PlannedFile.path).Nodup) := by
  subst planned
  have paths := nodup_paths_iff (make disk root objects override configured srcDir).logic srcDir
    importable
  exact ⟨paths,fun separate => paths.mpr (packagesApart_of_separate importable separate)⟩

end

section Example

instance (objects : List ImportedObject) : Decidable (Importable objects) :=
  decidable_of_iff ((∀ object ∈ objects, object.WellNamed) ∧
      (objects.Pairwise fun a b => ¬ SameObject a b) ∧
      ∀ a ∈ objects, ∀ b ∈ objects, ∀ root ∈ a.packages.head?, ∀ root' ∈ b.packages.head?,
        SameLetters root.toList root'.toList)
    ⟨fun ⟨named,apart,root⟩ => ⟨named,apart,root⟩,fun ⟨named,apart,root⟩ => ⟨named,apart,root⟩⟩

def OneTree (objects : List ImportedObject) : Prop :=
  ∀ a ∈ objects, ∀ b ∈ objects, ∀ step ∈ Layout.steps a.packages,
    (∀ step' ∈ Layout.steps b.packages, SameLetters step.2.toList step'.2.toList →
      SameLetters step.1.toList step'.1.toList) ∧
    ∀ root ∈ b.packages.head?, ¬ SameLetters step.2.toList root.toList

instance (objects : List ImportedObject) : Decidable (OneTree objects) := by
  unfold OneTree
  infer_instance

def emptyRepository : Disk := { entries := [], distinct := List.nodup_nil }

def cutAlike : List ImportedObject :=
  [⟨"DEVC","ZR_A",["ZR","ZR_A"],"xml"⟩,⟨"DEVC","A",["ZR","A"],"xml"⟩]

theorem cutAlike_collide : Importable cutAlike ∧ OneTree cutAlike ∧
    ¬ ((make emptyRepository ⟨.root,[]⟩ cutAlike (some .short) none "src").files.map
      PlannedFile.path).Nodup := by
  decide +kernel

def childAndSibling : List ImportedObject :=
  [⟨"DEVC","ZR",["ZR"],"xml"⟩,⟨"DEVC","ZR_A",["ZR","ZR_A"],"xml"⟩,⟨"DEVC","B",["ZR","B"],"xml"⟩]

theorem childAndSibling_apart :
    ((make emptyRepository ⟨.root,[]⟩ childAndSibling (some .short) none "src").files.map
      PlannedFile.path).Nodup := by
  have importable : Importable childAndSibling := by decide +kernel
  have own : ∀ object ∈ childAndSibling, "" ∉ Layout.ownNames object.packages := by
    decide +kernel
  have siblings : ∀ a ∈ childAndSibling, ∀ b ∈ childAndSibling,
      Layout.TellsSiblings a.packages b.packages := by decide +kernel
  exact (nodup_paths rfl importable).2 fun _ => ⟨own,siblings⟩

end Example
end ImportPlan

end AbapAtlas

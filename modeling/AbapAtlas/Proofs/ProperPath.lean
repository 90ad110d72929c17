import AbapAtlas.Proofs.PlannedPaths

/-! Planned paths within the repository. The names of a namespace have slashes of their own, and a
package can lose its whole name to its parent, so a path may come to start with a slash or to have
two in a row. -/
namespace AbapAtlas.Layout
open Text

structure Proper (srcDir path : String) : Prop where
  relative : path.toList.head? ≠ some '/'
  whole : [] ∉ cutAt '/' path.toList
  below : srcDir = "" ∨ srcDir = "." ∨ ∃ rest, rest ≠ "" ∧ path = srcDir ++ "/" ++ rest

def SourceRoot (srcDir : String) : Prop := srcDir ≠ "" → [] ∉ cutAt '/' srcDir.toList

structure WordName (text : String) : Prop where
  nonempty : text ≠ ""
  word : ∀ c ∈ text.toList, isWord c = true

instance (text : String) : Decidable (WordName text) :=
  decidable_of_iff (text ≠ "" ∧ text.toList.all isWord = true)
    ⟨fun ⟨nonempty,word⟩ => ⟨nonempty,List.all_eq_true.mp word⟩,
      fun ⟨nonempty,word⟩ => ⟨nonempty,List.all_eq_true.mpr word⟩⟩

/-- A name of an object or a package, which may stand behind a namespace between two slashes. -/
inductive Legal : String → Prop where
  | plain {name : String} (proper : WordName name) : Legal name
  | namespaced {space name : String} (spaced : WordName space) (proper : WordName name) :
      Legal ("/" ++ space ++ "/" ++ name)

def Namespaced (name : String) : Prop := '/' ∈ name.toList

instance (name : String) : Decidable (Namespaced name) := by unfold Namespaced; infer_instance

/-- That the names of packages make folders: none below the source folder is one of a namespace, and
where the parent's name is dropped, something of each name is left. A single package may be left
without a folder of its own. -/
def MakeFolders (logic : FolderLogic) (packages : PackagePath) : Prop :=
  match logic with
  | .fullWithRoot => ∀ name ∈ packages, ¬ Namespaced name
  | .full => ∀ name ∈ packages.drop 1, ¬ Namespaced name
  | .short => (∃ root, packages = [root,root ++ "_"]) ∨ ∀ step ∈ steps packages,
      NamedFor step.1 step.2 ∨ (¬ Namespaced step.2 ∧ step.2 ≠ step.1 ++ "_")

section Slashes

def Headed (text : List Char) : Prop := '/' ∈ text → text.head? = some '/'

theorem nil_mem_cutAt_of_head {text : List Char} (head : text.head? = some '/') :
    [] ∈ cutAt '/' text := by
  cases text with
  | nil => cases head
  | cons c rest =>
    cases head
    exact cutAt_append_cons '/' [] rest ▸ List.mem_append_left _ (List.mem_singleton_self _)

theorem Headed.nil_notMem_cutAt_iff {text : List Char} (headed : Headed text) :
    [] ∉ cutAt '/' text ↔ text ≠ [] ∧ '/' ∉ text := by
  by_cases slash : '/' ∈ text
  · simp [nil_mem_cutAt_of_head (headed slash),slash]
  · simp [cutAt_of_notMem slash,slash,eq_comm]

theorem Headed.lower {text : String} (headed : Headed text.toList) :
    Headed (Text.lower text).toList := by
  intro slash
  have head := headed ((slash_mem_lower_iff text).mp slash)
  rw [toList_lower]
  cases letters : text.toList with
  | nil => rw [letters] at head; cases head
  | cons c rest =>
    rw [letters] at head
    cases head
    rfl

theorem lower_eq_empty_iff (text : String) : lower text = "" ↔ text = "" := by
  constructor
  · intro empty
    by_contra some
    exact lower_ne_empty some empty
  · rintro rfl
    rfl

theorem Legal.ne_empty {name : String} (legal : Legal name) : name ≠ "" := by
  cases legal with
  | plain proper => exact proper.nonempty
  | namespaced => simp

theorem WordName.slash_notMem {text : String} (proper : WordName text) : '/' ∉ text.toList :=
  fun member => absurd (proper.word '/' member) (by decide)

/-- A legal name has the two slashes of its namespace or none. -/
theorem Legal.count {name : String} (legal : Legal name) : name.toList.count '/' =
    if name.toList.head? = some '/' then 2 else 0 := by
  cases legal with
  | plain proper =>
    rw [List.count_eq_zero.mpr proper.slash_notMem,if_neg]
    exact fun head => proper.slash_notMem (List.mem_of_mem_head? head)
  | @namespaced space name spaced proper =>
    have letters : ("/" ++ space ++ "/" ++ name).toList =
        '/' :: (space.toList ++ '/' :: name.toList) := by
      simp
    rw [letters,List.head?_cons,if_pos rfl,List.count_cons_self,List.count_append,
      List.count_cons_self,List.count_eq_zero.mpr spaced.slash_notMem,
      List.count_eq_zero.mpr proper.slash_notMem]

theorem Legal.headed {name : String} (legal : Legal name) : Headed name.toList := by
  intro slash
  by_contra other
  have none := legal.count
  rw [if_neg other] at none
  exact List.count_eq_zero.mp none slash

end Slashes

section OwnNames

theorem ownName_cases (parent name : String) :
    (∃ own, name = parent ++ "_" ++ own ∧ ownName parent name = own) ∨
      ((∀ own, name ≠ parent ++ "_" ++ own) ∧ ownName parent name = name) := by
  by_cases starts : ∃ own, name = parent ++ "_" ++ own
  · obtain ⟨own,rfl⟩ := starts
    exact Or.inl ⟨own,rfl,ownName_append parent own⟩
  · refine Or.inr ⟨not_exists.mp starts,?_⟩
    rw [ownName]
    split
    · next rest dropped =>
      obtain ⟨matched,letters,all⟩ := exists_of_dropLiteral? dropped
      have same : (parent ++ "_").toList = matched := by
        simpa using all
      refine absurd ⟨String.ofList rest,?_⟩ starts
      rw [← String.toList_inj,letters,← same,String.toList_append (s := parent ++ "_"),String.toList_ofList]
    · rfl

/-- Behind the name of the parent there is no slash: both names have one at their head or neither,
and as many of them. -/
theorem slash_notMem_own {parent own : String} (legal : Legal parent)
    (legal' : Legal (parent ++ "_" ++ own)) : '/' ∉ own.toList := by
  have letters : (parent ++ "_" ++ own).toList = parent.toList ++ '_' :: own.toList := by
    simp
  have count := legal'.count
  have head : (parent.toList ++ '_' :: own.toList).head? = parent.toList.head? := by
    obtain ⟨c,rest,split⟩ := List.exists_cons_of_ne_nil
      (mt String.toList_eq_nil_iff.mp legal.ne_empty)
    rw [split]
    rfl
  rw [letters,head,← legal.count,List.count_append,List.count_cons_of_ne (by decide)] at count
  exact List.count_eq_zero.mp (by omega)

theorem headed_ownName {parent name : String} (legal : Legal parent) (legal' : Legal name) :
    Headed (ownName parent name).toList := by
  rcases ownName_cases parent name with ⟨own,rfl,same⟩ | ⟨_,same⟩
  · rw [same]
    exact fun slash => absurd slash (slash_notMem_own legal legal')
  · rw [same]
    exact legal'.headed

theorem ownName_proper_iff {parent name : String} (legal : Legal parent) (legal' : Legal name) :
    (ownName parent name ≠ "" ∧ '/' ∉ (ownName parent name).toList) ↔
      NamedFor parent name ∨ (¬ Namespaced name ∧ name ≠ parent ++ "_") := by
  rcases ownName_cases parent name with ⟨own,rfl,same⟩ | ⟨none,same⟩
  · have slashless := slash_notMem_own legal legal'
    rw [same]
    constructor
    · rintro ⟨nonempty,_⟩
      exact Or.inl ⟨own,nonempty,rfl⟩
    · rintro (⟨other,nonempty,equal⟩ | ⟨_,other⟩)
      · have rest : own = other := by simpa using equal
        exact ⟨rest ▸ nonempty,slashless⟩
      · exact ⟨fun empty => other (by simp [empty]),slashless⟩
  · rw [same]
    have unnamed : ¬ NamedFor parent name := fun ⟨own,_,equal⟩ => none own equal
    have whole : name ≠ parent ++ "_" := by simpa using none ""
    simp only [legal'.ne_empty,unnamed,whole,Namespaced,ne_eq,not_false_eq_true,true_and,and_true,
      false_or]

theorem ownName_eq_empty_iff {parent name : String} (legal : Legal name) :
    ownName parent name = "" ↔ name = parent ++ "_" := by
  rcases ownName_cases parent name with ⟨own,rfl,same⟩ | ⟨none,same⟩
  · rw [same]
    simp
  · rw [same]
    have whole : name ≠ parent ++ "_" := by simpa using none ""
    exact iff_of_false legal.ne_empty whole

end OwnNames

section Folders

theorem joined_cons (name : String) {names : List String} (more : names ≠ []) :
    Path.joined (name :: names) = name ++ "/" ++ Path.joined names := by
  rw [← List.singleton_append,Path.joined_append (List.cons_ne_nil _ _) more,Path.joined_singleton]

theorem joined_eq_empty {names : List String} (empty : Path.joined names = "") :
    names = [] ∨ names = [""] := by
  rcases names with _ | ⟨name,names⟩
  · exact Or.inl rfl
  · by_cases single : names = []
    · rw [single,Path.joined_singleton] at empty
      exact Or.inr (by rw [single,empty])
    · rw [joined_cons name single] at empty
      simp at empty

theorem nil_notMem_cutAt_joined_iff {names : List String} (nonempty : names ≠ []) :
    [] ∉ cutAt '/' (Path.joined names).toList ↔ ∀ name ∈ names, [] ∉ cutAt '/' name.toList := by
  induction names with
  | nil => exact absurd rfl nonempty
  | cons name names ih =>
    by_cases single : names = []
    · rw [single,Path.joined_singleton,List.forall_mem_singleton]
    · have letters : (Path.joined (name :: names)).toList =
          name.toList ++ '/' :: (Path.joined names).toList := by
        simp [joined_cons name single]
      rw [letters,cutAt_append_cons,List.mem_append,not_or,ih single,List.forall_mem_cons]

/-- The names of folders make a path, or none at all, if all of them are names without slashes, or if
there is but one and it is empty. -/
theorem joined_proper_iff {names : List String} (headed : ∀ name ∈ names, Headed name.toList) :
    (Path.joined names = "" ∨ [] ∉ cutAt '/' (Path.joined names).toList) ↔
      names = [""] ∨ ∀ name ∈ names, name ≠ "" ∧ '/' ∉ name.toList := by
  have single : ∀ name ∈ names, [] ∉ cutAt '/' name.toList ↔ name ≠ "" ∧ '/' ∉ name.toList := by
    intro name member
    rw [(headed name member).nil_notMem_cutAt_iff,ne_eq,String.toList_eq_nil_iff]
  by_cases none : names = []
  · subst none
    exact iff_of_true (Or.inl rfl) (Or.inr (by simp))
  · rw [nil_notMem_cutAt_joined_iff none,forall₂_congr single]
    refine or_congr_left' fun _ => ⟨fun empty => (joined_eq_empty empty).resolve_left none,?_⟩
    rintro rfl
    rfl

theorem ownNames_eq_empty_iff {packages : PackagePath} (legal : ∀ name ∈ packages, Legal name) :
    ownNames packages = [""] ↔ ∃ root, packages = [root,root ++ "_"] := by
  rw [ownNames_eq_map]
  rcases packages with _ | ⟨root,_ | ⟨child,_ | ⟨next,more⟩⟩⟩
  · simp [steps]
  · simp [steps]
  · have named : Legal child := legal child (by simp)
    simp [steps,ownName_eq_empty_iff named]
  · simp [steps]

theorem headed_folders {packages : PackagePath} (legal : ∀ name ∈ packages, Legal name)
    (logic : FolderLogic) : ∀ folder ∈ folders logic packages, Headed folder.toList := by
  intro folder member
  obtain ⟨name,inside,rfl⟩ := List.mem_map.mp member
  refine Headed.lower ?_
  cases logic with
  | short =>
    rw [ownNames_eq_map] at inside
    obtain ⟨step,below,rfl⟩ := List.mem_map.mp inside
    obtain ⟨parent,child⟩ := mem_of_mem_steps below
    exact headed_ownName (legal _ parent) (legal _ child)
  | full => exact (legal name (List.mem_of_mem_drop inside)).headed
  | fullWithRoot => exact (legal name inside).headed

theorem map_lower_eq_empty_iff (names : List String) : names.map lower = [""] ↔ names = [""] := by
  rcases names with _ | ⟨name,_ | ⟨next,more⟩⟩ <;> simp [lower_eq_empty_iff]

theorem lower_proper_iff (name : String) :
    (lower name ≠ "" ∧ '/' ∉ (lower name).toList) ↔ name ≠ "" ∧ '/' ∉ name.toList := by
  rw [ne_eq,lower_eq_empty_iff,slash_mem_lower_iff]

theorem wholeNames_proper_iff {names : List String} (legal : ∀ name ∈ names, Legal name) :
    (names.map lower = [""] ∨ ∀ folder ∈ names.map lower, folder ≠ "" ∧ '/' ∉ folder.toList) ↔
      ∀ name ∈ names, ¬ Namespaced name := by
  have filled : names ≠ [""] := by
    rintro rfl
    exact (legal "" List.mem_cons_self).ne_empty rfl
  rw [map_lower_eq_empty_iff,or_iff_right filled,List.forall_mem_map]
  refine forall₂_congr fun name member => ?_
  rw [lower_proper_iff,Namespaced]
  exact and_iff_right (legal name member).ne_empty

theorem folders_proper_iff {packages : PackagePath} (legal : ∀ name ∈ packages, Legal name)
    (logic : FolderLogic) :
    (folders logic packages = [""] ∨
      ∀ folder ∈ folders logic packages, folder ≠ "" ∧ '/' ∉ folder.toList) ↔
      MakeFolders logic packages := by
  cases logic with
  | full => exact wholeNames_proper_iff fun name member => legal name (List.mem_of_mem_drop member)
  | fullWithRoot => exact wholeNames_proper_iff legal
  | short =>
    rw [folders,map_lower_eq_empty_iff,ownNames_eq_empty_iff legal,List.forall_mem_map,
      ownNames_eq_map,List.forall_mem_map]
    refine or_congr_right (forall₂_congr fun step member => ?_)
    obtain ⟨parent,child⟩ := mem_of_mem_steps member
    rw [lower_proper_iff]
    exact ownName_proper_iff (legal _ parent) (legal _ child)

end Folders

section FilePath
variable {type name extension : String}

theorem headed_fileName (legal : Legal name) (type' : '/' ∉ type.toList)
    (extension' : '/' ∉ extension.toList) : Headed (fileName type name extension).toList := by
  intro slash
  have inside : '/' ∈ name.toList := by
    simpa [slash_mem_fileName_iff,type',extension'] using slash
  rw [toList_fileName,List.head?_append_of_ne_nil]
  · exact legal.headed.lower ((slash_mem_lower_iff name).mpr inside)
  · exact mt String.toList_eq_nil_iff.mp (lower_ne_empty legal.ne_empty)

/-- The file of an object that is no package is one name unless the object is in a namespace. -/
theorem file_proper_iff (legal : Legal name) (type' : '/' ∉ type.toList)
    (extension' : '/' ∉ extension.toList) :
    [] ∉ cutAt '/' (if upper type = "DEVC" then packageFile
      else fileName type name extension).toList ↔ upper type = "DEVC" ∨ ¬ Namespaced name := by
  split
  · next package => exact iff_of_true (by decide) (Or.inl package)
  · next other =>
    have nonempty : (fileName type name extension).toList ≠ [] := by
      rw [toList_fileName]
      simp
    rw [(headed_fileName legal type' extension').nil_notMem_cutAt_iff,and_iff_right nonempty,
      or_iff_right other]
    simp [slash_mem_fileName_iff,type',extension',Namespaced]

theorem nil_notMem_cutAt_lead_iff (folder : String) (rest : List Char) :
    [] ∉ cutAt '/' (lead folder ++ rest) ↔
      (folder = "" ∨ [] ∉ cutAt '/' folder.toList) ∧ [] ∉ cutAt '/' rest := by
  rw [lead]
  split
  · next none => simp [none]
  · next some =>
    rw [List.append_assoc,List.singleton_append,cutAt_append_cons,List.mem_append,not_or,
      or_iff_right some]

theorem sourceFolder_of_root {srcDir : String} (root : SourceRoot srcDir) :
    sourceFolder srcDir = if srcDir = "." then "" else srcDir := by
  have trimmed : trimBy (· == '/') srcDir = srcDir := by
    by_cases here : srcDir = ""
    · rw [here]
      decide
    · exact trimBy_of_whole (root here)
  rw [sourceFolder,trimmed]

theorem sourceFolder_whole {srcDir : String} (root : SourceRoot srcDir) :
    sourceFolder srcDir = "" ∨ [] ∉ cutAt '/' (sourceFolder srcDir).toList := by
  rw [sourceFolder_of_root root]
  split
  · exact Or.inl rfl
  · exact or_iff_not_imp_left.mpr root

variable {srcDir : String} {logic : FolderLogic} {packages : PackagePath}

theorem below_filePath (root : SourceRoot srcDir) : srcDir = "" ∨ srcDir = "." ∨
    ∃ rest, rest ≠ "" ∧ filePath srcDir logic packages type name extension = srcDir ++ "/" ++ rest := by
  by_cases empty : srcDir = ""
  · exact Or.inl empty
  · by_cases here : srcDir = "."
    · exact Or.inr (Or.inl here)
    · have letters := toList_filePath srcDir logic packages type name extension
      have some : (if upper type = "DEVC" then packageFile else fileName type name extension) ≠ "" := by
        split
        · decide
        · exact mt String.toList_eq_nil_iff.mpr (by simp [toList_fileName])
      generalize (if upper type = "DEVC" then packageFile else fileName type name extension) = file
        at letters some
      rw [sourceFolder_of_root root,if_neg here,lead,if_neg empty] at letters
      refine Or.inr (Or.inr ⟨String.ofList (lead (packageFolder logic packages) ++ file.toList),?_,?_⟩)
      · exact mt String.toList_eq_nil_iff.mpr (by simp [some])
      · rw [← String.toList_inj,letters]
        simp

/-- The planned path of an object with legal names is proper if and only if the object is a package
or in no namespace, and the names of its packages make folders. -/
theorem filePath_proper_iff (root : SourceRoot srcDir) (packagesLegal : ∀ name ∈ packages, Legal name)
    (nameLegal : Legal name) (type' : '/' ∉ type.toList) (extension' : '/' ∉ extension.toList) :
    Proper srcDir (filePath srcDir logic packages type name extension) ↔
      (upper type = "DEVC" ∨ ¬ Namespaced name) ∧ MakeFolders logic packages := by
  have whole : [] ∉ cutAt '/' (filePath srcDir logic packages type name extension).toList ↔
      (upper type = "DEVC" ∨ ¬ Namespaced name) ∧ MakeFolders logic packages := by
    rw [toList_filePath,nil_notMem_cutAt_lead_iff,nil_notMem_cutAt_lead_iff,
      file_proper_iff nameLegal type' extension',packageFolder,
      and_iff_right (sourceFolder_whole root),and_comm]
    refine and_congr_right' ?_
    exact (joined_proper_iff (headed_folders packagesLegal logic)).trans
      (folders_proper_iff packagesLegal logic)
  rw [← whole]
  constructor
  · exact Proper.whole
  · intro parts
    exact ⟨fun head => parts (nil_mem_cutAt_of_head head),parts,below_filePath root⟩

section Example

theorem namespaced_path_absolute : SourceRoot "." ∧ Legal "ZROOT" ∧ Legal "/ABC/IF_X" ∧
    filePath "." .short ["ZROOT"] "INTF" "/ABC/IF_X" "abap" = "/abc/if_x.intf.abap" ∧
    ¬ Proper "." (filePath "." .short ["ZROOT"] "INTF" "/ABC/IF_X" "abap") := by
  have path : filePath "." .short ["ZROOT"] "INTF" "/ABC/IF_X" "abap" = "/abc/if_x.intf.abap" := by
    decide +kernel
  refine ⟨fun _ => by decide +kernel,.plain (by decide +kernel),?_,path,?_⟩
  · exact Legal.namespaced (by decide +kernel : WordName "ABC") (by decide +kernel : WordName "IF_X")
  · rw [path]
    exact fun proper => proper.relative (by decide)

theorem child_path_proper :
    Proper "src" (filePath "src" .short ["ZROOT","ZROOT_CHILD"] "INTF" "ZIF_A" "abap") := by
  have legal : ∀ name ∈ ["ZROOT","ZROOT_CHILD"], Legal name := by
    simp only [List.forall_mem_cons]
    exact ⟨.plain (by decide +kernel),.plain (by decide +kernel),by simp⟩
  have folders : MakeFolders .short ["ZROOT","ZROOT_CHILD"] := by
    refine Or.inr ?_
    rw [steps,List.tail_cons,List.zip_cons_cons,List.zip_nil_right,List.forall_mem_singleton]
    exact Or.inl ⟨"CHILD",by decide,by decide⟩
  exact (filePath_proper_iff (fun _ => by decide) legal (.plain (by decide +kernel)) (by decide)
    (by decide)).mpr ⟨Or.inr (by decide),folders⟩

/-- A package whose name is nothing but that of its parent and an underscore leaves no name for its
folder. -/
example : filePath "src" .short ["ZR","ZR_","ZR__A"] "CLAS" "ZCL" "abap" = "src//a/zcl.clas.abap" := by
  decide +kernel

end Example

end FilePath
end AbapAtlas.Layout

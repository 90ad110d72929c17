import AbapAtlas.Proofs.FileTree
import AbapAtlas.SourceIndex
import Mathlib.Data.List.Forall2
import Mathlib.Data.List.Nodup

/-! The index of a source folder. A file that is found is one that lies below the folder, has a
wanted extension and is not ignored; and a name is looked up to the first file found with it. -/
namespace AbapAtlas

namespace Disk

theorem found_of_mem {disk : Disk} {address : Address} {entry : Entry} (some : address ≠ [])
    (member : (address,entry) ∈ disk.entries) : disk.get? address = Option.some entry := by
  rw [get?,if_neg some]
  obtain ⟨before,after,split⟩ := List.append_of_mem member
  have distinct := disk.distinct
  rw [split,List.map_append,List.map_cons,List.nodup_append] at distinct
  have absent : ∀ item ∈ before, item.1 ≠ address := fun item inside =>
    distinct.2.2 _ (List.mem_map_of_mem inside) _ List.mem_cons_self
  rw [split,List.lookup_append,List.lookup_eq_none_iff.mpr]
  · simp
  · intro item inside
    exact bne_iff_ne.mpr (Ne.symm (absent item inside))

theorem mem_of_found {disk : Disk} {address : Address} {entry : Entry} (some : address ≠ [])
    (found : disk.get? address = Option.some entry) : (address,entry) ∈ disk.entries := by
  rw [get?,if_neg some] at found
  obtain ⟨before,after,split,-⟩ := List.lookup_eq_some_iff.mp found
  rw [split]
  simp

theorem mem_filesBelow_iff {disk : Disk} {folder : Address} {names : List String} :
    names ∈ disk.filesBelow folder ↔ names ≠ [] ∧ disk.throughFolders folder names = true ∧
      ∃ content, disk.get? (folder ++ names) = some (.file content) := by
  simp only [filesBelow,below,List.mem_map,List.mem_filter,List.mem_filterMap]
  constructor
  · rintro ⟨⟨found,entry⟩,⟨⟨⟨address,stored⟩,member,chosen⟩,isFile⟩,rfl⟩
    simp only at chosen isFile
    split at chosen
    · rename_i conditions
      obtain ⟨⟨rest,rfl⟩,nonempty,through⟩ := conditions
      rw [Option.some.injEq,Prod.mk.injEq,List.drop_left] at chosen
      rw [List.drop_left] at nonempty through
      obtain ⟨rfl,rfl⟩ := chosen
      cases stored with
      | file content =>
        exact ⟨nonempty,through,content,found_of_mem (by simp [nonempty]) member⟩
      | link target => cases isFile
      | folder => cases isFile
    · cases chosen
  · rintro ⟨nonempty,through,content,found⟩
    have member := mem_of_found (by simp [nonempty]) found
    refine ⟨(names,.file content),⟨⟨(folder ++ names,.file content),member,?_⟩,rfl⟩,rfl⟩
    simp only [List.drop_left]
    exact if_pos ⟨List.prefix_append _ _,nonempty,through⟩

end Disk

theorem mapM_ok {ε α β : Type} {f : α → Except ε β} {items : List α} {values : List β}
    (mapped : items.mapM f = .ok values) :
    List.Forall₂ (fun item value => f item = .ok value) items values := by
  induction items generalizing values with
  | nil =>
    rw [List.mapM_nil] at mapped
    cases mapped
    exact .nil
  | cons item rest ih =>
    rw [List.mapM_cons] at mapped
    cases first : f item with
    | error fault => rw [first] at mapped; cases mapped
    | ok value =>
      cases later : rest.mapM f with
      | error fault => rw [first,later] at mapped; cases mapped
      | ok more =>
        rw [first,later] at mapped
        cases mapped
        exact .cons first (ih later)

theorem exists_mapM_ok {ε α β : Type} {f : α → Except ε β} {items : List α}
    (each : ∀ item ∈ items, ∃ value, f item = .ok value) : ∃ values, items.mapM f = .ok values := by
  induction items with
  | nil => exact ⟨[],rfl⟩
  | cons item rest ih =>
    obtain ⟨value,first⟩ := each item List.mem_cons_self
    obtain ⟨values,later⟩ := ih (fun other member => each other (List.mem_cons_of_mem _ member))
    refine ⟨value :: values,?_⟩
    rw [List.mapM_cons,first,later]
    rfl

theorem exists_right_of_mem {α β : Type} {relation : α → β → Prop} {items : List α}
    {values : List β} (related : List.Forall₂ relation items values) {item : α}
    (member : item ∈ items) : ∃ value ∈ values, relation item value := by
  induction related with
  | nil => cases member
  | cons head tail ih =>
    rcases List.mem_cons.mp member with rfl | later
    · exact ⟨_,List.mem_cons_self,head⟩
    · obtain ⟨value,inside,holds⟩ := ih later
      exact ⟨value,List.mem_cons_of_mem _ inside,holds⟩

theorem mem_keys_iff {α : Type} {entries : List (String × α)} {key : String} :
    key ∈ entries.map Prod.fst ↔ (entries.lookup key).isSome = true := by
  rw [List.lookup_isSome_iff,List.mem_map]
  simp only [beq_iff_eq,@eq_comm _ key]

theorem nodup_keys_append {α : Type} {entries : List (String × α)} {key : String}
    (distinct : (entries.map Prod.fst).Nodup) (unknown : entries.lookup key = none) (value : α) :
    ((entries ++ [(key,value)]).map Prod.fst).Nodup := by
  have absent : key ∉ entries.map Prod.fst := by
    rw [mem_keys_iff,unknown]
    exact Bool.false_ne_true
  rw [List.map_append,List.map_singleton,← List.concat_eq_append]
  exact distinct.concat absent

namespace SourceFiles

theorem mem_candidates_iff {disk : Disk} {folder : Path} {extensions names : List String} :
    names ∈ candidates disk folder extensions ↔
      ∃ address, disk.target? folder = some (address,.folder) ∧
        names ∈ disk.filesBelow address ∧ hasExtension extensions (names.getLastD "") = true := by
  rw [candidates]
  split
  · rename_i address equal
    simp [equal]
  · rename_i other
    constructor
    · intro none
      cases none
    · rintro ⟨address,reached,-⟩
      exact absurd reached (other address)

theorem mem_find_iff {disk : Disk} {folder : Path} {extensions names : List String}
    {ignored : Path → Bool} :
    names ∈ find disk folder extensions ignored ↔
      names ∈ candidates disk folder extensions ∧ ignored (folder.below names) = false := by
  rw [find,List.mem_mergeSort,List.mem_filter,Bool.not_eq_true']

def Noticed (disk : Disk) (rulesFolder : Option Path) (path : Path) : Prop :=
  ∀ root, rulesFolder = some root → ∃ rules, Ignore.rulesOf disk root = .ok rules ∧
    Ignore.ignoresFile rules (disk.absolute root) (disk.absolute path) = .ok false

theorem forM_eq_ok_iff {ε α : Type} {f : α → Except ε Unit} {items : List α} :
    items.forM f = .ok () ↔ ∀ item ∈ items, f item = .ok () := by
  induction items with
  | nil => exact ⟨fun _ _ member => absurd member List.not_mem_nil,fun _ => rfl⟩
  | cons item rest ih =>
    rw [List.forM_eq_forM,List.forM_cons,List.forall_mem_cons,← ih]
    cases f item with
    | error fault => simp [bind,Except.bind]
    | ok value => exact ⟨fun later => ⟨rfl,later⟩,And.right⟩

/-- A search with rules succeeds just if they can be read and asked of each candidate. -/
theorem findUnder_some_eq_ok_iff {disk : Disk} {root folder : Path} {extensions : List String}
    {files : List (List String)} :
    findUnder disk (some root) folder extensions = .ok files ↔
      ∃ rules, Ignore.rulesOf disk root = .ok rules ∧
        (∀ names ∈ candidates disk folder extensions, ∃ ignored, Ignore.ignoresFile rules
          (disk.absolute root) (disk.absolute (folder.below names)) = .ok ignored) ∧
        find disk folder extensions (fun path => (Ignore.ignoresFile rules (disk.absolute root)
          (disk.absolute path)).toOption.getD false) = files := by
  rw [findUnder]
  cases Ignore.rulesOf disk root with
  | error fault => simp [bind,Except.bind]
  | ok rules =>
    have asked : (candidates disk folder extensions).forM (fun names =>
        (Ignore.ignoresFile rules (disk.absolute root)
          (disk.absolute (folder.below names))).map fun _ => ()) = .ok () ↔
        ∀ names ∈ candidates disk folder extensions, ∃ ignored, Ignore.ignoresFile rules
          (disk.absolute root) (disk.absolute (folder.below names)) = .ok ignored := by
      rw [forM_eq_ok_iff]
      refine forall₂_congr fun names _ => ?_
      cases Ignore.ignoresFile rules (disk.absolute root) (disk.absolute (folder.below names)) <;>
        simp [Except.map]
    simp only [bind,Except.bind,Except.ok.injEq,exists_eq_left',← asked]
    split
    · rename_i failed
      simp [failed]
    · rename_i passed
      simp [passed,pure,Except.pure]

theorem mem_findUnder_iff {disk : Disk} {rulesFolder : Option Path} {folder : Path}
    {extensions : List String} {files : List (List String)}
    (found : findUnder disk rulesFolder folder extensions = .ok files) (names : List String) :
    names ∈ files ↔ names ∈ candidates disk folder extensions ∧
      Noticed disk rulesFolder (folder.below names) := by
  cases rulesFolder with
  | none =>
    rw [findUnder,Except.ok.injEq] at found
    subst found
    rw [mem_find_iff]
    simp [Noticed]
  | some root =>
    obtain ⟨rules,read,answered,rfl⟩ := findUnder_some_eq_ok_iff.mp found
    rw [mem_find_iff]
    refine and_congr_right fun candidate => ?_
    obtain ⟨ignored,answer⟩ := answered names candidate
    rw [answer]
    constructor
    · rintro kept other same
      cases same
      exact ⟨rules,read,answer.trans (congrArg Except.ok kept)⟩
    · intro noticed
      obtain ⟨others,again,kept⟩ := noticed root rfl
      cases read.symm.trans again
      cases answer.symm.trans kept
      rfl

theorem forM_filter_map {ε α β : Type} (test : α → Bool) (g : α → β) (f : β → Except ε Unit)
    (items : List α) : ((items.filter test).map g).forM f =
      items.forM fun item => if test item then f (g item) else .ok () := by
  induction items with
  | nil => rfl
  | cons item rest ih =>
    simp only [List.forM_eq_forM,List.forM_cons] at ih ⊢
    cases passed : test item with
    | false =>
      rw [List.filter_cons_of_neg (by simp [passed]),ih,if_neg Bool.false_ne_true]
      rfl
    | true => rw [List.filter_cons_of_pos passed,List.map_cons,List.forM_cons,ih,if_pos rfl]

/-- The candidates are the wanted files among all that a search comes to. -/
theorem candidates_eq (disk : Disk) (folder : Path) (extensions : List String) :
    candidates disk folder extensions = ((visited disk folder).filter fun item =>
      item.2.isFile && hasExtension extensions (item.1.getLastD "")).map Prod.fst := by
  rw [candidates,visited]
  split
  · have start : (Entry.folder.isFile && hasExtension extensions "") = false := rfl
    rw [Disk.filesBelow,List.filter_map,List.filter_filter,
      List.filter_cons_of_neg (by simp [start])]
    simp only [Function.comp_def,Bool.and_comm]
  · rfl

theorem visit_plain {ε : Type} (folder : Path) (extensions : List String)
    (ignored : Path → Except (Stop ε) Bool) :
    visit .plain folder extensions ignored = fun item =>
      if item.2.isFile && hasExtension extensions (item.1.getLastD "") then
        (ignored (folder.below item.1)).map fun _ => ()
      else .ok () := rfl

theorem scan_of_ignoring {ε : Type} {reader : Ignore.Reader ε} {disk : Disk}
    {rulesFolder : Option Path} {ignored : Path → Except (Stop ε) Bool}
    (ruled : ignoring .plain reader disk rulesFolder = .ok ignored) (folder : Path)
    (extensions : List String) :
    scan .plain reader disk rulesFolder folder extensions = (do
      (candidates disk folder extensions).forM fun names =>
        (ignored (folder.below names)).map fun _ => ()
      return find disk folder extensions fun path => (ignored path).toOption.getD false) := by
  rw [scan,ruled]
  change (visited disk folder).forM (visit .plain folder extensions ignored) >>= _ = _
  rw [visit_plain,candidates_eq,forM_filter_map]
  rfl

theorem forM_mapError {ε ε' α : Type} (g : ε → ε') (f : α → Except ε Unit) (items : List α) :
    (items.forM fun item => (f item).mapError g) = (items.forM f).mapError g := by
  induction items with
  | nil => rfl
  | cons item rest ih =>
    simp only [List.forM_eq_forM,List.forM_cons] at ih ⊢
    rw [ih]
    cases f item <;> rfl

/-- On a plain host a search asks the rules of every candidate, and finds what they leave in. -/
theorem scan_of_test {disk : Disk} {rulesFolder : Option Path}
    {test : Path → Except Ignore.Fault Bool}
    (ruled : ignoring .plain (Ignore.reader disk) disk rulesFolder =
      .ok fun path => (test path).mapError .raised) (folder : Path) (extensions : List String) :
    scan .plain (Ignore.reader disk) disk rulesFolder folder extensions = (do
      (candidates disk folder extensions).forM fun names =>
        (test (folder.below names)).map fun _ => ()
      return find disk folder extensions fun path =>
        (test path).toOption.getD false : Except Ignore.Fault _).mapError .raised := by
  have asked : ∀ answer : Except Ignore.Fault Bool,
      (answer.mapError Stop.raised).map (fun _ => ()) =
        (answer.map fun _ => ()).mapError .raised := by
    intro answer
    cases answer <;> rfl
  have told : ∀ answer : Except Ignore.Fault Bool,
      (answer.mapError Stop.raised).toOption = answer.toOption := by
    intro answer
    cases answer <;> rfl
  rw [scan_of_ignoring ruled]
  simp only [asked,told,forM_mapError]
  cases (candidates disk folder extensions).forM fun names =>
    (test (folder.below names)).map fun _ => () <;> rfl

theorem ignoring_plain (disk : Disk) (root : Path) :
    ignoring .plain (Ignore.reader disk) disk (some root) =
      match Ignore.rulesOf disk root with
      | .error fault => .error (.raised fault)
      | .ok rules => .ok fun path =>
        (Ignore.ignoresFile rules (disk.absolute root) (disk.absolute path)).mapError .raised := by
  simp only [ignoring,Ignore.rulesOf]
  cases disk.content (root.below [Ignore.fileName]) with
  | error trouble => rfl
  | ok content =>
    simp only [Ignore.reader]
    cases String.fromUTF8? content with
    | none => rfl
    | some text =>
      dsimp only
      cases Ignore.rulesOfText text <;> rfl

/-- On a plain host, with the rules of ignore files, the files are those of the file tree. -/
theorem scan_plain (disk : Disk) (rulesFolder : Option Path) (folder : Path)
    (extensions : List String) :
    scan .plain (Ignore.reader disk) disk rulesFolder folder extensions =
      (findUnder disk rulesFolder folder extensions).mapError .raised := by
  cases rulesFolder with
  | none =>
    have nothing : ignoring .plain (Ignore.reader disk) disk none =
        .ok fun _ => (Except.ok false).mapError .raised := rfl
    have free : (candidates disk folder extensions).forM
        (fun _ => (.ok () : Except Ignore.Fault Unit)) = .ok () :=
      forM_eq_ok_iff.mpr fun _ _ => rfl
    rw [scan_of_test nothing,findUnder]
    simp only [Except.map,free]
    rfl
  | some root =>
    have ruled := ignoring_plain disk root
    rw [findUnder]
    cases parsed : Ignore.rulesOf disk root with
    | error fault =>
      rw [parsed] at ruled
      rw [scan,ruled]
      rfl
    | ok rules =>
      rw [parsed] at ruled
      rw [scan_of_test ruled]
      rfl

end SourceFiles

namespace SourceIndex

theorem lookup_enter (index : SourceIndex) (names : List String) (file : String) :
    (index.enter names).lookup file =
      (index.lookup file).or (if names.getLastD "" = file then some (Path.joined names) else none) := by
  rw [enter]
  generalize names.getLastD "" = key
  cases known : index.lookup key with
  | none =>
    simp only [lookup,List.lookup_append,List.lookup_cons,List.lookup_nil]
    by_cases same : key = file
    · rw [if_pos same,same,beq_self_eq_true]
    · rw [if_neg same,beq_false_of_ne (Ne.symm same)]
  | some kept =>
    -- What is looked up stays as it is, whether the file is a collision or the one that is kept.
    have stays : ∀ collisions : List Collision,
        (if kept = Path.joined names then index
          else { index with collisions }).lookup file = index.lookup file := by
      intro collisions
      split <;> rfl
    dsimp only
    rw [stays]
    by_cases same : key = file
    · rw [← same,known,Option.some_or]
    · rw [if_neg same,Option.or_none]

/-- A name is looked up to the first of the files that has it. -/
theorem lookup_ofFiles (folder : String) (files : List (List String)) (file : String) :
    (ofFiles folder files).lookup file =
      (files.find? fun names => names.getLastD "" == file).map Path.joined := by
  have entered : ∀ (files : List (List String)) (index : SourceIndex),
      (files.foldl enter index).lookup file = (index.lookup file).or
        ((files.find? fun names => names.getLastD "" == file).map Path.joined) := by
    intro files
    induction files with
    | nil => intro index; simp
    | cons names rest ih =>
      intro index
      rw [List.foldl_cons,ih,lookup_enter,Option.or_assoc]
      congr 1
      rw [List.find?_cons]
      by_cases same : names.getLastD "" = file
      · rw [if_pos same,same,beq_self_eq_true]
        rfl
      · rw [if_neg same,beq_false_of_ne same]
        rfl
  rw [ofFiles,entered]
  rfl

/-- A file that belongs in the index of a source folder, by the names that lead to it from there. -/
structure Eligible (disk : Disk) (root : Path) (srcDir : String) (extensions : List String)
    (respectIgnore : Bool) (names : List String) : Prop where
  placed : ∃ address, disk.target? (root.within (Path.ofString srcDir)) = some (address,.folder) ∧
    names ∈ disk.filesBelow address
  extension : SourceFiles.hasExtension extensions (names.getLastD "") = true
  noticed : SourceFiles.Noticed disk (if respectIgnore then some root else none)
    ((root.within (Path.ofString srcDir)).below names)

variable {disk : Disk} {root : Path} {srcDir : String} {extensions : List String}
  {respectIgnore : Bool} {index : SourceIndex}

def Inside (root folder : Path) (files : List (List String)) : Prop :=
  ∀ names ∈ files, ∃ below, below ≠ [] ∧ folder.below names = root.below below

theorem inside_of_relative (disk : Disk) (root : Path) {srcDir : String}
    (relative : (Path.ofString srcDir).isAbsolute = false) (extensions : List String)
    (ignored : Path → Bool) :
    Inside root (root.within (Path.ofString srcDir))
      (SourceFiles.find disk (root.within (Path.ofString srcDir)) extensions ignored) := by
  intro names member
  obtain ⟨address,_,file,_⟩ := SourceFiles.mem_candidates_iff.mp (SourceFiles.mem_find_iff.mp member).1
  have some : names ≠ [] := (Disk.mem_filesBelow_iff.mp file).1
  refine ⟨(Path.ofString srcDir).names ++ names,List.append_ne_nil_of_right_ne_nil _ some,?_⟩
  rw [Path.within,if_neg (by simp [relative])]
  simp [Path.below]

theorem exists_repositoryNames {folder : Path} {files : List (List String)}
    (inside : Inside root folder files) :
    ∃ placed, repositoryNames root folder files = .ok placed := by
  refine exists_mapM_ok (fun names member => ?_)
  obtain ⟨below,_,same⟩ := inside names member
  exact ⟨below,by rw [Path.namesBelow?_eq_some_iff.mpr same]⟩

theorem below_repositoryNames {folder : Path} {files placed : List (List String)}
    (mapped : repositoryNames root folder files = .ok placed) :
    List.Forall₂ (fun names below => folder.below names = root.below below) files placed := by
  refine (mapM_ok mapped).imp ?_
  intro names below placed
  split at placed
  · rename_i names' found
    cases placed
    exact Path.namesBelow?_eq_some_iff.mp found
  · cases placed

theorem build_eq (disk : Disk) (root : Path) (srcDir : String) (extensions : List String)
    (respectIgnore : Bool) :
    build disk root srcDir extensions respectIgnore =
      if disk.isFolder (root.within (Path.ofString srcDir)) then do
        let files ← (SourceFiles.findUnder disk (if respectIgnore then some root else none)
          (root.within (Path.ofString srcDir)) extensions).mapError .rules
        return ofFiles srcDir (← repositoryNames root (root.within (Path.ofString srcDir)) files)
      else .ok { folder := srcDir } := by
  have shown : (Host.plain : Host Ignore.Fault).hides (root.within (Path.ofString srcDir)) = none :=
    rfl
  simp only [build,buildOn,shown,SourceFiles.scan_plain]
  split
  · cases SourceFiles.findUnder disk (if respectIgnore then some root else none)
        (root.within (Path.ofString srcDir)) extensions with
    | error fault => rfl
    | ok files =>
      simp only [Except.mapError,bind,Except.bind]
      cases repositoryNames root (root.within (Path.ofString srcDir)) files <;> rfl
  · rfl

/-- A source folder within the repository can be indexed, unless the rules of an ignore file are in
the way. -/
theorem exists_build (disk : Disk) (root : Path) {srcDir : String} (extensions : List String)
    (relative : (Path.ofString srcDir).isAbsolute = false) :
    ∃ index, build disk root srcDir extensions false = .ok index := by
  obtain ⟨placed,mapped⟩ := exists_repositoryNames
    (inside_of_relative disk root relative extensions fun _ => false)
  rw [build_eq]
  cases present : disk.isFolder (root.within (Path.ofString srcDir)) with
  | false => exact ⟨_,rfl⟩
  | true =>
    refine ⟨ofFiles srcDir placed,?_⟩
    simp only [if_true,Bool.false_eq_true,if_false,SourceFiles.findUnder,Except.mapError,bind,
      Except.bind,mapped]
    rfl

theorem mem_found_iff_eligible {files : List (List String)}
    (found : SourceFiles.findUnder disk (if respectIgnore then some root else none)
      (root.within (Path.ofString srcDir)) extensions = .ok files) (names : List String) :
    names ∈ files ↔ Eligible disk root srcDir extensions respectIgnore names := by
  rw [SourceFiles.mem_findUnder_iff found,SourceFiles.mem_candidates_iff]
  constructor
  · rintro ⟨⟨address,reached,member,extension⟩,noticed⟩
    exact ⟨⟨address,reached,member⟩,extension,noticed⟩
  · rintro ⟨⟨address,reached,member⟩,extension,noticed⟩
    exact ⟨⟨address,reached,member,extension⟩,noticed⟩

/-- The files that the index of a folder is made of, and where they are in the repository. -/
theorem exists_found_of_build (built : build disk root srcDir extensions respectIgnore = .ok index)
    (present : disk.isFolder (root.within (Path.ofString srcDir)) = true) :
    ∃ files placed, SourceFiles.findUnder disk (if respectIgnore then some root else none)
        (root.within (Path.ofString srcDir)) extensions = .ok files ∧
      repositoryNames root (root.within (Path.ofString srcDir)) files = .ok placed ∧
      index = ofFiles srcDir placed := by
  rw [build_eq] at built
  simp only [present,if_true] at built
  cases found : SourceFiles.findUnder disk (if respectIgnore then some root else none)
      (root.within (Path.ofString srcDir)) extensions with
  | error fault => rw [found] at built; cases built
  | ok files =>
    rw [found] at built
    cases mapped : repositoryNames root (root.within (Path.ofString srcDir)) files with
    | error fault => simp [Except.mapError,bind,Except.bind,mapped] at built
    | ok placed =>
      simp only [Except.mapError,bind,Except.bind,mapped,pure,Except.pure,Except.ok.injEq] at built
      exact ⟨files,placed,rfl,mapped,built.symm⟩

theorem build_files (built : build disk root srcDir extensions respectIgnore = .ok index)
    (present : disk.isFolder (root.within (Path.ofString srcDir)) = true) :
    ∃ files placed, (∀ names, names ∈ files ↔
        Eligible disk root srcDir extensions respectIgnore names) ∧
      List.Forall₂ (fun names below =>
        (root.within (Path.ofString srcDir)).below names = root.below below) files placed ∧
      index = ofFiles srcDir placed := by
  obtain ⟨files,placed,found,mapped,same⟩ := exists_found_of_build built present
  exact ⟨files,placed,mem_found_iff_eligible found,below_repositoryNames mapped,same⟩

theorem file_of_eligible (named : disk.Named) {names : List String}
    (eligible : Eligible disk root srcDir extensions respectIgnore names) :
    names ≠ [] ∧ (∀ name ∈ names, Disk.EntryName name) ∧ ∃ address content,
      disk.target? ((root.within (Path.ofString srcDir)).below names) =
        some (address,.file content) := by
  obtain ⟨address,reached,member⟩ := eligible.placed
  obtain ⟨nonempty,through,content,entry⟩ := Disk.mem_filesBelow_iff.mp member
  have entryNames : ∀ name ∈ names, Disk.EntryName name := fun name inside =>
    named _ (Disk.mem_of_found (by simp [nonempty]) entry) name (List.mem_append_right _ inside)
  exact ⟨nonempty,entryNames,_,content,
    Disk.target?_below reached nonempty entryNames through entry⟩

theorem names_of_eligible (named : disk.Named) (rooted : disk.isFolder root = true)
    {names below : List String}
    (eligible : Eligible disk root srcDir extensions respectIgnore names)
    (same : (root.within (Path.ofString srcDir)).below names = root.below below) :
    below ≠ [] ∧ below.getLastD "" = names.getLastD "" := by
  obtain ⟨nonempty,-,address,content,file⟩ := file_of_eligible named eligible
  have some : below ≠ [] := by
    rintro rfl
    obtain ⟨place,folder⟩ := Disk.isFolder_iff.mp rooted
    have itself : root.below [] = root := by simp [Path.below]
    rw [same,itself,folder] at file
    cases file
  exact ⟨some,(Path.getLastD_of_below_eq nonempty some same).symm⟩

/-- The names from the root to a file of the index can be read back from a path. -/
theorem written_of_eligible (named : disk.Named) {names below : List String}
    (eligible : Eligible disk root srcDir extensions respectIgnore names)
    (same : (root.within (Path.ofString srcDir)).below names = root.below below) :
    ∀ name ∈ below, Path.Written name := by
  obtain ⟨_,entryNames,_⟩ := file_of_eligible named eligible
  have whole : ∀ name ∈ (Path.ofString srcDir).names ++ names, Path.Written name := by
    intro name member
    rcases List.mem_append.mp member with above | within
    · exact Path.written_of_mem_ofString above
    · exact (entryNames name within).written
  have chain := congrArg Path.names same
  rw [Path.within] at chain
  intro name member
  split at chain
  · apply whole
    rw [show (Path.ofString srcDir).names ++ names = root.names ++ below from chain]
    exact List.mem_append_right _ member
  · have relative : root.names ++ ((Path.ofString srcDir).names ++ names) = root.names ++ below := by
      rw [← List.append_assoc]
      exact chain
    rw [← List.append_cancel_left relative] at member
    exact whole name member

/-- Whatever is looked up in an index is the path of an eligible file, by its last name. -/
theorem eligible_of_lookup (built : build disk root srcDir extensions respectIgnore = .ok index)
    {file path : String} (found : index.lookup file = some path) :
    ∃ names below, Eligible disk root srcDir extensions respectIgnore names ∧
      (root.within (Path.ofString srcDir)).below names = root.below below ∧
      path = Path.joined below ∧ below.getLastD "" = file := by
  cases present : disk.isFolder (root.within (Path.ofString srcDir)) with
  | false =>
    simp only [build_eq,present,Bool.false_eq_true,if_false,Except.ok.injEq] at built
    subst built
    cases found
  | true =>
    obtain ⟨files,placed,listed,related,rfl⟩ := build_files built present
    rw [lookup_ofFiles,Option.map_eq_some_iff] at found
    obtain ⟨below,first,rfl⟩ := found
    obtain ⟨names,member,same⟩ := exists_right_of_mem related.flip (List.mem_of_find?_eq_some first)
    have last := List.find?_some first
    simp only [beq_iff_eq] at last
    exact ⟨names,below,(listed names).mp member,same,rfl,last⟩

/-- A name that only one eligible file has is looked up to the path of that file. -/
theorem lookup_of_only (named : disk.Named) (rooted : disk.isFolder root = true)
    (built : build disk root srcDir extensions respectIgnore = .ok index) {names : List String}
    (eligible : Eligible disk root srcDir extensions respectIgnore names)
    (only : ∀ other, Eligible disk root srcDir extensions respectIgnore other →
      other.getLastD "" = names.getLastD "" → other = names) :
    ∃ below, (root.within (Path.ofString srcDir)).below names = root.below below ∧ below ≠ [] ∧
      index.lookup (names.getLastD "") = some (Path.joined below) := by
  obtain ⟨address,reached,-⟩ := eligible.placed
  obtain ⟨files,placed,listed,related,rfl⟩ := build_files built (Disk.isFolder_iff.mpr ⟨_,reached⟩)
  obtain ⟨below,member,same⟩ := exists_right_of_mem related ((listed names).mpr eligible)
  obtain ⟨some,last⟩ := names_of_eligible named rooted eligible same
  refine ⟨below,same,some,?_⟩
  -- Whatever is found with the name comes from an eligible file with it, so from this one.
  have unique : ∀ other ∈ placed, other.getLastD "" = names.getLastD "" → other = below := by
    intro other inside named'
    obtain ⟨source,listed',same'⟩ := exists_right_of_mem related.flip inside
    have eligible' := (listed source).mp listed'
    have last' := (names_of_eligible named rooted eligible' same').2
    have source_eq := only source eligible' (last'.symm.trans named')
    subst source_eq
    have equal := congrArg Path.names (same'.symm.trans same)
    exact List.append_cancel_left equal
  rw [lookup_ofFiles]
  cases found : placed.find? fun other => other.getLastD "" == names.getLastD "" with
  | none =>
    have missing := List.find?_eq_none.mp found below member
    exact absurd (beq_iff_eq.mpr last) missing
  | some other =>
    have hit := List.find?_some found
    simp only [beq_iff_eq] at hit
    rw [unique other (List.mem_of_find?_eq_some found) hit]
    rfl

end SourceIndex
end AbapAtlas

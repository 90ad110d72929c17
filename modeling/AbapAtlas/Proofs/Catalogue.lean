import AbapAtlas.Proofs.SourceIndex

/-! What an index tells of the files it was made from. Every file is either looked up by its name or
among the collisions, where it stands behind the file that is looked up. -/
namespace AbapAtlas

namespace SourceIndex

def baseName (path : String) : String := (Path.ofString path).names.getLastD ""

/-- That an index tells of paths, all of them different, what is so: the least path with a name is
looked up by that name, and the others are the collisions, in order. -/
structure Catalogues (index : SourceIndex) (paths : List String) : Prop where
  distinct : paths.Nodup
  defined : ∀ file, (index.lookup file).isSome = true ↔ ∃ path ∈ paths, baseName path = file
  least : ∀ file path, index.lookup file = some path → path ∈ paths ∧ baseName path = file ∧
    ∀ other ∈ paths, baseName other = file → path ≤ other
  keys : (index.paths.map Prod.fst).Nodup
  named : ∀ entry ∈ index.paths, entry.1 = baseName entry.2
  collided : ∀ collision ∈ index.collisions,
    collision.file = baseName collision.discarded ∧
    index.lookup collision.file = some collision.kept ∧ collision.kept < collision.discarded
  ordered : (index.collisions.map Collision.discarded).Pairwise (· < ·)
  partition : (index.paths.map Prod.snd ++ index.collisions.map Collision.discarded).Perm paths

theorem enter_new {index : SourceIndex} {names : List String}
    (new : index.lookup (names.getLastD "") = none) :
    index.enter names =
      { index with paths := index.paths ++ [(names.getLastD "",Path.joined names)] } := by
  rw [enter]
  simp only [new]

/-- A file whose name is taken is a collision unless it is the very file that has the name. -/
theorem enter_known {index : SourceIndex} {names : List String} {kept : String}
    (known : index.lookup (names.getLastD "") = some kept) (other : kept ≠ Path.joined names) :
    index.enter names =
      { index with collisions := index.collisions ++
          [⟨names.getLastD "",kept,Path.joined names⟩] } := by
  rw [enter]
  simp only [known,if_neg other]

theorem catalogues_empty (folder : String) : Catalogues { folder } [] := by
  constructor
  · exact List.nodup_nil
  · simp [lookup]
  · intro file path found
    cases found
  · exact List.nodup_nil
  · simp
  · simp
  · exact List.Pairwise.nil
  · exact List.Perm.nil

section
variable {index : SourceIndex} {paths : List String} {names : List String}

theorem lookup_enter_of_known {file path : String} (known : index.lookup file = some path)
    (names : List String) : (index.enter names).lookup file = some path := by
  rw [lookup_enter,known,Option.some_or]

theorem Catalogues.lookup_enter_cases (catalogues : index.Catalogues paths) {file path : String}
    (found : (index.enter names).lookup file = some path) :
    index.lookup file = some path ∨
      path = Path.joined names ∧ names.getLastD "" = file ∧
        ∀ other ∈ paths, baseName other ≠ file := by
  rw [lookup_enter] at found
  cases known : index.lookup file with
  | some kept =>
    rw [known,Option.some_or] at found
    exact Or.inl found
  | none =>
    rw [known,Option.none_or] at found
    split at found
    · next same =>
      refine Or.inr ⟨(Option.some.inj found).symm,same,?_⟩
      intro other member equal
      have defined := (catalogues.defined file).mpr ⟨other,member,equal⟩
      rw [known] at defined
      cases defined
    · cases found

theorem Catalogues.defined_enter (catalogues : index.Catalogues paths)
    (named : baseName (Path.joined names) = names.getLastD "") (file : String) :
    ((index.enter names).lookup file).isSome = true ↔
      ∃ path ∈ paths ++ [Path.joined names], baseName path = file := by
  rw [lookup_enter,Option.isSome_or,Bool.or_eq_true,catalogues.defined]
  simp only [List.mem_append,List.mem_singleton,or_and_right,exists_or,exists_eq_left,named]
  simp

theorem Catalogues.least_enter (catalogues : index.Catalogues paths)
    (named : baseName (Path.joined names) = names.getLastD "")
    (later : ∀ path ∈ paths, path < Path.joined names) {file path : String}
    (found : (index.enter names).lookup file = some path) :
    path ∈ paths ++ [Path.joined names] ∧ baseName path = file ∧
      ∀ other ∈ paths ++ [Path.joined names], baseName other = file → path ≤ other := by
  rcases catalogues.lookup_enter_cases found with known | ⟨rfl,same,none⟩
  · obtain ⟨member,base,least⟩ := catalogues.least file path known
    refine ⟨List.mem_append_left _ member,base,?_⟩
    intro other among equal
    rcases List.mem_append.mp among with before | last
    · exact least other before equal
    · rw [List.mem_singleton.mp last]
      exact String.not_lt.mp (String.lt_asymm (later path member))
  · refine ⟨List.mem_append_right _ List.mem_cons_self,named.trans same,?_⟩
    intro other among equal
    rcases List.mem_append.mp among with before | last
    · exact absurd equal (none other before)
    · obtain rfl := List.mem_singleton.mp last
      exact String.le_refl _

theorem Catalogues.discarded_mem (catalogues : index.Catalogues paths) {path : String}
    (discarded : path ∈ index.collisions.map Collision.discarded) : path ∈ paths :=
  catalogues.partition.mem_iff.mp (List.mem_append_right _ discarded)

/-- An index goes on to tell what is so when a path is entered that comes after all others. -/
theorem Catalogues.enter (catalogues : index.Catalogues paths)
    (named : baseName (Path.joined names) = names.getLastD "")
    (later : ∀ path ∈ paths, path < Path.joined names) :
    (index.enter names).Catalogues (paths ++ [Path.joined names]) := by
  have distinct : (paths ++ [Path.joined names]).Nodup := by
    rw [← List.concat_eq_append]
    exact catalogues.distinct.concat fun member => String.lt_irrefl _ (later _ member)
  have defined := catalogues.defined_enter named
  have least := fun file path (found : (index.enter names).lookup file = some path) =>
    catalogues.least_enter named later found
  have stays : ∀ collision ∈ index.collisions, collision.file = baseName collision.discarded ∧
      (index.enter names).lookup collision.file = some collision.kept ∧
      collision.kept < collision.discarded := by
    intro collision member
    obtain ⟨file,kept,less⟩ := catalogues.collided collision member
    exact ⟨file,lookup_enter_of_known kept names,less⟩
  cases known : index.lookup (names.getLastD "") with
  | none =>
    rw [enter_new known] at defined least stays ⊢
    refine ⟨distinct,defined,least,nodup_keys_append catalogues.keys known _,?_,stays,
      catalogues.ordered,?_⟩
    · intro entry member
      rcases List.mem_append.mp member with before | last
      · exact catalogues.named entry before
      · rw [List.mem_singleton.mp last]
        exact named.symm
    · rw [List.map_append,List.append_assoc]
      refine List.Perm.trans ?_ (catalogues.partition.append_right _)
      rw [List.append_assoc]
      exact List.Perm.append_left _ List.perm_append_comm
  | some kept =>
    obtain ⟨member,base,_⟩ := catalogues.least _ _ known
    -- The file that has the name comes before, so the comparison holds no collision back.
    have other : kept ≠ Path.joined names := fun same =>
      String.lt_irrefl _ (same ▸ later kept member)
    rw [enter_known known other] at defined least stays ⊢
    refine ⟨distinct,defined,least,catalogues.keys,catalogues.named,?_,?_,?_⟩
    · intro collision inside
      rcases List.mem_append.mp inside with before | last
      · exact stays collision before
      · rw [List.mem_singleton.mp last]
        exact ⟨named.symm,known,later kept member⟩
    · rw [List.map_append]
      refine List.pairwise_append.mpr ⟨catalogues.ordered,List.pairwise_singleton _ _,?_⟩
      intro path discarded last single
      rw [List.mem_singleton.mp single]
      exact later path (catalogues.discarded_mem discarded)
    · rw [List.map_append,← List.append_assoc]
      exact catalogues.partition.append_right _

/-- The index of files in order, each the last one of its names. -/
theorem catalogues_ofFiles (folder : String) (files : List (List String))
    (named : ∀ names ∈ files, baseName (Path.joined names) = names.getLastD "")
    (ordered : files.Pairwise (fun a b => Path.joined a < Path.joined b)) :
    (ofFiles folder files).Catalogues (files.map Path.joined) := by
  induction files using List.reverseRecOn with
  | nil => exact catalogues_empty folder
  | append_singleton files names ih =>
    obtain ⟨before,_,later⟩ := List.pairwise_append.mp ordered
    have catalogues := ih (fun others member => named others (List.mem_append_left _ member)) before
    rw [ofFiles,List.foldl_append,List.map_append]
    refine catalogues.enter (named names (List.mem_append_right _ List.mem_cons_self)) ?_
    intro path member
    obtain ⟨others,inside,rfl⟩ := List.mem_map.mp member
    exact later others inside names List.mem_cons_self

/-- The collisions are the paths that are not looked up. -/
theorem Catalogues.mem_discarded_iff (catalogues : index.Catalogues paths) (path : String) :
    path ∈ index.collisions.map Collision.discarded ↔
      path ∈ paths ∧ path ∉ index.paths.map Prod.snd := by
  have nodup := catalogues.partition.nodup_iff.mpr catalogues.distinct
  have apart := (List.nodup_append.mp nodup).2.2
  have whole := catalogues.partition.mem_iff (a := path)
  rw [List.mem_append] at whole
  constructor
  · intro discarded
    exact ⟨catalogues.discarded_mem discarded,fun kept => apart path kept path discarded rfl⟩
  · rintro ⟨member,other⟩
    exact (whole.mpr member).resolve_left other

theorem Catalogues.size_add_length (catalogues : index.Catalogues paths) :
    index.size + index.collisions.length = paths.length := by
  have length := catalogues.partition.length_eq
  rw [List.length_append,List.length_map,List.length_map] at length
  exact length

end

end SourceIndex

namespace Disk

theorem nodup_filesBelow (disk : Disk) (folder : Address) : (disk.filesBelow folder).Nodup := by
  rw [filesBelow]
  have distinct : (disk.below folder).Pairwise fun a b => a.1 ≠ b.1 := by
    rw [below]
    refine List.Pairwise.filterMap _ ?_ (List.pairwise_map.mp disk.distinct)
    intro a b different item chosen other chosen' same
    simp only at chosen chosen'
    split at chosen
    · split at chosen'
      · next inside inside' =>
        obtain ⟨rest,whole⟩ := inside.1
        obtain ⟨rest',whole'⟩ := inside'.1
        cases chosen
        cases chosen'
        simp only [← whole,← whole',List.drop_left] at same
        exact different (by rw [← whole,← whole',same])
      · cases chosen'
    · cases chosen
  exact List.pairwise_map.mpr (distinct.filter _)

end Disk

namespace SourceFiles

theorem exists_find {disk : Disk} {rulesFolder : Option Path} {folder : Path}
    {extensions : List String} {files : List (List String)}
    (found : findUnder disk rulesFolder folder extensions = .ok files) :
    ∃ ignored, files = find disk folder extensions ignored := by
  cases rulesFolder with
  | none =>
    cases found
    exact ⟨_,rfl⟩
  | some root =>
    obtain ⟨_,_,_,same⟩ := findUnder_some_eq_ok_iff.mp found
    exact ⟨_,same.symm⟩

theorem precedes_trans (a b c : List String) (first : precedes a b = true)
    (second : precedes b c = true) : precedes a c = true := by
  simp only [precedes,decide_eq_true_eq] at first second ⊢
  exact String.le_trans first second

theorem precedes_total (a b : List String) : (precedes a b || precedes b a) = true := by
  simp only [precedes,Bool.or_eq_true,decide_eq_true_eq]
  exact String.le_total _ _

theorem nodup_find (disk : Disk) (folder : Path) (extensions : List String)
    (ignored : Path → Bool) : (find disk folder extensions ignored).Nodup := by
  rw [find,(List.mergeSort_perm _ _).nodup_iff]
  refine List.Nodup.filter _ ?_
  rw [candidates]
  split
  · exact (disk.nodup_filesBelow _).filter _
  · exact List.nodup_nil

theorem entryName_of_mem_candidates {disk : Disk} (named : disk.Named) {folder : Path}
    {extensions names : List String} (candidate : names ∈ candidates disk folder extensions) :
    names ≠ [] ∧ ∀ name ∈ names, Disk.EntryName name := by
  obtain ⟨address,_,member,_⟩ := mem_candidates_iff.mp candidate
  obtain ⟨some,_,content,entry⟩ := Disk.mem_filesBelow_iff.mp member
  refine ⟨some,fun name inside => ?_⟩
  exact named _ (Disk.mem_of_found (by simp [some]) entry) name (List.mem_append_right _ inside)

theorem written_of_mem_candidates {disk : Disk} (named : disk.Named) {folder : Path}
    {extensions names : List String} (candidate : names ∈ candidates disk folder extensions) :
    names ≠ [] ∧ ∀ name ∈ names, Path.Written name := by
  obtain ⟨some,entryNames⟩ := entryName_of_mem_candidates named candidate
  exact ⟨some,fun name inside => (entryNames name inside).written⟩

/-- The files found are different and in order, whatever the order of the file tree. -/
theorem pairwise_find {disk : Disk} (named : disk.Named) (folder : Path)
    (extensions : List String) (ignored : Path → Bool) :
    (find disk folder extensions ignored).Pairwise
      fun a b => Path.joined a < Path.joined b := by
  have sorted : (find disk folder extensions ignored).Pairwise fun a b => precedes a b = true :=
    List.pairwise_mergeSort precedes_trans precedes_total _
  refine (sorted.and (nodup_find disk folder extensions ignored)).imp_of_mem ?_
  rintro a b inside inside' ⟨before,different⟩
  obtain ⟨some,written⟩ := written_of_mem_candidates named (mem_find_iff.mp inside).1
  obtain ⟨some',written'⟩ := written_of_mem_candidates named (mem_find_iff.mp inside').1
  rw [precedes,decide_eq_true_eq] at before
  by_contra notLess
  exact different (Path.joined_inj some some' written written'
    (String.le_antisymm before (String.not_lt.mp notLess)))

end SourceFiles

theorem pairwise_of_forall₂ {α β : Type} {relation : α → β → Prop} {before : α → α → Prop}
    {before' : β → β → Prop} {items : List α} {values : List β}
    (related : List.Forall₂ relation items values)
    (keeps : ∀ {a b a' b'}, relation a a' → relation b b' → before a b → before' a' b')
    (ordered : items.Pairwise before) : values.Pairwise before' := by
  induction related with
  | nil => exact List.Pairwise.nil
  | cons head tail ih =>
    obtain ⟨first,rest⟩ := List.pairwise_cons.mp ordered
    refine List.pairwise_cons.mpr ⟨?_,ih rest⟩
    intro value member
    obtain ⟨item,inside,same⟩ := exists_right_of_mem tail.flip member
    exact keeps head same (first item inside)

namespace SourceIndex
variable {disk : Disk} {root : Path} {srcDir : String} {extensions : List String}
  {ignored : Path → Bool} {placed : List (List String)}

theorem eligible_of_mem_candidates {names : List String}
    (candidate : names ∈
      SourceFiles.candidates disk (root.within (Path.ofString srcDir)) extensions) :
    Eligible disk root srcDir extensions false names := by
  obtain ⟨address,reached,member,extension⟩ := SourceFiles.mem_candidates_iff.mp candidate
  refine ⟨⟨address,reached,member⟩,extension,?_⟩
  intro folder none
  cases none

structure Placed (root folder : Path) (names below : List String) : Prop where
  nonempty : names ≠ []
  some : below ≠ []
  written : ∀ name ∈ below, Path.Written name
  same : folder.below names = root.below below

theorem placed_of_find (named : disk.Named)
    (inside : Inside root (root.within (Path.ofString srcDir))
      (SourceFiles.find disk (root.within (Path.ofString srcDir)) extensions ignored))
    (mapped : repositoryNames root (root.within (Path.ofString srcDir))
      (SourceFiles.find disk (root.within (Path.ofString srcDir)) extensions ignored) =
        .ok placed) :
    List.Forall₂ (Placed root (root.within (Path.ofString srcDir)))
      (SourceFiles.find disk (root.within (Path.ofString srcDir)) extensions ignored) placed := by
  have related := (List.forall₂_and_left _ _).mpr ⟨fun _ => id,below_repositoryNames mapped⟩
  refine related.imp ?_
  rintro names below ⟨member,same⟩
  obtain ⟨others,some,same'⟩ := inside names member
  have equal : others = below :=
    List.append_cancel_left (congrArg Path.names (same'.symm.trans same))
  have candidate := (SourceFiles.mem_find_iff.mp member).1
  exact ⟨(SourceFiles.written_of_mem_candidates named candidate).1,equal ▸ some,
    written_of_eligible named (eligible_of_mem_candidates candidate) same,same⟩

theorem Placed.joined_lt {folder : Path} {names below others below' : List String}
    (placed : Placed root folder names below) (placed' : Placed root folder others below')
    (less : Path.joined names < Path.joined others) : Path.joined below < Path.joined below' := by
  have whole : folder.names ++ names = root.names ++ below := congrArg Path.names placed.same
  have whole' : folder.names ++ others = root.names ++ below' := congrArg Path.names placed'.same
  have further := Path.joined_append_lt folder.names placed.nonempty placed'.nonempty less
  rw [whole,whole'] at further
  exact (Path.joined_append_lt_iff root.names placed.some placed'.some).mp further

theorem build_of_found {files : List (List String)} {respectIgnore : Bool}
    (found : SourceFiles.findUnder disk (if respectIgnore then some root else none)
      (root.within (Path.ofString srcDir)) extensions = .ok files)
    (mapped : repositoryNames root (root.within (Path.ofString srcDir)) files = .ok placed) :
    build disk root srcDir extensions respectIgnore = .ok (ofFiles srcDir placed) := by
  rw [build_eq]
  split
  · simp only [found,Except.mapError,bind,Except.bind,mapped]
    rfl
  · next absent =>
    have none : files = [] := by
      refine List.eq_nil_iff_forall_not_mem.mpr fun names member => absent ?_
      obtain ⟨address,reached,_⟩ :=
        SourceFiles.mem_candidates_iff.mp ((SourceFiles.mem_findUnder_iff found names).mp member).1
      exact Disk.isFolder_iff.mpr ⟨address,reached⟩
    rw [none] at mapped
    cases mapped
    rfl

theorem baseName_joined {folder : Path} {names below : List String}
    (placed : Placed root folder names below) :
    baseName (Path.joined below) = below.getLastD "" := by
  rw [baseName,Path.ofString_joined placed.some placed.written]

theorem catalogues_of_find (named : disk.Named)
    (inside : Inside root (root.within (Path.ofString srcDir))
      (SourceFiles.find disk (root.within (Path.ofString srcDir)) extensions ignored))
    (mapped : repositoryNames root (root.within (Path.ofString srcDir))
      (SourceFiles.find disk (root.within (Path.ofString srcDir)) extensions ignored) =
        .ok placed) :
    (ofFiles srcDir placed).Catalogues (placed.map Path.joined) := by
  have related := placed_of_find named inside mapped
  have named' : ∀ below ∈ placed, baseName (Path.joined below) = below.getLastD "" := by
    intro below member
    obtain ⟨names,_,there⟩ := exists_right_of_mem related.flip member
    exact baseName_joined there
  have ordered := pairwise_of_forall₂ related Placed.joined_lt
    (SourceFiles.pairwise_find named _ extensions ignored)
  exact catalogues_ofFiles srcDir placed named' ordered

/-- The index of the files found tells of all of them what is so. -/
theorem files_catalogued (named : disk.Named) (srcDir : String) (extensions : List String)
    (ignored : Path → Bool)
    (inside : Inside root (root.within (Path.ofString srcDir))
      (SourceFiles.find disk (root.within (Path.ofString srcDir)) extensions ignored)) :
    let files := SourceFiles.find disk (root.within (Path.ofString srcDir)) extensions ignored
    ∃ placed, repositoryNames root (root.within (Path.ofString srcDir)) files = .ok placed ∧
      (∀ respectIgnore, SourceFiles.findUnder disk (if respectIgnore then some root else none)
          (root.within (Path.ofString srcDir)) extensions = .ok files →
        build disk root srcDir extensions respectIgnore = .ok (ofFiles srcDir placed)) ∧
      (ofFiles srcDir placed).Catalogues (placed.map Path.joined) ∧
      (∀ path, path ∈ (ofFiles srcDir placed).collisions.map Collision.discarded ↔
        path ∈ placed.map Path.joined ∧ path ∉ (ofFiles srcDir placed).paths.map Prod.snd) ∧
      (ofFiles srcDir placed).size + (ofFiles srcDir placed).collisions.length = files.length := by
  intro files
  obtain ⟨placed,mapped⟩ := exists_repositoryNames inside
  have related := placed_of_find named inside mapped
  have catalogues := catalogues_of_find named inside mapped
  refine ⟨placed,mapped,?_,catalogues,catalogues.mem_discarded_iff,?_⟩
  · intro respectIgnore found
    exact build_of_found found mapped
  · rw [catalogues.size_add_length,List.length_map]
    exact related.length_eq.symm

section Example

def twinTree : Disk where
  entries := [(["src"],.folder),(["src","b"],.folder),(["src","b","zdemo.prog.abap"],.file .empty),
    (["src","a"],.folder),(["src","a","zdemo.prog.abap"],.file .empty)]

theorem target?_twinFolder : twinTree.target? ⟨.root,["src"]⟩ = some (["src"],.folder) := by
  refine Disk.target?_eq_some_iff.mpr ⟨by decide,?_⟩
  rw [Disk.walk_folder (by decide) rfl,Disk.walk]
  rfl

theorem find_twinFolder : SourceFiles.find twinTree ⟨.root,["src"]⟩ [".abap"] (fun _ => false) =
    [["a","zdemo.prog.abap"],["b","zdemo.prog.abap"]] := by
  have listed : (twinTree.filesBelow ["src"]).filter (fun names =>
      SourceFiles.hasExtension [".abap"] (names.getLastD "")) =
        [["b","zdemo.prog.abap"],["a","zdemo.prog.abap"]] := by
    decide +kernel
  have after : SourceFiles.precedes ["b","zdemo.prog.abap"] ["a","zdemo.prog.abap"] = false := by
    decide +kernel
  rw [SourceFiles.find,SourceFiles.candidates,target?_twinFolder]
  simp only [listed]
  simp [List.mergeSort,after]

theorem twins_catalogued : ∃ index, build twinTree ⟨.root,[]⟩ "src" [".abap"] false = .ok index ∧
    index.Catalogues ["src/a/zdemo.prog.abap","src/b/zdemo.prog.abap"] ∧
    index.collisions =
      [⟨"zdemo.prog.abap","src/a/zdemo.prog.abap","src/b/zdemo.prog.abap"⟩] := by
  have named : twinTree.Named := by decide +kernel
  have relative : (Path.ofString "src").isAbsolute = false := by decide
  have folder : Path.within ⟨.root,[]⟩ (Path.ofString "src") = ⟨.root,["src"]⟩ := by
    decide +kernel
  obtain ⟨placed,mapped,built,catalogues,_⟩ := files_catalogued named "src" [".abap"]
    (fun _ => false) (inside_of_relative twinTree ⟨.root,[]⟩ relative [".abap"] _)
  have same : placed = [["src","a","zdemo.prog.abap"],["src","b","zdemo.prog.abap"]] := by
    rw [folder,find_twinFolder] at mapped
    exact Except.ok.inj (mapped.symm.trans (by decide +kernel))
  subst same
  exact ⟨_,built false rfl,catalogues,by decide +kernel⟩

end Example
end SourceIndex
end AbapAtlas

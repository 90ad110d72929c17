import AbapAtlas.Proofs.Catalogue
import AbapAtlas.Proofs.TreeChange

/-! The search for source files. It finds every wanted file that lies below a folder and nothing
else, links are not followed, and the order of the file tree does not matter. -/
namespace AbapAtlas
open Text

namespace Disk
variable {disk other : Disk} {folder address : Address} {names : List String} {entry : Entry}

/-- What lies below a folder, with the names that lead to it: the entries of the folder itself, and
what lies below the folders among them. A link is an entry, but nothing lies below it. -/
inductive LiesBelow (disk : Disk) : Address → List String → Entry → Prop where
  | inside {folder : Address} {name : String} {entry : Entry}
      (there : disk.get? (folder ++ [name]) = some entry) : LiesBelow disk folder [name] entry
  | deeper {folder : Address} {name : String} {names : List String} {entry : Entry}
      (between : disk.get? (folder ++ [name]) = some .folder)
      (below : LiesBelow disk (folder ++ [name]) names entry) :
      LiesBelow disk folder (name :: names) entry

theorem throughFolders_cons_iff {name next : String} {rest : List String} :
    disk.throughFolders folder (name :: next :: rest) = true ↔
      disk.get? (folder ++ [name]) = some .folder ∧
        disk.throughFolders (folder ++ [name]) (next :: rest) = true := by
  refine ⟨throughFolders_cons,?_⟩
  rintro ⟨between,below⟩
  simp only [throughFolders,List.all_eq_true,List.mem_range,Bool.or_eq_true,decide_eq_true_eq]
    at below ⊢
  intro n short
  cases n with
  | zero => exact Or.inl rfl
  | succ n =>
    refine Or.inr ?_
    rw [List.take_succ_cons]
    rcases below n (by simp only [List.length_cons] at short ⊢; omega) with none | more
    · rw [none,List.take_zero,between]
      rfl
    · rw [← List.singleton_append,← List.append_assoc]
      exact more

/-- What is listed below a folder is what lies below it. -/
theorem liesBelow_iff : disk.LiesBelow folder names entry ↔ names ≠ [] ∧
    disk.throughFolders folder names = true ∧ disk.get? (folder ++ names) = some entry := by
  constructor
  · intro below
    induction below with
    | inside there =>
      exact ⟨List.cons_ne_nil _ _,by simp [throughFolders],there⟩
    | @deeper folder name names entry between below ih =>
      obtain ⟨some,through,there⟩ := ih
      obtain ⟨next,rest,rfl⟩ := List.exists_cons_of_ne_nil some
      refine ⟨List.cons_ne_nil _ _,throughFolders_cons_iff.mpr ⟨between,through⟩,?_⟩
      rw [← there]
      simp
  · rintro ⟨some,through,there⟩
    induction names generalizing folder with
    | nil => exact absurd rfl some
    | cons name rest ih =>
      cases rest with
      | nil => exact .inside there
      | cons next rest =>
        obtain ⟨between,below⟩ := throughFolders_cons through
        refine .deeper between (ih (List.cons_ne_nil _ _) below ?_)
        rw [← there]
        simp

theorem mem_filesBelow_iff_liesBelow :
    names ∈ disk.filesBelow folder ↔ ∃ content, disk.LiesBelow folder names (.file content) := by
  simp only [mem_filesBelow_iff,liesBelow_iff,exists_and_left]

theorem LiesBelow.kept (below : disk.LiesBelow folder names entry)
    (kept : ∀ address entry, disk.get? address = some entry → other.get? address = some entry) :
    other.LiesBelow folder names entry := by
  induction below with
  | inside there => exact .inside (kept _ _ there)
  | deeper between _ ih => exact .deeper (kept _ _ between) ih

theorem get?_of_perm (same : disk.entries.Perm other.entries)
    (there : disk.get? address = some entry) : other.get? address = some entry := by
  by_cases root : address = []
  · rw [Disk.get?,if_pos root] at there ⊢
    exact there
  · exact found_of_mem root (same.mem_iff.mp (mem_of_found root there))

theorem Named.of_perm (named : disk.Named) (same : disk.entries.Perm other.entries) :
    other.Named :=
  fun item member => named item (same.mem_iff.mpr member)

/-- A path that leads somewhere is resolved to the address it leads to. -/
theorem resolve_of_walk {links : Nat}
    (reached : disk.walk true links folder names = .ok (.at address entry)) :
    disk.resolve links folder names = .ok address := by
  fun_induction disk.walk true links folder names with
  | case1 =>
    cases reached
    rw [resolve]
  | case2 links folder rest ih =>
    rw [resolve,if_pos rfl]
    exact ih reached
  | case5 links folder name rest downward between ih =>
    rw [resolve,if_neg downward,between]
    exact ih reached
  | case6 links folder name downward content there =>
    cases reached
    rw [resolve,if_neg downward,there,resolve]
  | case10 folder name rest downward target there followed links path ih =>
    rw [resolve,if_neg downward,there]
    exact ih reached
  | case8 links folder name rest downward target there last => cases last.2
  | case3 | case4 | case7 | case9 => cases reached

theorem resolved_of_target? {path : Path} (reached : disk.target? path = some (address,entry)) :
    disk.resolved path = .ok ⟨.root,address⟩ := by
  obtain ⟨whole,walked⟩ := target?_eq_some_iff.mp reached
  rw [resolved,if_neg (by simp [whole]),resolve_of_walk walked]
  rfl

end Disk

namespace SourceFiles
variable {disk other : Disk} {folder : Path} {extensions names : List String}
  {ignored : Path → Bool}

structure Wanted (disk : Disk) (folder : Path) (extensions : List String) (ignored : Path → Bool)
    (names : List String) : Prop where
  reached : ∃ address content, disk.target? folder = some (address,.folder) ∧
    disk.LiesBelow address names (.file content)
  extension : ∃ extension ∈ extensions,
    (lower extension).toList <:+ (lower (names.getLastD "")).toList
  noticed : ignored (folder.below names) = false

theorem mem_find_iff_wanted :
    names ∈ find disk folder extensions ignored ↔ Wanted disk folder extensions ignored names := by
  rw [mem_find_iff,mem_candidates_iff]
  simp only [Disk.mem_filesBelow_iff_liesBelow,hasExtension,List.any_eq_true,
    List.isSuffixOf_iff_suffix]
  constructor
  · rintro ⟨⟨address,folder,⟨content,below⟩,extension⟩,noticed⟩
    exact ⟨⟨address,content,folder,below⟩,extension,noticed⟩
  · rintro ⟨⟨address,content,folder,below⟩,extension,noticed⟩
    exact ⟨⟨address,folder,⟨content,below⟩,extension⟩,noticed⟩

theorem Wanted.of_perm (wanted : Wanted disk folder extensions ignored names)
    (same : disk.entries.Perm other.entries) (here : other.here = disk.here) :
    Wanted other folder extensions ignored names := by
  obtain ⟨⟨address,content,reached,below⟩,extension,noticed⟩ := wanted
  have kept : ∀ address entry, disk.get? address = some entry →
      other.get? address = some entry := fun _ _ => Disk.get?_of_perm same
  have reached' := Disk.target?_kept reached rfl here fun address entry _ => kept address entry
  exact ⟨⟨address,content,reached',below.kept kept⟩,extension,noticed⟩

theorem find_of_perm (named : disk.Named) (same : disk.entries.Perm other.entries)
    (here : other.here = disk.here) :
    find other folder extensions ignored = find disk folder extensions ignored := by
  have members : ∀ names, names ∈ find other folder extensions ignored ↔
      names ∈ find disk folder extensions ignored := by
    intro names
    rw [mem_find_iff_wanted,mem_find_iff_wanted]
    exact ⟨fun wanted => wanted.of_perm same.symm here.symm,fun wanted => wanted.of_perm same here⟩
  have perm := (List.perm_ext_iff_of_nodup (nodup_find other folder extensions ignored)
    (nodup_find disk folder extensions ignored)).mpr members
  refine List.Perm.eq_of_pairwise ?_ (pairwise_find (named.of_perm same) _ _ _)
    (pairwise_find named _ _ _) perm
  intro a b _ _ less greater
  exact absurd less (String.lt_asymm greater)

/-- A wanted file lies below the start of the search also when all links are resolved. -/
theorem Wanted.resolved (named : disk.Named) (wanted : Wanted disk folder extensions ignored names) :
    ∃ start, disk.resolved folder = .ok start ∧
      disk.resolved (folder.below names) = .ok (start.below names) := by
  obtain ⟨address,content,reached,below⟩ := wanted.reached
  obtain ⟨some,through,there⟩ := Disk.liesBelow_iff.mp below
  have entryNames : ∀ name ∈ names, Disk.EntryName name := fun name member =>
    named _ (Disk.mem_of_found (by simp [some]) there) name (List.mem_append_right _ member)
  have file := Disk.target?_below reached some entryNames through there
  exact ⟨⟨.root,address⟩,Disk.resolved_of_target? reached,Disk.resolved_of_target? file⟩

/-- A search finds the wanted files and nothing else, each of them once and in the order of their
paths, in whatever order the file tree lists its entries, and all of them truly lie below its
start. -/
theorem found_exactly (named : disk.Named) (folder : Path) (extensions : List String)
    (ignored : Path → Bool) :
    (∀ names, names ∈ find disk folder extensions ignored ↔
      Wanted disk folder extensions ignored names) ∧
    (find disk folder extensions ignored).Nodup ∧
    (find disk folder extensions ignored).Pairwise (fun a b => Path.joined a < Path.joined b) ∧
    (∀ other : Disk, disk.entries.Perm other.entries → other.here = disk.here →
      find other folder extensions ignored = find disk folder extensions ignored) ∧
    ∀ names ∈ find disk folder extensions ignored, ∃ start, disk.resolved folder = .ok start ∧
      disk.resolved (folder.below names) = .ok (start.below names) := by
  refine ⟨fun _ => mem_find_iff_wanted,nodup_find _ _ _ _,pairwise_find named _ _ _,?_,?_⟩
  · intro other same here
    exact find_of_perm named same here
  · intro names member
    exact (mem_find_iff_wanted.mp member).resolved named

section Example

def linkedTree : Disk where
  -- A folder that is also reached through a link, with a hidden file, links that lead to a file,
  -- out of the folder, back to it and nowhere, and a file that is ignored.
  entries := [(["alias"],.link "src"),(["other"],.folder),(["other","zout.abap"],.file .empty),
    (["src"],.folder),(["src","zlink.abap"],.link "pkg/.zin.ABAP"),(["src","gone.abap"],.link "no"),
    (["src","out"],.link "../other"),(["src","pkg"],.folder),(["src","pkg","loop"],.link ".."),
    (["src","pkg",".zin.ABAP"],.file .empty),(["src","zold.abap"],.file .empty)]

theorem target?_alias : linkedTree.target? ⟨.root,["alias"]⟩ = some (["src"],.folder) := by
  refine Disk.target?_eq_some_iff.mpr ⟨by decide,?_⟩
  have names : Path.ofString "src" = ⟨.relative,["src"]⟩ := by decide +kernel
  rw [show Disk.linkLimit = 39 + 1 from rfl,Disk.walk_link (by decide) rfl,names]
  change linkedTree.walk true 39 [] ["src"] = _
  rw [Disk.walk_folder (by decide) rfl,Disk.walk]
  rfl

theorem hidden_file_found :
    let ignored (path : Path) := path.names.getLast? == some "zold.abap"
    let files := find linkedTree ⟨.root,["alias"]⟩ [".Abap"] ignored
    linkedTree.Named ∧ ["pkg",".zin.ABAP"] ∈ files ∧ ["zlink.abap"] ∉ files ∧
      ["out","zout.abap"] ∉ files ∧ ["zold.abap"] ∉ files ∧
      ∃ start, linkedTree.resolved ⟨.root,["alias"]⟩ = .ok start ∧
        linkedTree.resolved ⟨.root,["alias","pkg",".zin.ABAP"]⟩ =
          .ok (start.below ["pkg",".zin.ABAP"]) := by
  intro ignored files
  have named : linkedTree.Named := by decide +kernel
  obtain ⟨exactly,_,_,_,within⟩ := found_exactly named ⟨.root,["alias"]⟩ [".Abap"] ignored
  have hidden : ["pkg",".zin.ABAP"] ∈ files := by
    refine (exactly _).mpr ⟨⟨_,_,target?_alias,.deeper rfl (.inside rfl)⟩,?_,by decide⟩
    exact ⟨".Abap",List.mem_singleton_self _,by decide +kernel⟩
  refine ⟨named,hidden,?_,?_,?_,within _ hidden⟩
  · intro found
    obtain ⟨address,content,reached,below⟩ := ((exactly _).mp found).reached
    cases target?_alias.symm.trans reached
    cases below with
    | inside there => cases there
    | deeper _ below => cases below
  · intro found
    obtain ⟨address,content,reached,below⟩ := ((exactly _).mp found).reached
    cases target?_alias.symm.trans reached
    cases below with
    | deeper between _ => cases between
  · intro found
    cases ((exactly _).mp found).noticed

end Example

end SourceFiles
end AbapAtlas

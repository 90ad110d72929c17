import AbapAtlas.Disk.Basic
import AbapAtlas.Proofs.Path

/-! Following paths through a file tree. What leads to a folder can be followed further from there,
and names that run through folders alone lead to where they say. -/
namespace AbapAtlas.Disk

structure EntryName (name : String) : Prop where
  written : Path.Written name
  downward : name ≠ Path.parent
  whole : '\x00' ∉ name.toList

instance (name : String) : Decidable (EntryName name) :=
  decidable_of_iff (Path.Written name ∧ name ≠ Path.parent ∧ '\x00' ∉ name.toList)
    ⟨fun ⟨written,downward,whole⟩ => ⟨written,downward,whole⟩,
      fun ⟨written,downward,whole⟩ => ⟨written,downward,whole⟩⟩

/-- That the names in a file tree are names of entries, as every file system has it. -/
def Named (disk : Disk) : Prop := ∀ item ∈ disk.entries, ∀ name ∈ item.1, EntryName name

instance (disk : Disk) : Decidable disk.Named := by
  unfold Named
  infer_instance

theorem walk_parent (disk : Disk) (last : Bool) (links : Nat) (folder : Address)
    (rest : List String) :
    disk.walk last links folder (Path.parent :: rest) = disk.walk last links folder.dropLast rest := by
  rw [walk,if_pos rfl]

theorem walk_folder {disk : Disk} {last : Bool} {links : Nat} {folder : Address} {name : String}
    {rest : List String} (downward : name ≠ Path.parent)
    (entry : disk.get? (folder ++ [name]) = some .folder) :
    disk.walk last links folder (name :: rest) = disk.walk last links (folder ++ [name]) rest := by
  rw [walk,if_neg downward,entry]

theorem walk_file {disk : Disk} {last : Bool} {links : Nat} {folder : Address} {name : String}
    {content : ByteArray} (downward : name ≠ Path.parent)
    (entry : disk.get? (folder ++ [name]) = some (.file content)) :
    disk.walk last links folder [name] = .ok (.at (folder ++ [name]) (.file content)) := by
  rw [walk,if_neg downward,entry]
  exact if_pos rfl

theorem walk_vacant {disk : Disk} {last : Bool} {links : Nat} {folder : Address} {name : String}
    (downward : name ≠ Path.parent) (absent : disk.get? (folder ++ [name]) = none) :
    disk.walk last links folder [name] = .ok (.vacant folder name) := by
  rw [walk,if_neg downward,absent]
  exact if_pos rfl

theorem walk_link {disk : Disk} {links : Nat} {folder : Address} {name : String}
    {rest : List String} {target : String} (downward : name ≠ Path.parent)
    (entry : disk.get? (folder ++ [name]) = some (.link target)) :
    disk.walk true (links + 1) folder (name :: rest) =
      disk.walk true links (if (Path.ofString target).isAbsolute then [] else folder)
        ((Path.ofString target).names ++ rest) := by
  rw [walk,if_neg downward,entry]
  exact if_neg (by simp)

/-- What follows a path that leads to a folder starts there, with the links that are left. -/
theorem walk_append {disk : Disk} {links : Nat} {folder address : Address} {names : List String}
    (more : List String)
    (reached : disk.walk true links folder names = .ok (.at address .folder)) :
    ∃ left, disk.walk true links folder (names ++ more) = disk.walk true left address more := by
  fun_induction disk.walk true links folder names with
  | case1 links folder =>
    cases reached
    exact ⟨links,rfl⟩
  | case2 links folder rest ih =>
    rw [List.cons_append,walk_parent]
    exact ih reached
  | case5 links folder name rest downward entry ih =>
    rw [List.cons_append,walk_folder downward entry]
    exact ih reached
  | case10 folder name rest downward target entry through links path ih =>
    rw [List.cons_append,walk_link downward entry,← List.append_assoc]
    exact ih reached
  -- All other ways end at a file, at a link, at nothing or in an error.
  | case3 | case4 | case6 | case7 | case8 | case9 => cases reached

theorem throughFolders_cons {disk : Disk} {folder : Address} {name next : String}
    {rest : List String} (through : disk.throughFolders folder (name :: next :: rest) = true) :
    disk.get? (folder ++ [name]) = some .folder ∧
      disk.throughFolders (folder ++ [name]) (next :: rest) = true := by
  simp only [throughFolders,List.all_eq_true,List.mem_range,Bool.or_eq_true,decide_eq_true_eq]
    at through ⊢
  constructor
  · have first := (through 1 (by simp)).resolve_left (by omega)
    obtain ⟨entry,found,isFolder⟩ := (Option.any_eq_true _ _).mp first
    cases entry with
    | folder => exact found
    | file content => cases isFolder
    | link target => cases isFolder
  · intro n below
    have later := (through (n + 1) (by simp only [List.length_cons] at below ⊢; omega)).resolve_left
      (by omega)
    rw [List.take_succ_cons] at later
    rw [List.append_assoc]
    exact Or.inr later

theorem walk_through {disk : Disk} {folder : Address} {names : List String} {content : ByteArray}
    (links : Nat) (some : names ≠ []) (downward : ∀ name ∈ names, name ≠ Path.parent)
    (through : disk.throughFolders folder names = true)
    (entry : disk.get? (folder ++ names) = Option.some (.file content)) :
    disk.walk true links folder names = .ok (.at (folder ++ names) (.file content)) := by
  induction names generalizing folder with
  | nil => exact absurd rfl some
  | cons name rest ih =>
    have first := downward name List.mem_cons_self
    cases rest with
    | nil => exact walk_file first entry
    | cons next rest =>
      obtain ⟨inside,below⟩ := throughFolders_cons through
      have regrouped : folder ++ name :: next :: rest = folder ++ [name] ++ next :: rest := by simp
      rw [walk_folder first inside,regrouped]
      rw [regrouped] at entry
      exact ih (List.cons_ne_nil _ _) (fun n member => downward n (List.mem_cons_of_mem _ member))
        below entry

theorem walk_throughFolders {disk : Disk} {folder : Address} {names more : List String}
    (links : Nat) (some : more ≠ []) (downward : ∀ name ∈ names, name ≠ Path.parent)
    (through : disk.throughFolders folder (names ++ more) = true) :
    disk.walk true links folder names = .ok (.at (folder ++ names) .folder) ∧
      disk.throughFolders (folder ++ names) more = true := by
  induction names generalizing folder with
  | nil =>
    rw [walk,List.append_nil]
    exact ⟨rfl,through⟩
  | cons name rest ih =>
    obtain ⟨next,others,split⟩ := List.exists_cons_of_ne_nil (List.append_ne_nil_of_right_ne_nil rest some)
    rw [List.cons_append,split] at through
    obtain ⟨inside,below⟩ := throughFolders_cons through
    have regrouped : folder ++ name :: rest = folder ++ [name] ++ rest := by simp
    rw [← split] at below
    rw [walk_folder (downward name List.mem_cons_self) inside,regrouped]
    exact ih (fun n member => downward n (List.mem_cons_of_mem _ member)) below

theorem target?_eq_some_iff {disk : Disk} {path : Path} {address : Address} {entry : Entry} :
    disk.target? path = some (address,entry) ↔ path.hasNull = false ∧
      disk.walk true linkLimit (disk.start path) path.names = .ok (.at address entry) := by
  rw [target?,locate]
  cases path.hasNull with
  | true => simp
  | false =>
    simp only [Bool.false_eq_true,if_false,true_and]
    split
    · rename_i place equal
      rw [equal]
      simp
    · rename_i other
      constructor
      · intro none
        cases none
      · intro reached
        exact absurd reached (other address entry)

theorem hasNull_below {path : Path} {names : List String} (whole : path.hasNull = false)
    (named : ∀ name ∈ names, EntryName name) : (path.below names).hasNull = false := by
  simp only [Path.hasNull,Path.below,List.any_append,Bool.or_eq_false_iff]
  refine ⟨whole,List.any_eq_false.mpr ?_⟩
  intro name member
  simpa using (named name member).whole

/-- A file below the folder that a path leads to is where the names behind that path lead. -/
theorem target?_below {disk : Disk} {folder : Path} {address : Address} {names : List String}
    {content : ByteArray} (reached : disk.target? folder = some (address,.folder))
    (some : names ≠ []) (named : ∀ name ∈ names, EntryName name)
    (through : disk.throughFolders address names = true)
    (entry : disk.get? (address ++ names) = Option.some (.file content)) :
    disk.target? (folder.below names) = Option.some (address ++ names,.file content) := by
  obtain ⟨whole,walked⟩ := target?_eq_some_iff.mp reached
  obtain ⟨left,further⟩ := walk_append names walked
  refine target?_eq_some_iff.mpr ⟨hasNull_below whole named,?_⟩
  exact further.trans (walk_through left some (fun name member => (named name member).downward)
    through entry)

theorem target?_folderBelow {disk : Disk} {folder : Path} {address : Address}
    {names more : List String} (reached : disk.target? folder = some (address,.folder))
    (some : more ≠ []) (named : ∀ name ∈ names, EntryName name)
    (through : disk.throughFolders address (names ++ more) = true) :
    disk.target? (folder.below names) = Option.some (address ++ names,.folder) := by
  obtain ⟨whole,walked⟩ := target?_eq_some_iff.mp reached
  obtain ⟨left,further⟩ := walk_append names walked
  refine target?_eq_some_iff.mpr ⟨hasNull_below whole named,?_⟩
  exact further.trans (walk_throughFolders left some
    (fun name member => (named name member).downward) through).1

theorem content_of_target? {disk : Disk} {path : Path} {address : Address} {content : ByteArray}
    (reached : disk.target? path = some (address,.file content)) :
    disk.content path = .ok content := by
  obtain ⟨whole,walked⟩ := target?_eq_some_iff.mp reached
  simp only [Disk.content,locate,whole,Bool.false_eq_true,if_false,walked]
  rfl

theorem isFolder_iff {disk : Disk} {path : Path} :
    disk.isFolder path = true ↔ ∃ address, disk.target? path = some (address,.folder) := by
  rw [isFolder]
  split
  · rename_i address equal
    simp [equal]
  · rename_i other
    constructor
    · intro no
      cases no
    · rintro ⟨address,reached⟩
      exact absurd reached (other address)

def bare : Disk where
  entries := []

end AbapAtlas.Disk

import AbapAtlas.Proofs.FileTree

/-! File trees that change. What is put into a tree is found where it was put, and paths that lead
elsewhere still lead there. -/
namespace AbapAtlas

theorem lookup_putEntry (address other : Address) (entry : Entry)
    (entries : List (Address × Entry)) :
    (putEntry address entry entries).lookup other =
      if other = address then some entry else entries.lookup other := by
  induction entries with
  | nil =>
    rw [putEntry,List.lookup_cons,List.lookup_nil]
    by_cases same : other = address
    · rw [if_pos same,same,beq_self_eq_true]
    · rw [if_neg same,beq_false_of_ne same]
  | cons head rest ih =>
    obtain ⟨a,e⟩ := head
    by_cases found : a = address
    · subst found
      rw [putEntry,if_pos rfl,List.lookup_cons,List.lookup_cons]
      by_cases same : other = a
      · rw [if_pos same,same,beq_self_eq_true]
      · rw [if_neg same,beq_false_of_ne same]
    · rw [putEntry,if_neg found,List.lookup_cons,List.lookup_cons,ih]
      by_cases same : other = address
      · subst same
        simp only [beq_false_of_ne (Ne.symm found),if_true]
      · rw [if_neg same,if_neg same]

theorem putEntry_of_lookup {address : Address} {entry : Entry} {entries : List (Address × Entry)}
    (found : entries.lookup address = some entry) : putEntry address entry entries = entries := by
  induction entries with
  | nil => cases found
  | cons head rest ih =>
    obtain ⟨a,e⟩ := head
    rw [List.lookup_cons] at found
    by_cases same : a = address
    · subst same
      simp only [beq_self_eq_true,Option.some.injEq] at found
      simp [putEntry,found]
    · simp only [beq_false_of_ne (Ne.symm same)] at found
      simp [putEntry,same,ih found]

namespace Disk
variable {disk before after : Disk} {path : Path} {address : Address} {entry : Entry}

theorem get?_put_self (some : address ≠ []) (disk : Disk) (entry : Entry) :
    Disk.get? (disk.put address entry) address = Option.some entry := by
  simp [Disk.get?,put,some,lookup_putEntry]

theorem get?_put_of_ne {other : Address} (different : other ≠ address) (disk : Disk)
    (entry : Entry) : Disk.get? (disk.put address entry) other = disk.get? other := by
  simp [Disk.get?,put,different,lookup_putEntry]

theorem put_of_found (some : address ≠ []) (found : disk.get? address = Option.some entry) :
    disk.put address entry = disk := by
  simp only [Disk.get?,if_neg some] at found
  obtain ⟨entries,here,distinct⟩ := disk
  simp only [put,putEntry_of_lookup found]

theorem walk_last {last : Bool} {links : Nat} {folder : Address} {name : String}
    (downward : name ≠ Path.parent) (there : disk.get? (folder ++ [name]) = some entry)
    (direct : ∀ target, entry ≠ .link target) :
    disk.walk last links folder [name] = .ok (.at (folder ++ [name]) entry) := by
  cases entry with
  | file content => exact walk_file downward there
  | folder => rw [walk_folder downward there,walk]
  | link target => exact absurd rfl (direct target)

end Disk

def Place.address : Place → Address
  | .at address _ => address
  | .vacant folder name => folder ++ [name]

def Place.held? : Place → Option Entry
  | .at _ entry => some entry
  | .vacant _ _ => none

def Place.Free : Place → Prop
  | .at _ entry => entry.isFile = true
  | .vacant _ _ => True

theorem Place.Free.isFile {place : Place} (free : place.Free) :
    ∀ entry, place.held? = some entry → entry.isFile = true := by
  intro entry there
  cases place with
  | «at» address held =>
    cases there
    exact free
  | vacant folder name => cases there

namespace Disk
variable {disk before after later : Disk} {path : Path} {address : Address} {entry : Entry}
  {place : Place}

theorem walk_eq_of_locate {last : Bool} (found : disk.locate last path = .ok place) :
    path.hasNull = false ∧ disk.walk last linkLimit (disk.start path) path.names = .ok place := by
  rw [locate] at found
  cases null : path.hasNull with
  | true =>
    rw [null] at found
    cases found
  | false =>
    rw [null] at found
    exact ⟨rfl,found⟩

theorem get?_of_walk {last : Bool} {links : Nat} {folder : Address} {names : List String}
    (reached : disk.walk last links folder names = .ok place) (free : place.Free) :
    place.address ≠ [] ∧ disk.get? place.address = place.held? := by
  fun_induction disk.walk last links folder names with
  | case1 =>
    cases reached
    cases free
  | case2 _ _ _ ih => exact ih reached
  | case3 _ folder name downward absent =>
    cases reached
    exact ⟨by simp [Place.address],absent⟩
  | case5 _ _ _ _ _ _ ih => exact ih reached
  | case6 _ folder name downward content there =>
    cases reached
    exact ⟨by simp [Place.address],there⟩
  | case8 =>
    cases reached
    cases free
  | case10 _ _ _ _ _ _ _ _ _ ih => exact ih reached
  | case4 | case7 | case9 => cases reached

/-- A walk to a free place leads to what is put there, if all else stays. -/
theorem walk_put {last : Bool} {links : Nat} {folder : Address} {names : List String}
    (reached : before.walk last links folder names = .ok place) (free : place.Free)
    (others : ∀ other entry, other ≠ place.address → before.get? other = some entry →
      after.get? other = some entry)
    (there : after.get? place.address = some entry) (direct : ∀ target, entry ≠ .link target) :
    after.walk true links folder names = .ok (.at place.address entry) := by
  have only : ∀ entry, before.get? place.address = some entry → entry.isFile = true := by
    rw [(get?_of_walk reached free).2]
    exact free.isFile
  fun_induction before.walk last links folder names with
  | case1 =>
    cases reached
    cases free
  | case2 _ _ _ ih =>
    rw [walk_parent]
    exact ih reached
  | case3 _ folder name downward absent =>
    cases reached
    exact walk_last downward there direct
  | case5 _ folder name rest downward inside ih =>
    -- Folders and links on the way are no free places, so they are still there.
    have elsewhere : folder ++ [name] ≠ place.address := by
      intro same
      cases only _ (same ▸ inside)
    rw [walk_folder downward (others _ _ elsewhere inside)]
    exact ih reached
  | case6 _ folder name downward content inside =>
    cases reached
    exact walk_last downward there direct
  | case8 =>
    cases reached
    cases free
  | case10 folder name rest downward target inside followed links path ih =>
    have elsewhere : folder ++ [name] ≠ place.address := by
      intro same
      cases only _ (same ▸ inside)
    rw [walk_link downward (others _ _ elsewhere inside)]
    exact ih reached
  | case4 | case7 | case9 => cases reached

/-- What a path leads to that is no file is still there as long as only files change. -/
theorem walk_kept {last : Bool} {links : Nat} {folder : Address} {names : List String}
    (reached : before.walk last links folder names = .ok (.at address entry))
    (inner : entry.isFile = false)
    (kept : ∀ other entry, entry.isFile = false → before.get? other = some entry →
      after.get? other = some entry) :
    after.walk last links folder names = .ok (.at address entry) := by
  fun_induction before.walk last links folder names with
  | case1 =>
    rw [walk]
    exact reached
  | case2 _ _ _ ih =>
    rw [walk_parent]
    exact ih reached
  | case5 _ folder name rest downward inside ih =>
    rw [walk_folder downward (kept _ _ rfl inside)]
    exact ih reached
  | case6 _ folder name downward content inside =>
    cases reached
    cases inner
  | case8 links folder name rest downward target inside stop =>
    rw [walk,if_neg downward,kept _ _ rfl inside]
    simp only [if_pos stop]
    exact reached
  | case10 folder name rest downward target inside followed links path ih =>
    rw [walk,if_neg downward,kept _ _ rfl inside]
    simp only [if_neg followed]
    exact ih reached
  | case3 | case4 | case7 | case9 => cases reached

section
variable {disk later : Disk} {path : Path} {place : Place}

theorem target?_put (found : disk.locate true path = .ok place) (free : place.Free)
    {entry : Entry} (direct : ∀ target, entry ≠ .link target) :
    (disk.put place.address entry).target? path = some (place.address,entry) := by
  obtain ⟨whole,reached⟩ := walk_eq_of_locate found
  have somewhere := (get?_of_walk reached free).1
  refine target?_eq_some_iff.mpr ⟨whole,?_⟩
  refine walk_put reached free ?_ (get?_put_self somewhere disk entry) direct
  intro other held different there
  rw [get?_put_of_ne different]
  exact there

theorem writeFile_of_free (found : disk.locate true path = .ok place) (free : place.Free)
    (content : ByteArray) :
    disk.writeFile path content = .ok (disk.put place.address (.file content)) := by
  rw [writeFile,found]
  cases place with
  | vacant folder name => rfl
  | «at» address entry =>
    cases entry with
    | file old => rfl
    | folder => cases free
    | link target => cases free

theorem free_of_writeFile {content : ByteArray}
    (written : disk.writeFile path content = .ok later) : ∃ place, disk.locate true path = .ok place ∧ place.Free ∧
      later = disk.put place.address (.file content) := by
  rw [writeFile] at written
  cases found : disk.locate true path with
  | error trouble =>
    rw [found] at written
    cases written
  | ok place =>
    have free : place.Free := by
      rw [found] at written
      cases place with
      | vacant folder name => trivial
      | «at» address entry =>
        cases entry with
        | file old => rfl
        | folder => cases written
        | link target => cases written
    refine ⟨place,rfl,free,?_⟩
    rw [← writeFile,writeFile_of_free found free] at written
    exact (Except.ok.inj written).symm

/-- Writing what a file holds already changes nothing. -/
theorem writeFile_again {address : Address} {content : ByteArray}
    (there : disk.target? path = some (address,.file content)) :
    disk.writeFile path content = .ok disk := by
  obtain ⟨whole,reached⟩ := target?_eq_some_iff.mp there
  have found : disk.locate true path = .ok (.at address (.file content)) := by
    rw [locate,whole]
    exact reached
  obtain ⟨somewhere,held⟩ := get?_of_walk reached rfl
  rw [writeFile_of_free found rfl]
  exact congrArg Except.ok (put_of_found somewhere held)

end

/-- That a file tree has become another one by new folders alone, each of them on the way that the
names of a path go. -/
structure Grown (path : Path) (before after : Disk) : Prop where
  here : after.here = before.here
  kept : ∀ address entry, before.get? address = some entry → after.get? address = some entry
  made : ∀ address entry, before.get? address = none → after.get? address = some entry →
    entry = .folder ∧ ∃ names, names <+: path.names ∧
      after.target? ⟨path.anchor,names⟩ = some (address,.folder)

section
variable {path : Path} {a b c : Disk}

theorem Grown.refl (path : Path) (disk : Disk) : Grown path disk disk := by
  refine ⟨rfl,fun _ _ => id,?_⟩
  intro address entry absent there
  rw [absent] at there
  cases there

theorem target?_kept {address : Address} {entry : Entry}
    (reached : a.target? path = some (address,entry)) (inner : entry.isFile = false)
    (here : b.here = a.here)
    (kept : ∀ other entry, entry.isFile = false → a.get? other = some entry →
      b.get? other = some entry) :
    b.target? path = some (address,entry) := by
  obtain ⟨whole,walked⟩ := target?_eq_some_iff.mp reached
  have start : b.start path = a.start path := by rw [start,start,here]
  refine target?_eq_some_iff.mpr ⟨whole,?_⟩
  rw [start]
  exact walk_kept walked inner kept

theorem Grown.trans (first : Grown path a b) (second : Grown path b c) : Grown path a c := by
  refine ⟨second.here.trans first.here,?_,?_⟩
  · intro address entry there
    exact second.kept address entry (first.kept address entry there)
  · intro address entry absent there
    cases between : b.get? address with
    | none => exact second.made address entry between there
    | some other =>
      obtain ⟨rfl,names,above,folder⟩ := first.made address other absent between
      have still := second.kept address .folder between
      rw [there,Option.some.injEq] at still
      exact ⟨still,names,above,target?_kept folder rfl second.here fun _ _ _ => second.kept _ _⟩

theorem Grown.further (grown : Grown path.folder a b) : Grown path a b := by
  refine ⟨grown.here,grown.kept,?_⟩
  intro address entry absent there
  obtain ⟨made,names,above,folder⟩ := grown.made address entry absent there
  exact ⟨made,names,above.trans (List.dropLast_prefix _),folder⟩

theorem Grown.file_iff (grown : Grown path a b) (address : Address) (content : ByteArray) :
    b.get? address = some (.file content) ↔ a.get? address = some (.file content) := by
  refine ⟨fun there => ?_,grown.kept address _⟩
  cases before : a.get? address with
  | none => cases (grown.made address _ before there).1
  | some entry =>
    rw [← there]
    exact (grown.kept address entry before).symm

/-- Making a folder adds it and changes nothing else. -/
theorem grown_of_makeFolder (made : a.makeFolder path = .ok b) : Grown path a b := by
  rw [makeFolder] at made
  cases found : a.locate false path with
  | error trouble =>
    rw [found] at made
    cases made
  | ok place =>
    rw [found] at made
    cases place with
    | «at» address entry => cases made
    | vacant folder name =>
      cases made
      obtain ⟨whole,reached⟩ := walk_eq_of_locate found
      obtain ⟨somewhere,absent⟩ := get?_of_walk reached trivial
      have kept : ∀ other entry, a.get? other = some entry →
          Disk.get? (a.put (folder ++ [name]) .folder) other = some entry := by
        intro other entry there
        rw [get?_put_of_ne]
        · exact there
        · rintro rfl
          cases absent.symm.trans there
      refine ⟨rfl,kept,?_⟩
      intro address entry before after
      by_cases same : address = folder ++ [name]
      · subst same
        have new : Disk.get? (a.put (folder ++ [name]) .folder) (folder ++ [name]) =
            some .folder := get?_put_self somewhere a .folder
        rw [new,Option.some.injEq] at after
        refine ⟨after.symm,path.names,List.prefix_rfl,target?_eq_some_iff.mpr ⟨whole,?_⟩⟩
        exact walk_put reached trivial (fun other entry _ => kept other entry) new (by simp)
      · rw [get?_put_of_ne same,before] at after
        cases after

theorem grown_of_ensureFolder (made : a.ensureFolder path = .ok b) : Grown path a b := by
  rw [ensureFolder] at made
  split at made
  · next new =>
    cases made
    exact grown_of_makeFolder new
  · split at made
    · cases made
      exact .refl path a
    · cases made

theorem makeFolders_of_folder {address : Address} {entry : Entry}
    (there : a.locate false path = .ok (.at address entry)) (folder : a.isFolder path = true) :
    a.makeFolders path = (a,none) := by
  have made : a.makeFolder path = .error .exists := by
    rw [makeFolder,there]
    rfl
  rw [makeFolders,ensureFolder,made]
  simp [folder]

/-- Making folders makes nothing but folders on the way, also when it is refused. -/
theorem grown_makeFolders (disk : Disk) (path : Path) :
    Grown path disk (disk.makeFolders path).1 := by
  fun_induction disk.makeFolders path with
  | case1 path later made => exact grown_of_ensureFolder made
  | case2 path refusal refused stop => exact .refl path disk
  | case3 path refusal refused more later blocked above ih =>
    rw [above] at ih
    exact ih.further
  | case4 path refusal refused more later above last made ih =>
    rw [above] at ih
    exact ih.further.trans (grown_of_ensureFolder made)
  | case5 path refusal refused more later above blocked last ih =>
    rw [above] at ih
    exact ih.further

/-- That a file tree has become another one by one file at a path, in place of another file or of
nothing, and by new folders above it. -/
structure Replaced (path : Path) (address : Address) (content : ByteArray)
    (before after : Disk) : Prop where
  reached : after.target? path = some (address,.file content)
  free : ∀ entry, before.get? address = some entry → entry.isFile = true
  kept : ∀ other entry, other ≠ address → before.get? other = some entry →
    after.get? other = some entry
  made : ∀ other entry, other ≠ address → before.get? other = none →
    after.get? other = some entry → entry = .folder ∧ ∃ names, names <+: path.folder.names ∧
      after.target? ⟨path.anchor,names⟩ = some (other,.folder)

/-- Writing a file in new folders replaces it alone. -/
theorem replaced_of_grown {place : Place} (grown : Grown path.folder a b)
    (found : b.locate true path = .ok place) (free : place.Free) (content : ByteArray) :
    Replaced path place.address content a (b.put place.address (.file content)) := by
  obtain ⟨somewhere,held⟩ := get?_of_walk (walk_eq_of_locate found).2 free
  refine ⟨target?_put found free (by simp),?_,?_,?_⟩
  · intro entry before
    have between := grown.kept _ _ before
    rw [held] at between
    exact free.isFile entry between
  · intro other entry different before
    rw [get?_put_of_ne different]
    exact grown.kept other entry before
  · intro other entry different absent after
    rw [get?_put_of_ne different] at after
    obtain ⟨made,names,above,folder⟩ := grown.made other entry absent after
    refine ⟨made,names,above,target?_kept folder rfl rfl ?_⟩
    -- The written file is on no way to a folder.
    intro there entry inner before
    rw [get?_put_of_ne]
    · exact before
    · rintro rfl
      rw [held] at before
      rw [free.isFile entry before] at inner
      cases inner

end

end Disk
end AbapAtlas

import AbapAtlas.Path
import AbapAtlas.Proofs.Text.Parts

/-! Paths and their texts. The names that a path is written with are those it is read back with. -/
namespace AbapAtlas.Path
open Text

structure Written (name : String) : Prop where
  nonempty : name ≠ ""
  other : name ≠ "."
  whole : '/' ∉ name.toList

instance (name : String) : Decidable (Written name) :=
  decidable_of_iff (name ≠ "" ∧ name ≠ "." ∧ '/' ∉ name.toList)
    ⟨fun ⟨nonempty,other,whole⟩ => ⟨nonempty,other,whole⟩,
      fun ⟨nonempty,other,whole⟩ => ⟨nonempty,other,whole⟩⟩

theorem written_of_mem_ofString {text name : String} (member : name ∈ (ofString text).names) :
    Written name := by
  simp only [ofString,List.mem_filter,List.mem_map,decide_eq_true_eq] at member
  obtain ⟨⟨part,cut,rfl⟩,nonempty,other⟩ := member
  refine ⟨nonempty,other,?_⟩
  rw [String.toList_ofList]
  exact (mem_cutAt_iff.mp cut).1

theorem toList_joined (names : List String) :
    (joined names).toList = ['/'].intercalate (names.map String.toList) := by
  rw [joined,String.toList_intercalate]
  rfl

theorem joined_append {names more : List String} (some : names ≠ []) (others : more ≠ []) :
    joined (names ++ more) = joined names ++ "/" ++ joined more := by
  rw [← String.toList_inj]
  simp only [String.toList_append,toList_joined,List.map_append]
  induction names with
  | nil => exact absurd rfl some
  | cons name rest ih =>
    cases rest with
    | nil =>
      have mapped : more.map String.toList ≠ [] := by simpa using others
      rw [List.map_cons,List.map_nil,List.cons_append,List.nil_append,
        List.intercalate_cons_of_ne_nil mapped,List.intercalate_singleton]
      rfl
    | cons next rest =>
      simp only [List.map_cons,List.cons_append,List.intercalate_cons_cons] at ih ⊢
      rw [ih (List.cons_ne_nil _ _)]
      simp only [List.append_assoc]

theorem joined_singleton (name : String) : joined [name] = name := by
  rw [← String.toList_inj,toList_joined]
  exact List.intercalate_singleton

theorem suffix_joined (names : List String) (name : String) :
    name.toList <:+ (joined (names ++ [name])).toList := by
  by_cases none : names = []
  · simp only [none,List.nil_append,joined_singleton,List.suffix_rfl]
  · have split : (joined (names ++ [name])).toList =
        (joined names ++ "/").toList ++ name.toList := by
      rw [joined_append none (List.cons_ne_nil _ _),joined_singleton,String.toList_append]
    exact ⟨_,split.symm⟩

theorem cutAt_joined {names : List String} (some : names ≠ [])
    (written : ∀ name ∈ names, Written name) :
    cutAt '/' (joined names).toList = names.map String.toList := by
  rw [cutAt_eq_splitOn,toList_joined]
  refine List.splitOn_intercalate '/' ?_ (by simpa using some)
  intro part member
  obtain ⟨name,inside,rfl⟩ := List.mem_map.mp member
  exact (written name inside).whole

/-- Names joined by slashes are the names of the path that they make. -/
theorem ofString_joined {names : List String} (some : names ≠ [])
    (written : ∀ name ∈ names, Written name) :
    ofString (joined names) = ⟨.relative,names⟩ := by
  have kept : ∀ name ∈ names, decide (name ≠ "" ∧ name ≠ ".") = true := fun name member =>
    decide_eq_true ⟨(written name member).nonempty,(written name member).other⟩
  have slashes : (joined names).toList.takeWhile (· == '/') = [] := by
    obtain ⟨name,rest,rfl⟩ := List.exists_cons_of_ne_nil some
    have first := written name List.mem_cons_self
    have nonempty : name.toList ≠ [] := fun none => first.nonempty (String.toList_eq_nil_iff.mp none)
    obtain ⟨c,more,letters⟩ := List.exists_cons_of_ne_nil nonempty
    have other : c ≠ '/' := fun slash => first.whole (by rw [letters,slash]; exact List.mem_cons_self)
    have head := toList_joined (name :: rest)
    rw [List.map_cons,letters,List.intercalate_cons_cons_left] at head
    simp [head,other]
  rw [ofString,slashes,cutAt_joined some written]
  simp only [List.map_map,List.length_nil,Anchor.ofSlashes]
  congr 1
  have back : (String.ofList ∘ String.toList) = id := by
    funext name
    exact String.ofList_toList
  rw [back,List.map_id]
  exact List.filter_eq_self.mpr kept

/-- Different rows of names are written differently. -/
theorem joined_inj {names others : List String} (some : names ≠ []) (some' : others ≠ [])
    (written : ∀ name ∈ names, Written name) (written' : ∀ name ∈ others, Written name)
    (same : joined names = joined others) : names = others := by
  have read := congrArg ofString same
  rw [ofString_joined some written,ofString_joined some' written'] at read
  exact congrArg Path.names read

theorem joined_append_lt {names others : List String} (above : List String) (some : names ≠ [])
    (some' : others ≠ []) (less : joined names < joined others) :
    joined (above ++ names) < joined (above ++ others) := by
  by_cases none : above = []
  · rw [none,List.nil_append,List.nil_append]
    exact less
  · rw [joined_append none some,joined_append none some',String.lt_iff]
    simp only [String.toList_append]
    exact List.append_left_lt (String.lt_iff.mp less)

/-- The order of paths that begin alike is that of what follows. -/
theorem joined_append_lt_iff {names others : List String} (above : List String)
    (some : names ≠ []) (some' : others ≠ []) :
    joined (above ++ names) < joined (above ++ others) ↔ joined names < joined others := by
  constructor
  · intro less
    by_contra notLess
    by_cases greater : joined others < joined names
    · exact String.lt_asymm less (joined_append_lt above some' some greater)
    · have same := String.le_antisymm (String.not_lt.mp greater) (String.not_lt.mp notLess)
      have equal : joined (above ++ names) = joined (above ++ others) := by
        by_cases none : above = []
        · simpa only [none,List.nil_append] using same
        · rw [joined_append none some,joined_append none some',same]
      rw [equal] at less
      exact String.lt_irrefl _ less
  · exact joined_append_lt above some some'

theorem namesBelow?_eq_some_iff {folder path : Path} {names : List String} :
    folder.namesBelow? path = some names ↔ path = folder.below names := by
  rw [namesBelow?]
  constructor
  · intro found
    split at found
    · rename_i inside
      obtain ⟨anchor,more,whole⟩ := inside
      rw [Option.some.injEq,← whole,List.drop_left] at found
      obtain ⟨a,n⟩ := path
      subst found
      simp only [below,Path.mk.injEq]
      exact ⟨anchor.symm,whole.symm⟩
    · cases found
  · rintro rfl
    simp [below]

theorem getLastD_of_below_eq {a b : Path} {names others : List String} (some : names ≠ [])
    (some' : others ≠ []) (same : a.below names = b.below others) :
    names.getLastD "" = others.getLastD "" := by
  have whole := congrArg Path.names same
  simp only [below] at whole
  rw [List.getLastD_eq_getLast?,List.getLastD_eq_getLast?,
    ← List.getLast?_append_of_ne_nil a.names some,whole,
    List.getLast?_append_of_ne_nil _ some']

theorem within_joined (root : Path) {names : List String} (some : names ≠ [])
    (written : ∀ name ∈ names, Written name) :
    root.within (ofString (joined names)) = root.below names := by
  rw [ofString_joined some written]
  rfl

end AbapAtlas.Path

import AbapAtlas.Proofs.Checked
import AbapAtlas.Proofs.Text.Parts
import AbapAtlas.Settings

/-! Which source folders are accepted. The checks look at the text as given, and what is kept is the
text without the blanks and slashes around it; so an accepted folder can lead out of its repository
after all, and it does so exactly if blanks hide what is wrong with it. -/
namespace AbapAtlas.Settings
open Text

/-- A source folder within its repository: a relative path that is not empty, does not start in a
home folder and takes no step to a parent folder. -/
structure InRepository (srcDir : String) : Prop where
  nonempty : srcDir ≠ ""
  relative : srcDir.toList.head? ≠ some '/'
  homeless : srcDir.toList.head? ≠ some '~'
  downward : Path.parent.toList ∉ cutAt '/' srcDir.toList

/-- The ways to give a source folder: in a settings document, and in the place of that of some
settings. -/
inductive Accepts : Datum → Settings → Prop where
  | document (fields : Fields) (value : Datum) (settings : Settings)
      (given : fields.lookup "src_dir" = some value)
      (passed : check (.table fields) = .passed settings) : Accepts value settings
  | override (old settings : Settings) (srcDir : String)
      (passed : old.withSrcDir srcDir = .passed settings) : Accepts (.text srcDir) settings

/-- Without the blanks around it the text has nothing but slashes, or starts with a tilde once
leading slashes are dropped, or has a step to a parent folder. -/
def HiddenByBlanks (text : String) : Prop :=
  ∃ before core after : List Char, text.toList = before ++ core ++ after ∧
    (∀ c ∈ before, isBlank c = true) ∧ (∀ c ∈ after, isBlank c = true) ∧
    ((∀ c ∈ core, c = '/') ∨
      (∃ slashes rest, core = slashes ++ '~' :: rest ∧ ∀ c ∈ slashes, c = '/') ∨
      Path.parent.toList ∈ cutAt '/' core)

theorem lookup_setField (key : String) (value : Datum) (fields : Fields) :
    List.lookup key (Datum.setField key value fields) = some value := by
  induction fields with
  | nil => simp [Datum.setField]
  | cons head rest ih =>
    obtain ⟨k,v⟩ := head
    by_cases same : k = key
    · simp [Datum.setField,same]
    · have other : (key == k) = false := beq_false_of_ne (Ne.symm same)
      simp only [Datum.setField,same,if_false,List.lookup_cons,other,ih]

theorem check_passed {fields : Fields} {settings : Settings}
    (passed : check (.table fields) = .passed settings) :
    fields.optional ["src_dir"] "src" checkSrcDir = .passed settings.srcDir ∧
    fields.optional ["report_file"] "gl-code-quality-report.json" Datum.checkText =
      .passed settings.reportFile ∧
    fields.optional ["folder_logic"] none Datum.checkOptionalText = .passed settings.folderLogic ∧
    fields.optional ["extensions"] SourceFiles.defaultExtensions checkExtensions =
      .passed settings.extensions ∧
    fields.optional ["max_workers"] 8 (Datum.checkIntFrom 1) = .passed settings.maxWorkers ∧
    fields.optional ["respect_gitignore"] true Datum.checkBool = .passed settings.respectIgnore ∧
    fields.onlyKeys keys = .passed () := by
  obtain ⟨six,_,sixPassed,only,rfl⟩ := Checked.also_passed_iff.mp passed
  obtain ⟨five,_,fivePassed,sixth,rfl⟩ := Checked.also_passed_iff.mp sixPassed
  obtain ⟨four,_,fourPassed,fifth,rfl⟩ := Checked.also_passed_iff.mp fivePassed
  obtain ⟨three,_,threePassed,fourth,rfl⟩ := Checked.also_passed_iff.mp fourPassed
  obtain ⟨two,_,twoPassed,third,rfl⟩ := Checked.also_passed_iff.mp threePassed
  obtain ⟨one,_,onePassed,second,rfl⟩ := Checked.also_passed_iff.mp twoPassed
  obtain ⟨make,_,makePassed,first,rfl⟩ := Checked.also_passed_iff.mp onePassed
  cases makePassed
  exact ⟨first,second,third,fourth,fifth,sixth,only⟩

theorem srcDir_of_check {fields : Fields} {settings : Settings} {value : Datum}
    (given : fields.lookup "src_dir" = some value)
    (passed : check (.table fields) = .passed settings) :
    checkSrcDir value = .passed settings.srcDir := by
  have field := (check_passed passed).1
  simp only [Fields.optional,Fields.find?,given] at field
  cases checked : checkSrcDir value with
  | passed srcDir => rw [checked] at field; exact field
  | failed faults => rw [checked] at field; cases field

theorem srcDir_of_accepts {value : Datum} {settings : Settings} (accepts : Accepts value settings) :
    checkSrcDir value = .passed settings.srcDir := by
  cases accepts with
  | document fields _ _ given passed => exact srcDir_of_check given passed
  | override old _ srcDir passed => exact srcDir_of_check (lookup_setField _ _ _) passed

/-- An accepted source folder is a text that is not blank, and is kept without the blanks and
slashes around it. -/
theorem checkSrcDir_passed {value : Datum} {srcDir : String}
    (passed : checkSrcDir value = .passed srcDir) :
    ∃ text, value = .text text ∧ trim text ≠ "" ∧ srcDir = trimBy (· == '/') (trim text) := by
  cases value with
  | text text =>
    rw [checkSrcDir] at passed
    split at passed
    · simp only [Checked.fault,reduceCtorEq] at passed
    · rename_i some
      split at passed
      · simp only [Checked.fault,reduceCtorEq] at passed
      · rw [Checked.passed.injEq] at passed
        exact ⟨text,rfl,some,passed.symm⟩
  | _ => simp only [checkSrcDir,Checked.fault,reduceCtorEq] at passed

theorem trim_eq_of_all_slashes {text : String} {before core after : List Char}
    (split : text.toList = before ++ core ++ after) (front : ∀ c ∈ before, isBlank c = true)
    (back : ∀ c ∈ after, isBlank c = true) (slashes : ∀ c ∈ core, c = '/') :
    ∀ c ∈ (trim text).toList, c = '/' := by
  intro c member
  rw [trim,toList_trimBy,split] at member
  by_cases none : core = []
  · subst none
    have all : ∀ c ∈ before ++ [] ++ after, isBlank c = true := by
      intro c member
      simp only [List.append_nil,List.mem_append] at member
      exact member.elim (front c) (back c)
    rw [List.dropWhile_eq_nil_iff.mpr all,List.rdropWhile_nil] at member
    cases member
  · have first : isBlank (core.head none) = false := by
      rw [slashes _ (List.head_mem none)]
      decide
    have last : isBlank (core.getLast none) = false := by
      rw [slashes _ (List.getLast_mem none)]
      decide
    rw [trim_around isBlank before core after none first last,
      List.dropWhile_eq_nil_iff.mpr front,List.rdropWhile_eq_nil_iff.mpr back] at member
    rw [List.nil_append,List.append_nil] at member
    exact slashes c member

theorem exists_tilde_of_hidden {text : String} {before slashes rest after : List Char}
    (split : text.toList = before ++ (slashes ++ '~' :: rest) ++ after)
    (front : ∀ c ∈ before, isBlank c = true) (all : ∀ c ∈ slashes, c = '/') :
    ∃ more, (trim text).toList = slashes ++ '~' :: more := by
  have first : isBlank ((slashes ++ ['~']).head (by simp)) = false := by
    cases slashes with
    | nil => decide
    | cons c more =>
      change isBlank c = false
      rw [all c List.mem_cons_self]
      decide
  have last : isBlank ((slashes ++ ['~']).getLast (by simp)) = false := by
    rw [List.getLast_append_of_ne_nil _ (List.cons_ne_nil _ _)]
    decide
  have regrouped : text.toList = before ++ (slashes ++ ['~']) ++ (rest ++ after) := by
    rw [split]
    simp only [List.append_assoc,List.cons_append,List.nil_append]
  refine ⟨(rest ++ after).rdropWhile isBlank,?_⟩
  rw [trim,toList_trimBy,regrouped,trim_around isBlank before _ _ (by simp) first last,
    List.dropWhile_eq_nil_iff.mpr front]
  simp only [List.append_assoc,List.cons_append,List.nil_append]

/-- The source folder that is kept of a text leads out of the repository exactly if blanks hide
that. -/
theorem inRepository_trimmed_iff (text : String) :
    InRepository (trimBy (· == '/') (trim text)) ↔ ¬ HiddenByBlanks text := by
  obtain ⟨left,right,slashed,leftAll,rightAll⟩ := exists_ends (· == '/') (trim text)
  constructor
  · rintro inside ⟨before,core,after,split,front,back,slashes | ⟨slashes,rest,rfl,all⟩ | step⟩
    · apply inside.nonempty
      have all := trim_eq_of_all_slashes split front back slashes
      have gone : (trim text).toList.dropWhile (· == '/') = [] :=
        List.dropWhile_eq_nil_iff.mpr fun c member => beq_iff_eq.mpr (all c member)
      rw [← String.toList_eq_nil_iff,toList_trimBy,gone,List.rdropWhile_nil]
    · apply inside.homeless
      obtain ⟨more,tilde⟩ := exists_tilde_of_hidden split front all
      have around := trim_around (· == '/') slashes ['~'] more (by simp) (by decide) (by decide)
      rw [List.append_assoc,List.cons_append,List.nil_append,← tilde,← toList_trimBy,
        List.dropWhile_eq_nil_iff.mpr fun c member => beq_iff_eq.mpr (all c member)] at around
      rw [around]
      rfl
    · apply inside.downward
      have trimmed : Path.parent.toList ∈ cutAt '/' (trim text).toList :=
        mem_cutAt_trimBy split front back step (by decide) (by decide) (by decide)
      have itself : (trim text).toList = [] ++ (trim text).toList ++ [] := by simp
      exact mem_cutAt_trimBy itself (by simp) (by simp) trimmed (by decide) (by decide) (by decide)
  · intro shown
    obtain ⟨before,after,split,front,back⟩ := exists_ends isBlank text
    refine ⟨?_,?_,?_,?_⟩
    · intro empty
      refine shown ⟨before,(trim text).toList,after,split,front,back,Or.inl ?_⟩
      intro c member
      rw [slashed,String.toList_eq_nil_iff.mpr empty,List.append_nil,List.mem_append] at member
      exact beq_iff_eq.mp (member.elim (leftAll c) (rightAll c))
    · intro slash
      exact absurd (head?_trimBy slash) (by decide)
    · intro tilde
      obtain ⟨rest,inner⟩ := List.head?_eq_some_iff.mp tilde
      refine shown ⟨before,(trim text).toList,after,split,front,back,Or.inr (Or.inl ?_)⟩
      refine ⟨left,rest ++ right,?_,fun c member => beq_iff_eq.mp (leftAll c member)⟩
      rw [slashed,inner]
      simp only [List.append_assoc,List.cons_append]
    · intro step
      exact shown ⟨before,(trim text).toList,after,split,front,back,
        Or.inr (Or.inr (mem_cutAt_of_trimmed step))⟩

/-- An accepted source folder is a relative path, and it lies in the repository unless the blanks
around the text as given hide that it does not. -/
theorem srcDir_inRepository_iff {value : Datum} {settings : Settings}
    (accepts : Accepts value settings) :
    ∃ text, value = .text text ∧ settings.srcDir.toList.head? ≠ some '/' ∧
      (InRepository settings.srcDir ↔ ¬ HiddenByBlanks text) := by
  obtain ⟨text,rfl,_,kept⟩ := checkSrcDir_passed (srcDir_of_accepts accepts)
  refine ⟨text,rfl,?_,?_⟩
  · intro slash
    rw [kept] at slash
    exact absurd (head?_trimBy slash) (by decide)
  · rw [kept]
    exact inRepository_trimmed_iff text

theorem accepts_step_to_parent :
    Accepts (.text "lib/.. ") { srcDir := "lib/.." } ∧ ∃ text, Datum.text "lib/.. " = .text text ∧
      "lib/..".toList.head? ≠ some '/' ∧ (InRepository "lib/.." ↔ ¬ HiddenByBlanks text) := by
  have accepts : Accepts (.text "lib/.. ") { srcDir := "lib/.." } :=
    .document [("src_dir",.text "lib/.. ")] _ _ rfl rfl
  exact ⟨accepts,srcDir_inRepository_iff accepts⟩

/-- A source folder that leads out of the repository is accepted with a blank before it. -/
theorem accepts_parent : Accepts (.text " ..") { srcDir := ".." } ∧ ¬ InRepository ".." := by
  refine ⟨.document [("src_dir",.text " ..")] _ _ rfl rfl,?_⟩
  intro inside
  exact absurd inside.downward (by decide)

end AbapAtlas.Settings

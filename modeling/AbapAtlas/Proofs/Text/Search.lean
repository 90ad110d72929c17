import AbapAtlas.Text.Search
import Mathlib.Data.List.Forall2
import Mathlib.Data.List.TakeWhile

/-! Searching a text from the left: what is read at its head, and what is passed over. -/
namespace AbapAtlas.Text

theorem dropLiteral?_of_forall₂ {same : Char → Char → Bool} {literal matched : List Char}
    (all : List.Forall₂ (fun l c => same l c = true) literal matched) (rest : List Char) :
    dropLiteral? same literal (matched ++ rest) = some rest := by
  induction all with
  | nil => rfl
  | cons equal _ ih =>
    rw [List.cons_append,dropLiteral?,if_pos equal]
    exact ih

theorem dropLiteral?_append (same : Char → Char → Bool) (literal rest : List Char)
    (reflexive : ∀ c ∈ literal, same c c = true) :
    dropLiteral? same literal (literal ++ rest) = some rest :=
  dropLiteral?_of_forall₂ (List.forall₂_same.mpr reflexive) rest

theorem exists_of_dropLiteral? {same : Char → Char → Bool} {literal text rest : List Char}
    (read : dropLiteral? same literal text = some rest) :
    ∃ matched, text = matched ++ rest ∧
      List.Forall₂ (fun l c => same l c = true) literal matched := by
  induction literal generalizing text with
  | nil =>
    cases read
    exact ⟨[],rfl,List.Forall₂.nil⟩
  | cons l literal ih =>
    cases text with
    | nil => cases read
    | cons c text =>
      rw [dropLiteral?] at read
      by_cases equal : same l c = true
      · rw [if_pos equal] at read
        obtain ⟨matched,rfl,all⟩ := ih read
        exact ⟨c :: matched,rfl,List.Forall₂.cons equal all⟩
      · rw [if_neg equal] at read
        cases read

section Spelling
variable {same : Char → Char → Bool} {spell : Char → Char} {word : List Char}
  (agree : ∀ l ∈ word, ∀ c, same l c = true ↔ spell c = l)
include agree

theorem forall₂_iff_map_eq (text : List Char) :
    List.Forall₂ (fun l c => same l c = true) word text ↔ text.map spell = word := by
  induction word generalizing text with
  | nil => rw [List.forall₂_nil_left_iff,List.map_eq_nil_iff]
  | cons l word ih =>
    have rest := ih (fun m member => agree m (List.mem_cons_of_mem _ member))
    cases text with
    | nil => simp
    | cons c text =>
      rw [List.forall₂_cons,List.map_cons,List.cons.injEq,rest,agree l List.mem_cons_self]

/-- A word is read off a text that starts with a spelling of it, and off no other. -/
theorem dropLiteral?_eq_some_iff (text rest : List Char) :
    dropLiteral? same word text = some rest ↔
      ∃ spelling, text = spelling ++ rest ∧ spelling.map spell = word := by
  constructor
  · intro read
    obtain ⟨spelling,split,all⟩ := exists_of_dropLiteral? read
    exact ⟨spelling,split,(forall₂_iff_map_eq agree spelling).mp all⟩
  · rintro ⟨spelling,rfl,equal⟩
    exact dropLiteral?_of_forall₂ ((forall₂_iff_map_eq agree spelling).mpr equal) rest

end Spelling

theorem isCaseOf_cases {letter c : Char} (same : isCaseOf letter c = true) :
    c = letter ∨ c = letter.toUpper ∨ c ∈ ['ſ','İ','ı','\u212a'] := by
  simp only [isCaseOf,Bool.or_eq_true,beq_iff_eq,or_assoc] at same
  rcases same with rfl | rfl | special
  · exact Or.inl rfl
  · exact Or.inr (Or.inl rfl)
  · refine Or.inr (Or.inr ?_)
    simp only [List.mem_cons,List.not_mem_nil,or_false]
    split at special <;> simp at special <;> tauto

/-- A word that ends at a character, read off a word that ends at the same one, is that word. -/
theorem forall₂_of_dropLiteral? (stop : Char) {same : Char → Char → Bool}
    {word text rest after : List Char} (alone : ∀ c, same stop c = true → c ∉ text)
    (proper : ∀ l ∈ word, same l stop = false)
    (read : dropLiteral? same (word ++ [stop]) (text ++ stop :: rest) = some after) :
    List.Forall₂ (fun l c => same l c = true) word text := by
  induction word generalizing text with
  | nil =>
    cases text with
    | nil => exact List.Forall₂.nil
    | cons c text =>
      rw [List.nil_append,List.cons_append,dropLiteral?] at read
      by_cases equal : same stop c = true
      · exact absurd List.mem_cons_self (alone c equal)
      · rw [if_neg equal] at read
        cases read
  | cons l word ih =>
    cases text with
    | nil =>
      rw [List.cons_append,List.nil_append,dropLiteral?,
        if_neg (by simp [proper l List.mem_cons_self])] at read
      cases read
    | cons c text =>
      rw [List.cons_append,List.cons_append,dropLiteral?] at read
      by_cases equal : same l c = true
      · rw [if_pos equal] at read
        refine List.Forall₂.cons equal (ih ?_ ?_ read)
        · exact fun d stops member => alone d stops (List.mem_cons_of_mem _ member)
        · exact fun m member => proper m (List.mem_cons_of_mem _ member)
      · rw [if_neg equal] at read
        cases read

theorem head?_dropWhile_false (test : Char → Bool) (text : List Char) :
    ∀ c ∈ (text.dropWhile test).head?, test c = false := by
  intro c head
  have stops := List.head?_dropWhile_not test text
  rw [Option.mem_def.mp head] at stops
  simpa using stops

theorem dropWhile_append_of_head {test : Char → Bool} {run rest : List Char}
    (all : ∀ c ∈ run, test c = true) (stops : ∀ c ∈ rest.head?, test c = false) :
    (run ++ rest).dropWhile test = rest := by
  rw [List.dropWhile_append_of_pos all]
  cases rest with
  | nil => rfl
  | cons c rest => simp [stops c (by simp)]

theorem run?_append {test : Char → Bool} {run rest : List Char} (nonempty : run ≠ [])
    (all : ∀ c ∈ run, test c = true) (stops : ∀ c ∈ rest.head?, test c = false) :
    run? test (run ++ rest) = some run := by
  have longest : (run ++ rest).takeWhile test = run := by
    rw [List.takeWhile_append_of_pos all]
    cases rest with
    | nil => simp
    | cons c rest => simp [stops c (by simp)]
  rw [run?,longest]
  cases run with
  | nil => exact absurd rfl nonempty
  | cons c run => rfl

theorem run?_eq_some {test : Char → Bool} {text run : List Char}
    (found : run? test text = some run) : run ≠ [] ∧ ∀ c ∈ run, test c = true := by
  rw [run?] at found
  split at found
  · cases found
  · next c rest longest =>
    cases found
    refine ⟨List.cons_ne_nil _ _,?_⟩
    intro d member
    rw [← longest] at member
    exact List.mem_takeWhile_imp member

theorem run?_split {test : Char → Bool} {text run : List Char}
    (found : run? test text = some run) :
    text = run ++ text.dropWhile test ∧ ∀ c ∈ (text.dropWhile test).head?, test c = false := by
  have longest : text.takeWhile test = run := by
    rw [run?] at found
    split at found
    · cases found
    · next longest =>
      cases found
      exact longest
  constructor
  · rw [← longest,List.takeWhile_append_dropWhile]
  · exact head?_dropWhile_false test text

theorem run?_eq_some_iff {test : Char → Bool} {text run : List Char} :
    run? test text = some run ↔ ∃ after, text = run ++ after ∧ run ≠ [] ∧
      (∀ c ∈ run, test c = true) ∧ ∀ c ∈ after.head?, test c = false := by
  constructor
  · intro found
    obtain ⟨nonempty,passes⟩ := run?_eq_some found
    obtain ⟨split,stops⟩ := run?_split found
    exact ⟨_,split,nonempty,passes,stops⟩
  · rintro ⟨after,rfl,nonempty,passes,stops⟩
    exact run?_append nonempty passes stops

section Leftmost
variable {α : Type} {read : List Char → Option α}

theorem firstAt_of_head {text : List Char} {answer : α} (head : read text = some answer) :
    firstAt read text = some answer := by
  cases text with
  | nil => exact head
  | cons c rest => simp [firstAt,head]

theorem firstAt_cons {c : Char} {rest : List Char} (head : read (c :: rest) = none) :
    firstAt read (c :: rest) = firstAt read rest := by
  rw [firstAt,head]

/-- The answer is that at the leftmost place with one. -/
theorem firstAt_eq_some_iff {text : List Char} {answer : α} :
    firstAt read text = some answer ↔ ∃ place, read (text.drop place) = some answer ∧
      ∀ earlier < place, read (text.drop earlier) = none := by
  induction text with
  | nil =>
    simp only [List.drop_nil,firstAt]
    constructor
    · exact fun head => ⟨0,head,fun earlier before => absurd before (Nat.not_lt_zero earlier)⟩
    · exact fun ⟨_,head,_⟩ => head
  | cons c rest ih =>
    cases head : read (c :: rest) with
    | some other =>
      rw [firstAt_of_head head]
      constructor
      · intro same
        exact ⟨0,head.trans same,fun earlier before => absurd before (Nat.not_lt_zero earlier)⟩
      · rintro ⟨place,answered,first⟩
        cases place with
        | zero => exact head.symm.trans answered
        | succ place =>
          have none := first 0 (Nat.succ_pos place)
          rw [List.drop_zero,head] at none
          cases none
    | none =>
      rw [firstAt_cons head,ih]
      constructor
      · rintro ⟨place,answered,first⟩
        refine ⟨place + 1,answered,fun earlier before => ?_⟩
        cases earlier with
        | zero => exact head
        | succ earlier => exact first earlier (Nat.lt_of_succ_lt_succ before)
      · rintro ⟨place,answered,first⟩
        cases place with
        | zero =>
          rw [List.drop_zero,head] at answered
          cases answered
        | succ place =>
          exact ⟨place,answered,fun earlier before => first (earlier + 1) (Nat.succ_lt_succ before)⟩

/-- A search fails just if the reader does at every place. -/
theorem firstAt_eq_none_iff {text : List Char} :
    firstAt read text = none ↔ ∀ place, read (text.drop place) = none := by
  induction text with
  | nil =>
    simp only [List.drop_nil,firstAt]
    exact ⟨fun none _ => none,fun none => none 0⟩
  | cons c rest ih =>
    cases head : read (c :: rest) with
    | some answer =>
      rw [firstAt_of_head head]
      constructor
      · intro none
        cases none
      · intro none
        exact head.symm.trans (none 0)
    | none =>
      rw [firstAt_cons head,ih]
      constructor
      · intro none place
        cases place with
        | zero => exact head
        | succ place => exact none place
      · exact fun none place => none (place + 1)

theorem firstAt_map {β : Type} (f : α → β) (text : List Char) :
    firstAt (fun rest => (read rest).map f) text = (firstAt read text).map f := by
  induction text with
  | nil => rfl
  | cons c rest ih =>
    cases head : read (c :: rest) with
    | some answer =>
      rw [firstAt_of_head head]
      exact firstAt_of_head (congrArg (Option.map f) head)
    | none => rw [firstAt_cons head,firstAt_cons (congrArg (Option.map f) head),ih]

theorem exists_of_firstAt {text : List Char} {answer : α}
    (found : firstAt read text = some answer) : ∃ rest, read rest = some answer := by
  obtain ⟨place,answered,_⟩ := firstAt_eq_some_iff.mp found
  exact ⟨_,answered⟩

def Marked (read : List Char → Option α) (offset : Nat) (mark : Char → Bool) : Prop :=
  ∀ text answer, read text = some answer → ∃ c, text[offset]? = some c ∧ mark c = true

theorem marked_of_literal {same : Char → Char → Bool} {literal : List Char}
    (begins : ∀ text answer, read text = some answer →
      ∃ rest, dropLiteral? same literal text = some rest)
    {offset : Nat} {letter : Char} (place : literal[offset]? = some letter) :
    Marked read offset (same letter) := by
  intro text answer answered
  obtain ⟨rest,found⟩ := begins text answer answered
  obtain ⟨matched,rfl,all⟩ := exists_of_dropLiteral? found
  obtain ⟨early,rfl⟩ := List.getElem?_eq_some_iff.mp place
  have early' : offset < matched.length := all.length_eq ▸ early
  refine ⟨matched[offset],?_,all.get early early'⟩
  rw [List.getElem?_append_left early',List.getElem?_eq_getElem early']

/-- A part of a text is passed over if no marked character is where an answer in it has one. -/
theorem firstAt_append {offset : Nat} {mark : Char → Bool} (marked : Marked read offset mark)
    (skipped rest : List Char) (unmarked : ∀ c ∈ skipped ++ rest.take offset, mark c = false) :
    firstAt read (skipped ++ rest) = firstAt read rest := by
  induction skipped with
  | nil => rfl
  | cons d skipped ih =>
    have head : read (d :: (skipped ++ rest)) = none := by
      cases answered : read (d :: (skipped ++ rest)) with
      | none => rfl
      | some answer =>
        obtain ⟨c,place,yes⟩ := marked _ _ answered
        have member : c ∈ d :: skipped ++ rest.take offset := by
          rw [← List.cons_append,List.getElem?_append] at place
          split at place
          · exact List.mem_append_left _ (List.mem_of_getElem? place)
          · next beyond =>
            have early : offset - (d :: skipped).length < offset := by
              simp only [List.length_cons] at beyond ⊢
              omega
            refine List.mem_append_right _ (List.mem_of_getElem? (i := offset -
              (d :: skipped).length) ?_)
            rw [List.getElem?_take_of_lt early]
            exact place
        rw [unmarked c member] at yes
        cases yes
    rw [List.cons_append,firstAt_cons head]
    exact ih (fun c member => unmarked c (List.mem_cons_of_mem _ member))

theorem firstAt_eq_none {offset : Nat} {mark : Char → Bool} (marked : Marked read offset mark)
    (text : List Char) (unmarked : ∀ c ∈ text, mark c = false) : firstAt read text = none := by
  have passed := firstAt_append marked text [] (by simpa using unmarked)
  rw [List.append_nil] at passed
  rw [passed,firstAt]
  cases answered : read [] with
  | none => rfl
  | some answer =>
    obtain ⟨c,place,_⟩ := marked _ _ answered
    cases place

end Leftmost

end AbapAtlas.Text

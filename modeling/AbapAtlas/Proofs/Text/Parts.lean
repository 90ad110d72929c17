import AbapAtlas.Text.Parts
import Mathlib.Data.List.DropRight

/-! Parts of a text: what trimming leaves of it, and the parts between its separators. A part that
does not start or end in what is trimmed away survives the trimming as a part. -/
namespace AbapAtlas.Text

theorem dropEnd_eq_rdropWhile (test : Char → Bool) (text : List Char) :
    dropEnd test text = text.rdropWhile test := rfl

theorem toList_trimBy (test : Char → Bool) (text : String) :
    (trimBy test text).toList = (text.toList.dropWhile test).rdropWhile test := by
  rw [trimBy,String.toList_ofList,dropEnd_eq_rdropWhile]

theorem head?_trimBy {test : Char → Bool} {text : String} {c : Char}
    (head : (trimBy test text).toList.head? = some c) : test c = false := by
  obtain ⟨rest,kept⟩ := List.head?_eq_some_iff.mp head
  have first : (text.toList.dropWhile test).head? = some c := by
    obtain ⟨dropped,whole⟩ := List.rdropWhile_prefix test (text.toList.dropWhile test)
    rw [← toList_trimBy,kept] at whole
    rw [← whole]
    rfl
  have := List.head?_dropWhile_not test text.toList
  rw [first] at this
  simpa using this

theorem exists_ends (test : Char → Bool) (text : String) :
    ∃ before after, text.toList = before ++ (trimBy test text).toList ++ after ∧
      (∀ c ∈ before, test c = true) ∧ ∀ c ∈ after, test c = true := by
  refine ⟨text.toList.takeWhile test,(text.toList.dropWhile test).rtakeWhile test,?_,?_,?_⟩
  · rw [toList_trimBy,List.append_assoc,List.rdropWhile_append_rtakeWhile,
      List.takeWhile_append_dropWhile]
  · exact fun c member => List.mem_takeWhile_imp member
  · exact fun c member => List.mem_rtakeWhile_imp member

theorem rdropWhile_append_of_all (test : Char → Bool) (text after : List Char)
    (all : ∀ c ∈ after, test c = true) :
    (text ++ after).rdropWhile test = text.rdropWhile test := by
  have reversed : ∀ c ∈ after.reverse, test c = true := fun c member =>
    all c (List.mem_reverse.mp member)
  simp only [List.rdropWhile,List.reverse_append,List.dropWhile_append_of_pos reversed]

theorem trimBy_around (test : Char → Bool) (before text after : List Char)
    (front : ∀ c ∈ before, test c = true) (back : ∀ c ∈ after, test c = true) :
    trimBy test (String.ofList (before ++ text ++ after)) = trimBy test (String.ofList text) := by
  rw [← String.toList_inj,toList_trimBy,toList_trimBy,String.toList_ofList,String.toList_ofList,
    List.append_assoc,List.dropWhile_append_of_pos front,List.dropWhile_append]
  split
  · rename_i none
    rw [List.isEmpty_iff] at none
    rw [none,List.dropWhile_eq_nil_iff.mpr back]
  · exact rdropWhile_append_of_all test _ after back

/-- What fails the test at both of its ends stays whole, and all before and after it is trimmed by
itself. -/
theorem trim_around (test : Char → Bool) (before kept after : List Char) (nonempty : kept ≠ [])
    (first : test (kept.head nonempty) = false) (last : test (kept.getLast nonempty) = false) :
    ((before ++ kept ++ after).dropWhile test).rdropWhile test =
      before.dropWhile test ++ kept ++ after.rdropWhile test := by
  have front : (kept ++ after).dropWhile test = kept ++ after := by
    obtain ⟨c,rest,rfl⟩ := List.exists_cons_of_ne_nil nonempty
    simp only [List.head_cons] at first
    simp [first]
  have back : ∀ front : List Char, (front ++ kept).rdropWhile test = front ++ kept := by
    intro front
    rw [List.rdropWhile_eq_self_iff]
    intro some
    rw [List.getLast_append_of_ne_nil _ nonempty,last]
    simp
  have cut : (before ++ kept ++ after).dropWhile test = before.dropWhile test ++ kept ++ after := by
    rw [List.append_assoc,List.dropWhile_append]
    split
    · rename_i none
      rw [List.isEmpty_iff] at none
      rw [none,front,List.nil_append]
    · rw [List.append_assoc]
  rw [cut]
  rw [List.rdropWhile,List.reverse_append,List.dropWhile_append]
  split
  · rename_i none
    have gone : after.rdropWhile test = [] := by
      rw [List.isEmpty_iff] at none
      rw [List.rdropWhile,none,List.reverse_nil]
    rw [gone,List.append_nil]
    exact back (before.dropWhile test)
  · simp [List.rdropWhile]

theorem cutAt_eq_splitOn (separator : Char) (text : List Char) :
    cutAt separator text = text.splitOn separator := by
  induction text with
  | nil => simp [cutAt]
  | cons c rest ih =>
    rw [cutAt,ih,List.splitOn_cons_eq_if_modifyHead]
    cases parts : rest.splitOn separator with
    | nil => exact absurd parts (List.splitOn_ne_nil separator rest)
    | cons part more => simp

theorem cutAt_of_notMem {separator : Char} {text : List Char} (absent : separator ∉ text) :
    cutAt separator text = [text] := by
  rw [cutAt_eq_splitOn]
  exact List.splitOn_eq_singleton absent

theorem cutAt_append_cons (separator : Char) (before after : List Char) :
    cutAt separator (before ++ separator :: after) =
      cutAt separator before ++ cutAt separator after := by
  simp only [cutAt_eq_splitOn]
  exact List.splitOn_append_cons_self before after

theorem cutAt_cases (separator : Char) (text : List Char) :
    (separator ∉ text ∧ cutAt separator text = [text]) ∨
      ∃ part rest, text = part ++ separator :: rest ∧ separator ∉ part ∧
        cutAt separator text = part :: cutAt separator rest := by
  by_cases member : separator ∈ text
  · obtain ⟨part,rest,rfl,absent⟩ := List.eq_append_cons_of_mem member
    refine Or.inr ⟨part,rest,rfl,absent,?_⟩
    rw [cutAt_append_cons,cutAt_of_notMem absent]
    rfl
  · exact Or.inl ⟨member,cutAt_of_notMem member⟩

def EndsPart (separator : Char) (before : List Char) : Prop :=
  before = [] ∨ ∃ more, before = more ++ [separator]

def StartsPart (separator : Char) (after : List Char) : Prop :=
  after = [] ∨ ∃ more, after = separator :: more

/-- A part is a stretch without separators that reaches from one of them, or an end of the text, to
the next. -/
theorem mem_cutAt_iff {separator : Char} {text part : List Char} :
    part ∈ cutAt separator text ↔ separator ∉ part ∧ ∃ before after,
      text = before ++ part ++ after ∧ EndsPart separator before ∧ StartsPart separator after := by
  constructor
  · intro member
    induction length : text.length using Nat.strong_induction_on generalizing text with
    | _ bound ih =>
      rcases cutAt_cases separator text with ⟨absent,whole⟩ | ⟨first,rest,rfl,absent,parts⟩
      · rw [whole,List.mem_singleton] at member
        subst member
        exact ⟨absent,[],[],by simp,Or.inl rfl,Or.inl rfl⟩
      · rw [parts] at member
        rcases List.mem_cons.mp member with rfl | later
        · exact ⟨absent,[],separator :: rest,by simp,Or.inl rfl,Or.inr ⟨rest,rfl⟩⟩
        · have shorter : rest.length < bound := by
            rw [← length,List.length_append,List.length_cons]
            omega
          obtain ⟨free,before,after,rfl,ends,starts⟩ := ih rest.length shorter later rfl
          refine ⟨free,first ++ separator :: before,after,by simp,?_,starts⟩
          rcases ends with rfl | ⟨more,rfl⟩
          · exact Or.inr ⟨first,rfl⟩
          · exact Or.inr ⟨first ++ separator :: more,by simp⟩
  · rintro ⟨absent,before,after,rfl,ends,starts⟩
    have alone : cutAt separator part = [part] := cutAt_of_notMem absent
    have tail : ∃ more, cutAt separator (part ++ after) = part :: more := by
      rcases starts with rfl | ⟨more,rfl⟩
      · exact ⟨[],by rw [List.append_nil,alone]⟩
      · exact ⟨cutAt separator more,by rw [cutAt_append_cons,alone]; rfl⟩
    obtain ⟨more,tail⟩ := tail
    rcases ends with rfl | ⟨front,rfl⟩
    · rw [List.nil_append,tail]
      exact List.mem_cons_self
    · have split : front ++ [separator] ++ part ++ after =
          front ++ separator :: (part ++ after) := by simp
      rw [split,cutAt_append_cons,tail]
      simp

/-- A text splits in one way into a front and a part without separators behind them. -/
theorem EndsPart.append_inj {separator : Char} {before before' part part' : List Char}
    (ends : EndsPart separator before) (ends' : EndsPart separator before')
    (absent : separator ∉ part) (absent' : separator ∉ part')
    (same : before ++ part = before' ++ part') : before = before' ∧ part = part' := by
  -- What one front has more than the other belongs to a part, so it cannot end in a separator.
  have none : ∀ {front extra rest : List Char}, EndsPart separator (front ++ extra) →
      separator ∉ extra ++ rest → extra = [] := by
    intro front extra rest closed free
    rcases List.eq_nil_or_concat' extra with rfl | ⟨more,c,rfl⟩
    · rfl
    · rcases closed with empty | ⟨others,whole⟩
      · simp at empty
      · rw [← List.append_assoc] at whole
        have last : c = separator := by simpa using congrArg List.getLast? whole
        exact absurd (by simp [last]) free
  rcases List.append_eq_append_iff.mp same with ⟨extra,rfl,rfl⟩ | ⟨extra,rfl,rfl⟩
  · rw [none ends' absent]
    exact ⟨(List.append_nil _).symm,rfl⟩
  · rw [none ends absent']
    exact ⟨List.append_nil _,rfl⟩

theorem append_cons_inj {separator : Char} {part part' after after' : List Char}
    (absent : separator ∉ part) (absent' : separator ∉ part')
    (same : part ++ separator :: after = part' ++ separator :: after') :
    part = part' ∧ after = after' := by
  have parts := congrArg (cutAt separator) same
  rw [cutAt_append_cons,cutAt_append_cons,cutAt_of_notMem absent,cutAt_of_notMem absent'] at parts
  have first : part = part' := (List.cons.inj parts).1
  rw [first,List.append_cancel_left_eq] at same
  exact ⟨first,(List.cons.inj same).2⟩

theorem EndsPart.dropWhile {separator : Char} {before : List Char} (test : Char → Bool)
    (ends : EndsPart separator before) : EndsPart separator (before.dropWhile test) := by
  rcases ends with rfl | ⟨more,rfl⟩
  · exact Or.inl rfl
  · rw [List.dropWhile_append]
    split
    · by_cases dropped : test separator = true
      · exact Or.inl (by simp [dropped])
      · exact Or.inr ⟨[],by simp [dropped]⟩
    · exact Or.inr ⟨more.dropWhile test,rfl⟩

theorem StartsPart.rdropWhile {separator : Char} {after : List Char} (test : Char → Bool)
    (starts : StartsPart separator after) : StartsPart separator (after.rdropWhile test) := by
  have mirrored : EndsPart separator after.reverse := by
    rcases starts with rfl | ⟨more,rfl⟩
    · exact Or.inl rfl
    · exact Or.inr ⟨more.reverse,by simp⟩
  rcases mirrored.dropWhile test with none | ⟨more,some⟩
  · exact Or.inl (by rw [List.rdropWhile,none,List.reverse_nil])
  · exact Or.inr ⟨more.reverse,by rw [List.rdropWhile,some,List.reverse_append]; rfl⟩

/-- A part that neither starts nor ends in what is trimmed away stays a part. -/
theorem mem_cutAt_trimBy {test : Char → Bool} {separator : Char} {text : String}
    {before core after part : List Char} (split : text.toList = before ++ core ++ after)
    (front : ∀ c ∈ before, test c = true) (back : ∀ c ∈ after, test c = true)
    (member : part ∈ cutAt separator core) (nonempty : part ≠ [])
    (first : test (part.head nonempty) = false) (last : test (part.getLast nonempty) = false) :
    part ∈ cutAt separator (trimBy test text).toList := by
  obtain ⟨absent,left,right,rfl,ends,starts⟩ := mem_cutAt_iff.mp member
  have regrouped : text.toList = before ++ left ++ part ++ (right ++ after) := by
    rw [split]
    simp only [List.append_assoc]
  have trimmed := trim_around test (before ++ left) part (right ++ after) nonempty first last
  rw [List.dropWhile_append_of_pos front,rdropWhile_append_of_all test right after back] at trimmed
  rw [toList_trimBy,regrouped,trimmed]
  exact mem_cutAt_iff.mpr ⟨absent,_,_,rfl,ends.dropWhile test,starts.rdropWhile test⟩

/-- Trimming separators off a text adds no part to it. -/
theorem mem_cutAt_of_trimmed {separator : Char} {text : String} {part : List Char}
    (member : part ∈ cutAt separator (trimBy (· == separator) text).toList) :
    part ∈ cutAt separator text.toList := by
  obtain ⟨before,after,split,front,back⟩ := exists_ends (· == separator) text
  obtain ⟨absent,left,right,inner,ends,starts⟩ := mem_cutAt_iff.mp member
  refine mem_cutAt_iff.mpr ⟨absent,before ++ left,right ++ after,?_,?_,?_⟩
  · rw [split,inner]
    simp only [List.append_assoc]
  · rcases ends with rfl | ⟨more,rfl⟩
    · rw [List.append_nil]
      rcases List.eq_nil_or_concat' before with rfl | ⟨more,c,rfl⟩
      · exact Or.inl rfl
      · have same := front c (by simp)
        rw [beq_iff_eq] at same
        exact Or.inr ⟨more,by rw [same]⟩
    · exact Or.inr ⟨before ++ more,by simp only [List.append_assoc]⟩
  · rcases starts with rfl | ⟨more,rfl⟩
    · rw [List.nil_append]
      cases after with
      | nil => exact Or.inl rfl
      | cons c more =>
        have same := back c (by simp)
        rw [beq_iff_eq] at same
        exact Or.inr ⟨more,by rw [same]⟩
    · exact Or.inr ⟨more ++ after,rfl⟩

end AbapAtlas.Text

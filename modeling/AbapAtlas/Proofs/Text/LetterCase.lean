import AbapAtlas.Text.Case.Lower
import AbapAtlas.Text.Word
import Mathlib.Data.Bool.AllAny

/-! Lower case. Lowering twice is lowering once, and texts that differ in the case of Latin letters
alone are lowered alike. -/
namespace AbapAtlas.Text

abbrev LetterRun := Nat × Nat × Nat × Nat

def apart (a b : LetterRun) : Bool :=
  -- That no image of the first run is moved by the second: their ranges are apart, or the second
  -- moves every other letter and the images of the first lie in between.
  Nat.blt b.2.1 a.2.2.2 || Nat.blt (a.2.2.2 + (a.2.1 - a.1)) b.1 ||
    (b.2.2.1 == 2 && (a.2.2.1 == 2 || a.1 == a.2.1) && (a.2.2.2 + b.1) % 2 == 1)

def settledRuns (runs : List LetterRun) : Bool :=
  runs.all fun run =>
    Nat.ble 97 run.2.2.2 &&
    (Nat.blt (run.2.2.2 + (run.2.1 - run.1)) 0x130 || Nat.blt 0x130 run.2.2.2) &&
    (Nat.blt (run.2.2.2 + (run.2.1 - run.1)) 0xD800 ||
      (Nat.blt 0xDFFF run.2.2.2 && Nat.blt (run.2.2.2 + (run.2.1 - run.1)) 0x110000)) &&
    runs.all (apart run)

set_option maxRecDepth 10000 in
theorem lowerRuns_settled : settledRuns lowerRuns = true := by decide +kernel

theorem shifted_cases (runs : List LetterRun) (c : Nat) :
    shifted runs c = c ∨ ∃ first last step image, (first,last,step,image) ∈ runs ∧
      first ≤ c ∧ c ≤ last ∧ (c - first) % step = 0 ∧ shifted runs c = image + (c - first) := by
  induction runs with
  | nil => exact Or.inl rfl
  | cons run rest ih =>
    obtain ⟨first,last,step,image⟩ := run
    rw [shifted]
    by_cases below : c < first
    · exact Or.inl (if_pos below)
    · rw [if_neg below]
      by_cases within : c ≤ last
      · rw [if_pos within]
        by_cases moves : (c - first) % step = 0
        · rw [if_pos moves]
          exact Or.inr ⟨first,last,step,image,List.mem_cons_self,by omega,within,moves,rfl⟩
        · exact Or.inl (if_neg moves)
      · rw [if_neg within]
        rcases ih with same | ⟨f,l,s,i,member,rest⟩
        · exact Or.inl same
        · exact Or.inr ⟨f,l,s,i,List.mem_cons_of_mem _ member,rest⟩

theorem shifted_image {c : Nat} (moved : shifted lowerRuns c ≠ c) :
    97 ≤ shifted lowerRuns c ∧ shifted lowerRuns c ≠ 0x130 ∧ (shifted lowerRuns c).isValidChar ∧
      shifted lowerRuns (shifted lowerRuns c) = shifted lowerRuns c := by
  obtain same | ⟨first,last,step,image,member,low,high,moves,equal⟩ := shifted_cases lowerRuns c
  · exact absurd same moved
  have settled := List.all_eq_true.mp lowerRuns_settled _ member
  simp only [Bool.and_eq_true,Bool.or_eq_true,Nat.ble_eq,Nat.blt_eq] at settled
  obtain ⟨⟨⟨letter,undotted⟩,valid⟩,alone⟩ := settled
  rw [equal]
  refine ⟨by omega,by omega,by unfold Nat.isValidChar; omega,?_⟩
  obtain same | ⟨first',last',step',image',member',low',high',moves',-⟩ :=
    shifted_cases lowerRuns (image + (c - first))
  · exact same
  -- A run that moved the image again would not lie apart from the first one.
  · have apart := List.all_eq_true.mp alone _ member'
    simp only [AbapAtlas.Text.apart,Bool.and_eq_true,Bool.or_eq_true,Nat.blt_eq,beq_iff_eq] at apart
    rcases apart with (before | after) | ⟨⟨rfl,rfl | rfl⟩,odd⟩ <;> omega

def IsLower (c : Char) : Prop := c ≠ 'Σ' ∧ lowerChar c = [c]

instance (c : Char) : Decidable (IsLower c) := by unfold IsLower; infer_instance

theorem isLower_of_early {c : Char} (early : c.toNat < 128) (small : c.isUpper = false) :
    IsLower c := by
  have all : ∀ n, n < 128 → (Char.ofNat n).isUpper = false → IsLower (Char.ofNat n) := by
    decide +kernel
  have same : Char.ofNat c.toNat = c := Char.ofNat_toNat c
  rw [← same] at small ⊢
  exact all c.toNat early small

theorem bounds_of_isUpper {c : Char} (capital : c.isUpper = true) :
    65 ≤ c.toNat ∧ c.toNat ≤ 90 := by
  delta Char.isUpper at capital
  simpa [Char.le_def,UInt32.le_iff_toNat_le] using capital

theorem isLower_of_plain {c : Char} (plain : c.isLower = true ∨ c.isDigit = true ∨ c = '_') :
    IsLower c := by
  rcases plain with letter | digit | rfl
  · have bounds : 97 ≤ c.toNat ∧ c.toNat ≤ 122 := by
      delta Char.isLower at letter
      simpa [Char.le_def,UInt32.le_iff_toNat_le] using letter
    refine isLower_of_early (by omega) (Bool.eq_false_iff.mpr ?_)
    intro capital
    have bounds' := bounds_of_isUpper capital
    omega
  · have bounds : 48 ≤ c.toNat ∧ c.toNat ≤ 57 := by
      simpa [Char.isDigit,Char.le_def,UInt32.le_iff_toNat_le] using digit
    refine isLower_of_early (by omega) (Bool.eq_false_iff.mpr ?_)
    intro capital
    have bounds' := bounds_of_isUpper capital
    omega
  · decide

theorem toNat_ofNat {n : Nat} (valid : n.isValidChar) : (Char.ofNat n).toNat = n := by
  rw [Char.ofNat,dif_pos valid]
  rfl

theorem isLower_of_shifted {n : Nat} (valid : n.isValidChar) (undotted : n ≠ 0x130)
    (settled : shifted lowerRuns n = n) : IsLower (Char.ofNat n) := by
  have value := toNat_ofNat valid
  constructor
  · intro sigma
    rw [sigma] at value
    subst value
    exact absurd settled (by decide)
  · rw [lowerChar,value,if_neg undotted,settled]

theorem isLower_of_mem_lowerChar {c d : Char} (capital : c ≠ 'Σ') (member : d ∈ lowerChar c) :
    IsLower d := by
  rw [lowerChar] at member
  by_cases dotted : c.toNat = 0x130
  · have small : ∀ d ∈ ['i','\u0307'], IsLower d := List.all_iff_forall_prop.mp (by decide)
    rw [if_pos dotted] at member
    exact small d member
  · rw [if_neg dotted,List.mem_singleton] at member
    subst member
    by_cases moved : shifted lowerRuns c.toNat = c.toNat
    · rw [moved,Char.ofNat_toNat]
      refine ⟨capital,?_⟩
      rw [lowerChar,if_neg dotted,moved,Char.ofNat_toNat]
    · obtain ⟨-,undotted,valid,settled⟩ := shifted_image moved
      exact isLower_of_shifted valid undotted settled

theorem isLower_of_mem_lowerAfter {cased : Bool} {text : List Char} {d : Char}
    (member : d ∈ lowerAfter cased text) : IsLower d := by
  induction text generalizing cased with
  | nil => cases member
  | cons c rest ih =>
    rw [lowerAfter,List.mem_append] at member
    rcases member with image | later
    · by_cases sigma : c = 'Σ'
      · rw [if_pos sigma,List.mem_singleton] at image
        rw [image]
        split <;> decide
      · rw [if_neg sigma] at image
        exact isLower_of_mem_lowerChar sigma image
    · exact ih later

theorem lowerAfter_of_isLower (cased : Bool) (text : List Char) (all : ∀ c ∈ text, IsLower c) :
    lowerAfter cased text = text := by
  induction text generalizing cased with
  | nil => rfl
  | cons c rest ih =>
    have head := all c List.mem_cons_self
    have tail := ih (if isCaseIgnorable c then cased else isCased c)
      fun d member => all d (List.mem_cons_of_mem _ member)
    simp only [lowerAfter,head.1,if_false,head.2,tail,List.cons_append,List.nil_append]

/-- A character that lower case leaves as it is does not get lost. -/
theorem mem_lowerAfter_of_isLower {cased : Bool} {text : List Char} {d : Char} (small : IsLower d)
    (member : d ∈ text) : d ∈ lowerAfter cased text := by
  induction text generalizing cased with
  | nil => cases member
  | cons c rest ih =>
    rw [lowerAfter,List.mem_append]
    rcases List.mem_cons.mp member with rfl | later
    · left
      rw [if_neg small.1,small.2]
      exact List.mem_singleton_self _
    · exact Or.inr (ih later)

/-- What stands in lower case at the end of a text is left as it is. -/
theorem lowerAfter_append (cased : Bool) (text suffix : List Char)
    (all : ∀ c ∈ suffix, IsLower c) :
    ∃ front, lowerAfter cased (text ++ suffix) = front ++ suffix := by
  induction text generalizing cased with
  | nil => exact ⟨[],lowerAfter_of_isLower cased suffix all⟩
  | cons c rest ih =>
    obtain ⟨front,tail⟩ := ih (if isCaseIgnorable c then cased else isCased c)
    rw [List.cons_append,lowerAfter,tail]
    exact ⟨_,(List.append_assoc _ _ _).symm⟩

theorem toList_lower (text : String) : (lower text).toList = lowerAfter false text.toList :=
  String.toList_ofList

theorem lower_lower (text : String) : lower (lower text) = lower text := by
  rw [lower,toList_lower,lowerAfter_of_isLower false _ fun c => isLower_of_mem_lowerAfter]
  rfl

theorem lowerAfter_ne_nil (cased : Bool) {text : List Char} (nonempty : text ≠ []) :
    lowerAfter cased text ≠ [] := by
  obtain ⟨c,rest,rfl⟩ := List.exists_cons_of_ne_nil nonempty
  intro empty
  rw [lowerAfter,List.append_eq_nil_iff] at empty
  have image := empty.1
  split at image
  · cases image
  · rw [lowerChar] at image
    split at image <;> cases image

theorem lower_ne_empty {text : String} (nonempty : text ≠ "") : lower text ≠ "" := by
  intro empty
  have letters := congrArg String.toList empty
  rw [toList_lower] at letters
  exact lowerAfter_ne_nil false (mt String.toList_eq_nil_iff.mp nonempty) letters

/-- Characters before the small letters are in a text in lower case only if they were there before.
-/
theorem mem_of_mem_lowerAfter {cased : Bool} {text : List Char} {d : Char} (early : d.toNat < 97)
    (member : d ∈ lowerAfter cased text) : d ∈ text := by
  induction text generalizing cased with
  | nil => cases member
  | cons c rest ih =>
    rw [lowerAfter,List.mem_append] at member
    rcases member with image | later
    · by_cases sigma : c = 'Σ'
      · rw [if_pos sigma,List.mem_singleton] at image
        have late : 97 ≤ d.toNat := by
          rw [image]
          split <;> decide
        omega
      · rw [if_neg sigma,lowerChar] at image
        by_cases dotted : c.toNat = 0x130
        · have late : ∀ d ∈ ['i','\u0307'], 97 ≤ d.toNat :=
            List.all_iff_forall_prop.mp (by decide)
          rw [if_pos dotted] at image
          have := late d image
          omega
        · rw [if_neg dotted,List.mem_singleton] at image
          by_cases moved : shifted lowerRuns c.toNat = c.toNat
          · rw [image,moved,Char.ofNat_toNat]
            exact List.mem_cons_self
          · obtain ⟨letter,-,valid,-⟩ := shifted_image moved
            rw [image,toNat_ofNat valid] at early
            omega
    · exact List.mem_cons_of_mem _ (ih later)

def capitals : List Char := "ABCDEFGHIJKLMNOPQRSTUVWXYZ".toList

theorem toLower_cases (c : Char) : c.toLower = c ∨ c ∈ capitals := by
  by_cases capital : 65 ≤ c.toNat ∧ c.toNat ≤ 90
  · have all : ∀ n, n < 26 → Char.ofNat (65 + n) ∈ capitals := by decide
    have member := all (c.toNat - 65) (by omega)
    rw [Nat.add_sub_cancel' capital.1,Char.ofNat_toNat] at member
    exact Or.inr member
  · refine Or.inl ?_
    delta Char.toLower
    split
    · rename_i range
      exact absurd ⟨UInt32.le_iff_toNat_le.mp range.1,UInt32.le_iff_toNat_le.mp range.2⟩ capital
    · rfl

/-- What a property has to say of a letter it says of its small form, if it does so of all capitals. -/
theorem eq_toLower {α : Type} (f : Char → α) (all : ∀ c ∈ capitals, f c = f c.toLower) (c : Char) :
    f c = f c.toLower := by
  rcases toLower_cases c with same | capital
  · rw [same]
  · exact all c capital

def SameLetters (a b : List Char) : Prop := a.map Char.toLower = b.map Char.toLower

instance (a b : List Char) : Decidable (SameLetters a b) := by unfold SameLetters; infer_instance

theorem isCased_toLower (c : Char) : isCased c = isCased c.toLower :=
  eq_toLower _ (List.all_iff_forall_prop.mp (by decide)) c

theorem isCaseIgnorable_toLower (c : Char) : isCaseIgnorable c = isCaseIgnorable c.toLower :=
  eq_toLower _ (List.all_iff_forall_prop.mp (by decide)) c

theorem lowerChar_toLower (c : Char) : lowerChar c = lowerChar c.toLower :=
  eq_toLower _ (List.all_iff_forall_prop.mp (by decide)) c

theorem isNameChar_toLower (c : Char) : isNameChar c = isNameChar c.toLower :=
  eq_toLower _ (List.all_iff_forall_prop.mp (by decide)) c

theorem isSigma_toLower (c : Char) : decide (c = 'Σ') = decide (c.toLower = 'Σ') :=
  eq_toLower (fun c => decide (c = 'Σ')) (List.all_iff_forall_prop.mp (by decide)) c

theorem SameLetters.ne_nil {a b : List Char} (same : SameLetters a b) (nonempty : b ≠ []) :
    a ≠ [] := by
  rintro rfl
  exact nonempty (List.map_eq_nil_iff.mp same.symm)

theorem sameLetters_append_iff {front front' back back' : List Char}
    (same : SameLetters front front') :
    SameLetters (front ++ back) (front' ++ back') ↔ SameLetters back back' := by
  unfold SameLetters at same ⊢
  rw [List.map_append,List.map_append,same,List.append_cancel_left_eq]

/-- A test that does not tell letters from their small forms passes texts that differ in them alike. -/
theorem SameLetters.all {a b : List Char} {test : Char → Bool} (same : SameLetters a b)
    (blind : ∀ c, test c = test c.toLower) (passed : ∀ c ∈ b, test c = true) :
    ∀ c ∈ a, test c = true := by
  intro c member
  have lowered : c.toLower ∈ b.map Char.toLower := same ▸ List.mem_map_of_mem member
  obtain ⟨d,member',equal⟩ := List.mem_map.mp lowered
  rw [blind,← equal,← blind]
  exact passed d member'

theorem SameLetters.isNameChar {a b : List Char} (same : SameLetters a b)
    (proper : ∀ c ∈ b, isNameChar c = true) : ∀ c ∈ a, isNameChar c = true :=
  same.all isNameChar_toLower proper

theorem casedNext_map_toLower (text : List Char) :
    casedNext (text.map Char.toLower) = casedNext text := by
  induction text with
  | nil => rfl
  | cons c rest ih =>
    rw [List.map_cons,casedNext,casedNext,ih,← isCaseIgnorable_toLower,← isCased_toLower]

theorem lowerAfter_map_toLower (cased : Bool) (text : List Char) :
    lowerAfter cased (text.map Char.toLower) = lowerAfter cased text := by
  induction text generalizing cased with
  | nil => rfl
  | cons c rest ih =>
    have sigma : (c.toLower = 'Σ') ↔ c = 'Σ' := by
      rw [← decide_eq_decide]
      exact (isSigma_toLower c).symm
    simp only [List.map_cons,lowerAfter,ih,casedNext_map_toLower,sigma,← lowerChar_toLower,
      ← isCaseIgnorable_toLower,← isCased_toLower]

theorem lower_eq_of_sameLetters {a b : String} (same : SameLetters a.toList b.toList) :
    lower a = lower b := by
  rw [lower,lower,← lowerAfter_map_toLower,same,lowerAfter_map_toLower]

end AbapAtlas.Text

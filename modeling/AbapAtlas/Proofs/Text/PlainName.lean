import AbapAtlas.Proofs.Text.LetterCase
import AbapAtlas.Text.Case.Upper
import Mathlib.Data.List.Basic

/-! Names of Latin letters, digits and underscores. Their letters change case one by one, so names
that are lowered alike differ in the case of letters alone. -/
namespace AbapAtlas.Text

def isPlain (c : Char) : Bool := c.isAlphanum || c == '_'

structure PlainName (name : String) : Prop where
  nonempty : name ≠ ""
  plain : ∀ c ∈ name.toList, isPlain c = true

instance (name : String) : Decidable (PlainName name) :=
  decidable_of_iff (name ≠ "" ∧ name.toList.all isPlain = true)
    ⟨fun ⟨nonempty,plain⟩ => ⟨nonempty,List.all_eq_true.mp plain⟩,
      fun ⟨nonempty,plain⟩ => ⟨nonempty,List.all_eq_true.mpr plain⟩⟩

theorem notMem_of_isPlain {c : Char} {text : List Char} (special : isPlain c = false)
    (plain : ∀ d ∈ text, isPlain d = true) : c ∉ text := by
  intro member
  rw [plain c member] at special
  cases special

theorem toNat_lt_of_isPlain {c : Char} (plain : isPlain c = true) : c.toNat < 128 := by
  delta isPlain Char.isAlphanum Char.isAlpha at plain
  simp only [Bool.or_eq_true,beq_iff_eq] at plain
  rcases plain with ((capital | small) | digit) | rfl
  · have bounds := bounds_of_isUpper capital
    omega
  · delta Char.isLower at small
    have bounds : 97 ≤ c.toNat ∧ c.toNat ≤ 122 := by
      simpa [Char.le_def,UInt32.le_iff_toNat_le] using small
    omega
  · have bounds : 48 ≤ c.toNat ∧ c.toNat ≤ 57 := by
      simpa [Char.isDigit,Char.le_def,UInt32.le_iff_toNat_le] using digit
    omega
  · decide

/-- What the letter case of a plain character does, checked character by character. -/
theorem case_of_isPlain {c : Char} (plain : isPlain c = true) :
    (isPlain c.toLower = true ∧ IsLower c.toLower) ∧ isPlain c.toUpper = true ∧
      upperChar c = [c.toUpper] ∧ c.toUpper.toLower = c.toLower ∧
      c.toLower.toUpper = c.toUpper := by
  have early : ∀ n, n < 128 → isPlain (Char.ofNat n) = true →
      (isPlain (Char.ofNat n).toLower = true ∧ IsLower (Char.ofNat n).toLower) ∧
        isPlain (Char.ofNat n).toUpper = true ∧
        upperChar (Char.ofNat n) = [(Char.ofNat n).toUpper] ∧
        (Char.ofNat n).toUpper.toLower = (Char.ofNat n).toLower ∧
        (Char.ofNat n).toLower.toUpper = (Char.ofNat n).toUpper := by
    decide +kernel
  have same : Char.ofNat c.toNat = c := Char.ofNat_toNat c
  have bound := toNat_lt_of_isPlain plain
  rw [← same] at plain ⊢
  exact early c.toNat bound plain

theorem lowerAfter_of_isPlain (cased : Bool) {text : List Char}
    (plain : ∀ c ∈ text, isPlain c = true) : lowerAfter cased text = text.map Char.toLower := by
  rw [← lowerAfter_map_toLower]
  refine lowerAfter_of_isLower cased _ fun c member => ?_
  obtain ⟨d,inside,rfl⟩ := List.mem_map.mp member
  exact (case_of_isPlain (plain d inside)).1.2

section
variable {name : String} (plain : ∀ c ∈ name.toList, isPlain c = true)
include plain

theorem toList_lower_of_isPlain : (lower name).toList = name.toList.map Char.toLower := by
  rw [toList_lower,lowerAfter_of_isPlain false plain]

theorem toList_upper_of_isPlain : (upper name).toList = name.toList.map Char.toUpper := by
  have one : ∀ c ∈ name.toList, upperChar c = (pure ∘ Char.toUpper) c := fun c member =>
    (case_of_isPlain (plain c member)).2.2.1
  rw [upper,String.toList_ofList,List.flatMap_congr one,List.flatMap_pure_eq_map]

theorem isPlain_of_mem_lower : ∀ c ∈ (lower name).toList, isPlain c = true := by
  rw [toList_lower_of_isPlain plain]
  intro c member
  obtain ⟨d,inside,rfl⟩ := List.mem_map.mp member
  exact (case_of_isPlain (plain d inside)).1.1

theorem isPlain_of_mem_upper : ∀ c ∈ (upper name).toList, isPlain c = true := by
  rw [toList_upper_of_isPlain plain]
  intro c member
  obtain ⟨d,inside,rfl⟩ := List.mem_map.mp member
  exact (case_of_isPlain (plain d inside)).2.1

theorem lower_upper : lower (upper name) = lower name := by
  rw [← String.toList_inj,toList_lower_of_isPlain (isPlain_of_mem_upper plain),
    toList_upper_of_isPlain plain,toList_lower_of_isPlain plain,List.map_map]
  exact List.map_congr_left fun c member => (case_of_isPlain (plain c member)).2.2.2.1

theorem upper_lower : upper (lower name) = upper name := by
  rw [← String.toList_inj,toList_upper_of_isPlain (isPlain_of_mem_lower plain),
    toList_lower_of_isPlain plain,toList_upper_of_isPlain plain,List.map_map]
  exact List.map_congr_left fun c member => (case_of_isPlain (plain c member)).2.2.2.2

/-- Plain texts are lowered alike if and only if they differ at most in the case of letters. -/
theorem lower_eq_iff {other : String} (plain' : ∀ c ∈ other.toList, isPlain c = true) :
    lower name = lower other ↔ SameLetters name.toList other.toList := by
  refine ⟨fun same => ?_,lower_eq_of_sameLetters⟩
  have letters := congrArg String.toList same
  rw [toList_lower_of_isPlain plain,toList_lower_of_isPlain plain'] at letters
  exact letters

end

end AbapAtlas.Text

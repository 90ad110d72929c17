import AbapAtlas.Text.Numeral
import Mathlib.Algebra.Group.Nat.Defs
import Mathlib.Data.List.Induction
import Mathlib.Data.Nat.Digits.Defs

/-! Numerals that are written out are read back. -/
namespace AbapAtlas.Text

theorem digitValue?_of_isDigit {c : Char} (digit : c.isDigit = true) :
    digitValue? c = some (c.toNat - 48) := by
  have bounds : 48 ≤ c.toNat ∧ c.toNat ≤ 57 := by
    simpa [Char.isDigit,Char.le_def,UInt32.le_iff_toNat_le] using digit
  have first : rangeOf? digitRanges c.toNat = some (0x30,0x39) := by
    rw [digitRanges,rangeOf?,if_neg (by omega),if_pos (by omega)]
  rw [digitValue?,first]
  simp only [Option.map_some,Option.some.injEq]
  omega

theorem isDigit_of_isDigit {c : Char} (digit : c.isDigit = true) : isDigit c = true := by
  rw [isDigit,digitValue?_of_isDigit digit]
  rfl

theorem ofDigits_filterMap (value : Nat) (digits : List Char)
    (all : ∀ c ∈ digits, c.isDigit = true) :
    (digits.filterMap digitValue?).foldl (fun value digit => 10 * value + digit) value =
      Nat.ofDigitChars 10 digits value := by
  induction digits generalizing value with
  | nil => rfl
  | cons c digits ih =>
    rw [List.filterMap_cons,digitValue?_of_isDigit (all c List.mem_cons_self),
      Nat.ofDigitChars_cons]
    exact ih _ (fun d member => all d (List.mem_cons_of_mem _ member))

theorem length_filterMap_digitValue? {run : List Char} (digits : ∀ c ∈ run, isDigit c = true) :
    (run.filterMap digitValue?).length = run.length :=
  List.filterMap_length_eq_length.mpr digits

theorem isDigit_of_mem_toString {n : Nat} {c : Char} (member : c ∈ (toString n).toList) :
    c.isDigit = true := by
  rw [Nat.toString_eq_repr,Nat.toList_repr] at member
  exact Nat.isDigit_of_mem_toDigits (by omega) (by omega) member

theorem notMem_toString {c : Char} (other : c.isDigit = false) (n : Nat) :
    c ∉ (toString n).toList := by
  intro member
  rw [isDigit_of_mem_toString member] at other
  cases other

theorem toString_ne_nil (n : Nat) : (toString n).toList ≠ [] := by
  rw [Nat.toString_eq_repr,Nat.toList_repr]
  exact Nat.toDigits_ne_nil

theorem ofDigitChars_toString (n : Nat) : Nat.ofDigitChars 10 (toString n).toList 0 = n := by
  rw [Nat.toString_eq_repr,Nat.toList_repr,Nat.ofDigitChars_ten_toDigits]

theorem toString_injective {m n : Nat} (same : toString m = toString n) : m = n := by
  rw [← ofDigitChars_toString m,same,ofDigitChars_toString]

theorem readDigits_toString {n : Nat} (short : n < 10 ^ digitLimit) :
    readDigits ((toString n).toList.filterMap digitValue?) = .ok n := by
  have length : ((toString n).toList.filterMap digitValue?).length ≤ digitLimit := by
    refine Nat.le_trans (List.length_filterMap_le _ _) ?_
    rw [Nat.toString_eq_repr,Nat.toList_repr]
    exact (Nat.length_toDigits_le_iff (by omega) (by decide)).mpr short
  rw [readDigits,if_pos length,ofDigits,
    ofDigits_filterMap 0 _ (fun _ => isDigit_of_mem_toString),ofDigitChars_toString]

theorem digitValue?_lt {c : Char} {digit : Nat} (value : digitValue? c = some digit) :
    digit < 10 := by
  obtain ⟨range,_,rfl⟩ := Option.map_eq_some_iff.mp value
  exact Nat.mod_lt _ (by omega)

theorem ofDigits_append_singleton (digits : List Nat) (digit : Nat) :
    ofDigits (digits ++ [digit]) = 10 * ofDigits digits + digit := by
  rw [ofDigits,List.foldl_append]
  rfl

/-- The last digit counts once, and each one before it ten times as much as the next. -/
theorem ofDigits_eq_reverse (digits : List Nat) :
    ofDigits digits = Nat.ofDigits 10 digits.reverse := by
  induction digits using List.reverseRecOn with
  | nil => rfl
  | append_singleton digits digit ih =>
    rw [ofDigits_append_singleton,ih,List.reverse_append,List.reverse_singleton,
      List.singleton_append,Nat.ofDigits_cons,Nat.add_comm]

theorem ofDigits_lt {digits : List Nat} (decimal : ∀ digit ∈ digits, digit < 10) :
    ofDigits digits < 10 ^ digits.length := by
  induction digits using List.reverseRecOn with
  | nil => decide
  | append_singleton digits digit ih =>
    have before := ih fun other member => decimal other (List.mem_append_left _ member)
    have last := decimal digit (List.mem_append_right _ List.mem_cons_self)
    rw [ofDigits_append_singleton,List.length_append,List.length_singleton,Nat.pow_succ]
    omega

theorem readDigits_lt {digits : List Nat} {n : Nat} (decimal : ∀ digit ∈ digits, digit < 10)
    (read : readDigits digits = .ok n) : n < 10 ^ digitLimit := by
  rw [readDigits] at read
  split at read
  · next short =>
    cases read
    exact Nat.lt_of_lt_of_le (ofDigits_lt decimal) (Nat.pow_le_pow_right (by omega) short)
  · cases read

theorem writeInt_eq {n : Int} (short : n.natAbs < 10 ^ digitLimit) :
    writeInt n = .ok (toString n) := by
  rw [writeInt,Nat.pow_eq,if_pos short]

theorem lt_of_writeInt {n : Int} {text : String} (written : writeInt n = .ok text) :
    n.natAbs < 10 ^ digitLimit := by
  by_cases short : n.natAbs < 10 ^ digitLimit
  · exact short
  · simp only [writeInt,Nat.pow_eq,short,if_false] at written
    cases written

end AbapAtlas.Text

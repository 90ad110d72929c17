import AbapAtlas.Document.Json.Printer
import AbapAtlas.Document.Json.Token
import AbapAtlas.Proofs.Text.Numeral
import Mathlib.Data.List.Basic
import Mathlib.Data.List.TakeWhile

/-! The tokens of printed values. A quoted text is read back character by character whatever is in
it, a word ends where a separator follows it, and the blanks between tokens say nothing. -/
namespace AbapAtlas.Json
open Text Document
variable {lexing next : Lexing} {c : Char} {read rest word : List Char} {more tokens : List Token}
  {value : Datum}

def endsWord (c : Char) : Bool := (punctuation? c).isSome || isSpace c || c == '"'

def Parts (rest : List Char) : Prop := ∀ c ∈ rest.head?, endsWord c = true

theorem tokensFrom_cons (step : lexing.read c = some (tokens,next))
    (later : tokensFrom next rest = some more) :
    tokensFrom lexing (c :: rest) = some (tokens ++ more) := by
  simp only [tokensFrom,step,later,Option.bind_eq_bind,Option.bind_some,Option.pure_def]

/-- A character that completes no token. -/
theorem tokensFrom_skip (next : Lexing) (step : lexing.read c = some ([],next))
    (later : tokensFrom next rest = some more) : tokensFrom lexing (c :: rest) = some more :=
  tokensFrom_cons step later

theorem exists_of_tokensFrom_cons (found : tokensFrom lexing (c :: rest) = some more) :
    ∃ tokens next later, lexing.read c = some (tokens,next) ∧
      tokensFrom next rest = some later ∧ more = tokens ++ later := by
  rw [tokensFrom] at found
  obtain ⟨⟨tokens,next⟩,step,found⟩ := Option.bind_eq_some_iff.mp found
  obtain ⟨later,rest,found⟩ := Option.bind_eq_some_iff.mp found
  exact ⟨tokens,next,later,step,rest,(Option.some.inj found).symm⟩

theorem tokensFrom_punctuation {token : Token} (mark : punctuation? c = some token)
    (later : tokensFrom .between rest = some more) :
    tokensFrom .between (c :: rest) = some (token :: more) := by
  have step : Lexing.between.read c = some ([token],.between) := by
    rw [Lexing.read,readBetween,mark]
  exact tokensFrom_cons step later

theorem tokensFrom_newLine (level : Nat) (later : tokensFrom .between rest = some more) :
    tokensFrom .between (newLine level ++ rest) = some more := by
  have blanks : ∀ n, tokensFrom .between (List.replicate n ' ' ++ rest) = some more := by
    intro n
    induction n with
    | zero => exact later
    | succ n ih => exact tokensFrom_skip .between rfl ih
  exact tokensFrom_skip .between rfl (blanks (2 * level))

section Quoted

theorem hexValue?_hexDigit (n : Nat) : Percent.hexValue? (hexDigit n) = some (n % 16) := by
  have all : ∀ d < 16, Percent.hexValue? (Nat.digitChar d) = some d := by decide
  exact all (n % 16) (Nat.mod_lt n (by omega))

/-- A code unit below the surrogates, given by its digits. -/
theorem read_unit {missing value digit : Nat} (hex : Percent.hexValue? c = some digit)
    (open' : 1 < missing) :
    (Lexing.unit read none missing value).read c =
      some ([],.unit read none (missing - 1) (16 * value + digit)) := by
  simp [Lexing.read,hex,Nat.not_le.mpr open']

theorem read_lastUnit {value digit : Nat} (hex : Percent.hexValue? c = some digit)
    (early : 16 * value + digit < 0xD800) :
    (Lexing.unit read none 1 value).read c =
      some ([],.text (Char.ofNat (16 * value + digit) :: read)) := by
  have low : ¬ (0xD800 ≤ 16 * value + digit ∧ 16 * value + digit < 0xDC00) := by omega
  have high : ¬ (0xDC00 ≤ 16 * value + digit ∧ 16 * value + digit < 0xE000) := by omega
  simp [Lexing.read,hex,endUnit,low,high]

theorem tokensFrom_unit (control : c.toNat < 0x20)
    (later : tokensFrom (.text (c :: read)) rest = some more) :
    tokensFrom (.text read)
      ('\\' :: 'u' :: '0' :: '0' :: hexDigit (c.toNat / 16) :: hexDigit c.toNat :: rest) =
        some more := by
  have third := hexValue?_hexDigit (c.toNat / 16)
  have last := hexValue?_hexDigit c.toNat
  have number : 16 * (c.toNat / 16 % 16) + c.toNat % 16 = c.toNat := by omega
  have whole : (Lexing.unit read none 1 (c.toNat / 16 % 16)).read (hexDigit c.toNat) =
      some ([],.text (c :: read)) := by
    rw [read_lastUnit last (by omega),number,Char.ofNat_toNat]
  have digits : tokensFrom (.unit read none 2 0)
      (hexDigit (c.toNat / 16) :: hexDigit c.toNat :: rest) = some more := by
    refine tokensFrom_skip _ (read_unit third (by omega)) ?_
    rw [Nat.mul_zero,Nat.zero_add]
    exact tokensFrom_skip _ whole later
  refine tokensFrom_skip (.escape read) rfl ?_
  refine tokensFrom_skip (.unit read none 4 0) rfl ?_
  refine tokensFrom_skip (.unit read none 3 0) rfl ?_
  exact tokensFrom_skip (.unit read none 2 0) rfl digits

theorem tokensFrom_escape (later : tokensFrom (.text (c :: read)) rest = some more) :
    tokensFrom (.text read) (escape c ++ rest) = some more := by
  have pair : ∀ e, escaped? e = some c → e ≠ 'u' →
      tokensFrom (.text read) ('\\' :: e :: rest) = some more := by
    intro e stands other
    refine tokensFrom_skip (.escape read) rfl (tokensFrom_skip _ ?_ later)
    simp [Lexing.read,other,stands]
  rw [escape.eq_def]
  split
  · exact pair '"' rfl (by decide)
  · exact pair '\\' rfl (by decide)
  · exact pair 'b' rfl (by decide)
  · exact pair 't' rfl (by decide)
  · exact pair 'n' rfl (by decide)
  · exact pair 'f' rfl (by decide)
  · exact pair 'r' rfl (by decide)
  · next quote backslash _ _ _ _ _ =>
    split
    · next control => exact tokensFrom_unit control later
    · next printed =>
      refine tokensFrom_skip _ ?_ later
      rw [Lexing.read,if_neg quote,if_neg backslash,if_neg printed]

theorem tokensFrom_quoted (read text : List Char) (later : tokensFrom .between rest = some more) :
    tokensFrom (.text read) (text.flatMap escape ++ '"' :: rest) =
      some (.text (String.ofList (read.reverse ++ text)) :: more) := by
  induction text generalizing read with
  | nil =>
    rw [List.append_nil]
    have step : (Lexing.text read).read '"' =
        some ([.text (String.ofList read.reverse)],.between) := rfl
    exact tokensFrom_cons step later
  | cons c text ih =>
    rw [List.flatMap_cons,List.append_assoc]
    refine tokensFrom_escape ?_
    rw [ih,List.reverse_cons,List.append_assoc]
    rfl

theorem tokensFrom_printText (text : String) (later : tokensFrom .between rest = some more) :
    tokensFrom .between (printText text ++ rest) = some (.text text :: more) := by
  have quoted := tokensFrom_quoted [] text.toList later
  rw [List.reverse_nil,List.nil_append,String.ofList_toList] at quoted
  rw [printText,List.append_assoc]
  exact tokensFrom_skip (.text []) rfl quoted

end Quoted

section Words

theorem endsWord_of_head {first : Char} (ends : endsWord first = true) (text : List Char) :
    Parts (first :: text) := by
  intro c head
  cases head
  exact ends

theorem readBetween_of_inner (inner : endsWord c = false) : readBetween c = some ([],.word [c]) := by
  simp only [endsWord,Bool.or_eq_false_iff,beq_eq_false_iff_ne,Option.isSome_eq_false_iff,
    Option.isNone_iff_eq_none] at inner
  obtain ⟨⟨mark,space⟩,quote⟩ := inner
  simp [readBetween,mark,space,quote]

theorem read_word_of_inner (inner : endsWord c = false) :
    (Lexing.word read).read c = some ([],.word (c :: read)) := by
  rw [Lexing.read,← endsWord,inner,if_neg Bool.false_ne_true]

theorem read_word_of_end (ends : endsWord c = true) (stands : word? read.reverse = some value)
    (step : readBetween c = some (tokens,next)) :
    (Lexing.word read).read c = some (.scalar value :: tokens,next) := by
  rw [Lexing.read,← endsWord,if_pos ends]
  simp [stands,step]

theorem tokensFrom_wordFrom (inner : ∀ c ∈ word, endsWord c = false)
    (stands : word? (read.reverse ++ word) = some value) (parts : Parts rest)
    (later : tokensFrom .between rest = some more) :
    tokensFrom (.word read) (word ++ rest) = some (.scalar value :: more) := by
  induction word generalizing read with
  | nil =>
    rw [List.append_nil] at stands
    cases rest with
    | nil =>
      cases later
      rw [List.nil_append,tokensFrom,stands]
      rfl
    | cons c rest =>
      obtain ⟨tokens,next,behind,step,others,rfl⟩ := exists_of_tokensFrom_cons later
      exact tokensFrom_cons (read_word_of_end (parts c rfl) stands step) others
  | cons c word ih =>
    obtain ⟨first,others⟩ := List.forall_mem_cons.mp inner
    refine tokensFrom_skip _ (read_word_of_inner first) (ih others ?_)
    rwa [List.reverse_cons,List.append_assoc]

theorem tokensFrom_word (nonempty : word ≠ []) (inner : ∀ c ∈ word, endsWord c = false)
    (stands : word? word = some value) (parts : Parts rest)
    (later : tokensFrom .between rest = some more) :
    tokensFrom .between (word ++ rest) = some (.scalar value :: more) := by
  obtain ⟨c,word,rfl⟩ := List.exists_cons_of_ne_nil nonempty
  obtain ⟨first,others⟩ := List.forall_mem_cons.mp inner
  exact tokensFrom_skip (.word [c]) (readBetween_of_inner first)
    (tokensFrom_wordFrom others stands parts later)

end Words

section Integers

theorem head?_toDigits_ne {n : Nat} (positive : 0 < n) : (Nat.toDigits 10 n).head? ≠ some '0' := by
  induction n using Nat.strongRecOn with
  | ind n ih =>
    by_cases short : n < 10
    · have all : ∀ d < 10, 0 < d → Nat.digitChar d ≠ '0' := by decide
      rw [Nat.toDigits_of_lt_base short]
      exact fun head => all n short positive (Option.some.inj head)
    · rw [Nat.toDigits_of_base_le (by omega) (by omega),
        List.head?_append_of_ne_nil _ Nat.toDigits_ne_nil]
      exact ih (n / 10) (by omega) (by omega)

theorem asciiDigit?_of_isDigit (digit : c.isDigit = true) : asciiDigit? c = digitValue? c := by
  rw [asciiDigit?,if_pos digit,digitValue?_of_isDigit digit]

theorem takeWhile_toString (n : Nat) :
    (toString n).toList.takeWhile Char.isDigit = (toString n).toList :=
  List.takeWhile_eq_self_iff.mpr fun _ => isDigit_of_mem_toString

theorem digitsOf_toString (n : Nat) :
    digitsOf (toString n).toList = (toString n).toList.filterMap digitValue? := by
  rw [digitsOf,takeWhile_toString]
  exact List.filterMap_congr fun c member => asciiDigit?_of_isDigit (isDigit_of_mem_toString member)

theorem ofDigits_digitsOf_toString (n : Nat) : ofDigits (digitsOf (toString n).toList) = n := by
  rw [digitsOf_toString,ofDigits,ofDigits_filterMap 0 _ (fun _ => isDigit_of_mem_toString),
    Nat.toString_eq_repr,Nat.toList_repr,Nat.ofDigitChars_ten_toDigits]

theorem afterDigits_toString (n : Nat) : afterDigits (toString n).toList = [] :=
  List.dropWhile_eq_nil_iff.mpr fun _ => isDigit_of_mem_toString

theorem bounds_of_isDigit (digit : c.isDigit = true) : 48 ≤ c.toNat ∧ c.toNat ≤ 57 := by
  simpa [Char.isDigit,Char.le_def,UInt32.le_iff_toNat_le] using digit

/-- A number is written without superfluous zeros. -/
theorem plain_digitsOf_toString (n : Nat) :
    ((digitsOf (toString n).toList).isEmpty || ((digitsOf (toString n).toList).head? == some 0 &&
      (digitsOf (toString n).toList).length != 1)) = false := by
  by_cases zero : n = 0
  · subst zero
    decide
  · have first := head?_toDigits_ne (Nat.pos_of_ne_zero zero)
    rw [← Nat.toList_repr,← Nat.toString_eq_repr] at first
    have all : ∀ c ∈ (toString n).toList, c.isDigit = true := fun _ => isDigit_of_mem_toString
    obtain ⟨c,others,letters⟩ := List.exists_cons_of_ne_nil (toString_ne_nil n)
    rw [digitsOf_toString]
    rw [letters] at first all ⊢
    have digit := all c List.mem_cons_self
    have value : c.toNat - 48 ≠ 0 := by
      intro none
      have bounds := bounds_of_isDigit digit
      have same : c.toNat = 48 := by omega
      refine first (congrArg some ?_)
      rw [← Char.ofNat_toNat c,same]
    rw [List.filterMap_cons,digitValue?_of_isDigit digit]
    simp [value]

theorem unsigned?_toString (negative : Bool) (n : Nat) :
    unsigned? negative (toString n).toList = integer? negative n := by
  simp only [unsigned?,plain_digitsOf_toString,Bool.false_eq_true,if_false,afterDigits_toString,
    ofDigits_digitsOf_toString]

theorem toList_toString_negSucc (n : Nat) :
    (toString (Int.negSucc n)).toList = '-' :: (toString (n + 1)).toList := by
  change ("-" ++ toString (n + 1)).toList = _
  rw [String.toList_append]
  rfl

/-- What begins with a digit or a sign is read as a number. -/
theorem word?_of_early {first : Char} (early : first.toNat ≤ 57) (text : List Char) :
    word? (first :: text) =
      match first :: text with
      | '-' :: rest => unsigned? true rest
      | rest => unsigned? false rest := by
  have other : ∀ name ∈ ["null","true","false"], String.ofList (first :: text) ≠ name := by
    rintro name member rfl
    have late : ∀ name ∈ ["null","true","false"],
        name.toList.head?.all (fun c => decide (57 < c.toNat)) = true := by decide
    have beyond := late _ member
    rw [String.toList_ofList,List.head?_cons,Option.all_some,decide_eq_true_eq] at beyond
    omega
  rw [word?.eq_def]
  split
  · next same => exact absurd same (other _ (by decide))
  · next same => exact absurd same (other _ (by decide))
  · next same => exact absurd same (other _ (by decide))
  · rfl

theorem word?_toString_nat {n : Nat} (small : n < Datum.unsignedLimit) :
    word? (toString n).toList = some (.int n) := by
  have number := unsigned?_toString false n
  have all : ∀ c ∈ (toString n).toList, c.isDigit = true := fun _ => isDigit_of_mem_toString
  obtain ⟨first,text,letters⟩ := List.exists_cons_of_ne_nil (toString_ne_nil n)
  rw [letters] at number all ⊢
  have bounds := bounds_of_isDigit (all first List.mem_cons_self)
  rw [word?_of_early bounds.2]
  split
  · next same =>
    cases same
    exact absurd bounds.1 (by decide)
  · simp [number,integer?,small,withSign]

theorem word?_toString_negSucc {n : Nat} (small : n + 1 ≤ Datum.signedLimit) :
    word? (toString (Int.negSucc n)).toList = some (.int (Int.negSucc n)) := by
  have number : unsigned? true (toString (n + 1)).toList = some (.int (Int.negSucc n)) := by
    rw [unsigned?_toString]
    simp [integer?,small,withSign,Int.negSucc_eq]
  rw [toList_toString_negSucc,word?_of_early (by decide)]
  exact number

theorem word?_toString {n : Int} (fits : fitsInt n = true) :
    word? (toString n).toList = some (.int n) := by
  simp only [fitsInt,Bool.and_eq_true,decide_eq_true_eq] at fits
  cases n with
  | ofNat n => exact word?_toString_nat (Int.ofNat_lt.mp fits.2)
  | negSucc n =>
    refine word?_toString_negSucc ?_
    rw [Int.negSucc_eq] at fits
    omega

theorem endsWord_of_mem_toString {n : Int} (member : c ∈ (toString n).toList) :
    endsWord c = false := by
  have digit : ∀ k : Nat, c ∈ (toString k).toList → endsWord c = false := by
    intro k inside
    have bounds := bounds_of_isDigit (isDigit_of_mem_toString inside)
    have all : ∀ d < 10, endsWord (Char.ofNat (48 + d)) = false := by decide
    have own := all (c.toNat - 48) (by omega)
    rwa [show 48 + (c.toNat - 48) = c.toNat by omega,Char.ofNat_toNat] at own
  cases n with
  | ofNat k => exact digit k member
  | negSucc k =>
    rw [toList_toString_negSucc,List.mem_cons] at member
    rcases member with rfl | inside
    · decide
    · exact digit (k + 1) inside

theorem toString_int_ne_nil (n : Int) : (toString n).toList ≠ [] := by
  cases n with
  | ofNat k => exact toString_ne_nil k
  | negSucc k =>
    rw [toList_toString_negSucc]
    exact List.cons_ne_nil _ _

end Integers

end AbapAtlas.Json

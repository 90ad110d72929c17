import AbapAtlas.Proofs.Text.LetterCase
import AbapAtlas.Proofs.Text.Search
import AbapAtlas.Text.Parts

/-! Key words, and what sets them apart. A key word of plain letters is found in every spelling that
differs from it in the case of Latin letters alone; a blank is no letter of a name. -/
namespace AbapAtlas.Text

def plainLetters : List Char := "dehmnot".toList

def smallLetters : List Char := "</=>_abcdefghijklmnopqrstuvwxyz".toList

-- The characters that are some case of a letter without being a Latin one of it.
def specialCases : List Char := ['ſ','İ','ı','\u212a']

/-- Being some case of a letter is being spelled as that letter, where characters are spelled in
lower case but for the special ones, and these as the letters that they are cases of. -/
theorem isCaseOf_iff_spell {spell : Char → Char} {letters : List Char}
    (small : letters ⊆ smallLetters) (ordinary : ∀ c, c ∉ specialCases → spell c = c.toLower)
    (special : ∀ l ∈ letters, (specialCases.all fun d => isCaseOf l d == (spell d == l)) = true)
    {letter : Char} (member : letter ∈ letters) (c : Char) :
    isCaseOf letter c = true ↔ spell c = letter := by
  by_cases other : c ∈ specialCases
  · rw [beq_iff_eq.mp (List.all_eq_true.mp (special letter member) c other),beq_iff_eq]
  · rw [ordinary c other]
    have lowered : ∀ l ∈ smallLetters, l.toUpper.toLower = l :=
      List.all_iff_forall_prop.mp (by decide)
    have capital : ∀ l ∈ smallLetters,
        (capitals.all fun d => isCaseOf l d == (d.toLower == l)) = true :=
      List.all_iff_forall_prop.mp (by decide)
    rcases toLower_cases c with same | upper
    · constructor
      · intro cased
        rcases isCaseOf_cases cased with rfl | rfl | outside
        · exact same
        · exact lowered letter (small member)
        · exact absurd outside other
      · intro equal
        simp [isCaseOf,same.symm.trans equal]
    · rw [beq_iff_eq.mp (List.all_eq_true.mp (capital letter (small member)) c upper),beq_iff_eq]

theorem isCaseOf_iff {letter : Char} (plain : letter ∈ plainLetters) (c : Char) :
    isCaseOf letter c = true ↔ c.toLower = letter :=
  isCaseOf_iff_spell (by decide) (fun _ _ => rfl) (List.all_iff_forall_prop.mp (by decide)) plain c

/-- A key word is read off a text that has it in any letter case, and off no other. -/
theorem dropLiteral?_isCaseOf_iff {word : List Char} (plain : ∀ l ∈ word, l ∈ plainLetters)
    (text rest : List Char) :
    dropLiteral? isCaseOf word text = some rest ↔
      ∃ spelling, text = spelling ++ rest ∧ spelling.map Char.toLower = word :=
  dropLiteral?_eq_some_iff (fun l member => isCaseOf_iff (plain l member)) text rest

def blankNumbers : List Nat :=
  [9,10,11,12,13,28,29,30,31,32,0x85,0xA0,0x1680,0x2000,0x2001,0x2002,0x2003,0x2004,0x2005,0x2006,
    0x2007,0x2008,0x2009,0x200A,0x2028,0x2029,0x202F,0x205F,0x3000]

theorem toNat_mem_blankNumbers {c : Char} (blank : isBlank c = true) :
    c.toNat ∈ blankNumbers := by
  simp only [isBlank,Bool.or_eq_true,Bool.and_eq_true,decide_eq_true_eq,List.contains_iff_mem]
    at blank
  generalize c.toNat = n at blank ⊢
  simp only [blankNumbers,List.mem_cons,List.not_mem_nil,or_false] at blank ⊢
  omega

theorem isBlank_of_isNameChar {c : Char} (proper : isNameChar c = true) : isBlank c = false := by
  by_contra blank
  have none : ∀ n ∈ blankNumbers, covers wordRanges n = false ∧ n ≠ 126 := by decide +kernel
  obtain ⟨outside,other⟩ := none c.toNat (toNat_mem_blankNumbers (Bool.not_eq_false _ ▸ blank))
  rw [isNameChar,isWord,outside,Bool.false_or,beq_iff_eq] at proper
  rw [proper] at other
  exact other rfl

theorem isBlank_of_toLower_mem {c : Char} (plain : c.toLower ∈ plainLetters) :
    isBlank c = false := by
  have all : ∀ l ∈ plainLetters, isBlank l = false := List.all_iff_forall_prop.mp (by decide)
  have lowered : isBlank c = isBlank c.toLower :=
    eq_toLower _ (List.all_iff_forall_prop.mp (by decide)) c
  rw [lowered]
  exact all _ plain

end AbapAtlas.Text

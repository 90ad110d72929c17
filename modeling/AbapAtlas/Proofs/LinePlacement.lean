import AbapAtlas.LinePlacement
import AbapAtlas.Proofs.MethodStatement
import Mathlib.Data.List.Induction
import Mathlib.Data.Set.Function

/-! The method that a line is counted in. Where no name tells, it is the shortest method that holds
the line. Methods do not overlap, so two lines never come to the same line of the file. -/
namespace AbapAtlas
open Text

namespace MethodBlock
variable {lines : List String} {block : MethodBlock}

theorem name_ne_empty (member : block ∈ scan lines) : block.name ≠ "" := by
  obtain ⟨spelling,first,last,spans,rfl⟩ := (mem_scan_iff _ _).mp member
  exact lower_ne_empty (mt String.ofList_eq_empty_iff.mp spans.proper.1)

theorem one_le_startLine (member : block ∈ scan lines) : 1 ≤ block.startLine := by
  obtain ⟨spelling,first,last,spans,rfl⟩ := (mem_scan_iff _ _).mp member
  have positive := spans.bounds.1
  change (1 : Int) ≤ first
  omega

/-- A line of a source lies in one method at most. -/
theorem eq_of_common_line {other : MethodBlock} (member : block ∈ scan lines)
    (member' : other ∈ scan lines) {n : Int} (above : block.startLine ≤ n) (below : n ≤ block.endLine)
    (above' : other.startLine ≤ n) (below' : n ≤ other.endLine) : block = other := by
  obtain ⟨before,after,split⟩ := List.append_of_mem member
  have ordered := scan_pairwise lines
  rw [split,List.pairwise_append,List.pairwise_cons] at ordered
  obtain ⟨_,⟨behind,_⟩,across⟩ := ordered
  rw [split] at member'
  rcases List.mem_append.mp member' with early | late
  · have follows := across other early block List.mem_cons_self
    omega
  · rcases List.mem_cons.mp late with same | after
    · exact same.symm
    · have follows := behind other after
      omega

end MethodBlock

namespace LinePlacement
open MethodBlock
variable {line : Int} {blocks : List MethodBlock} {block : MethodBlock} {hint : Option String}

/-- That a block is the first of the shortest blocks that hold a line: those listed before it are
longer, or too short for the line, and none behind it is shorter. -/
def FirstShortest (line : Int) (blocks : List MethodBlock) (block : MethodBlock) : Prop :=
  ∃ before after, blocks = before ++ block :: after ∧ line ≤ block.length ∧
    (∀ other ∈ before, line ≤ other.length → block.length < other.length) ∧
    ∀ other ∈ after, line ≤ other.length → block.length ≤ other.length

namespace FirstShortest

theorem mem (first : FirstShortest line blocks block) : block ∈ blocks := by
  obtain ⟨before,after,rfl,_⟩ := first
  simp

theorem holds (first : FirstShortest line blocks block) : line ≤ block.length := by
  obtain ⟨_,_,_,holds,_⟩ := first
  exact holds

theorem le (first : FirstShortest line blocks block) {other : MethodBlock} (member : other ∈ blocks)
    (holds : line ≤ other.length) : block.length ≤ other.length := by
  obtain ⟨before,after,rfl,_,longer,noShorter⟩ := first
  rcases List.mem_append.mp member with early | late
  · exact Int.le_of_lt (longer other early holds)
  · rcases List.mem_cons.mp late with rfl | behind
    · exact Int.le_refl _
    · exact noShorter other behind holds

theorem concat (first : FirstShortest line blocks block) {other : MethodBlock}
    (noShorter : line ≤ other.length → block.length ≤ other.length) :
    FirstShortest line (blocks ++ [other]) block := by
  obtain ⟨before,after,rfl,holds,longer,behind⟩ := first
  refine ⟨before,after ++ [other],by simp,holds,longer,?_⟩
  intro next member
  rcases List.mem_append.mp member with inside | last
  · exact behind next inside
  · rw [List.mem_singleton.mp last]
    exact noShorter

end FirstShortest

theorem shortestHolding?_concat (line : Int) (blocks : List MethodBlock) (block : MethodBlock) :
    shortestHolding? line (blocks ++ [block]) =
      if line ≤ block.length then
        match shortestHolding? line blocks with
        | none => some block
        | some other => if block.length < other.length then some block else some other
      else shortestHolding? line blocks := by
  simp only [shortestHolding?,List.filter_append,List.foldl_append,List.filter_cons,
    decide_eq_true_eq]
  split <;> rfl

theorem shortestHolding?_eq_none_iff :
    shortestHolding? line blocks = none ↔ ∀ block ∈ blocks, block.length < line := by
  induction blocks using List.reverseRecOn with
  | nil => simp [shortestHolding?]
  | append_singleton blocks block ih =>
    rw [shortestHolding?_concat,List.forall_mem_append,← ih]
    by_cases holds : line ≤ block.length
    · rw [if_pos holds]
      split
      · simp [holds]
      · split <;> simp [holds]
    · rw [if_neg holds]
      simp [Int.not_le.mp holds]

/-- The block that is found is the first of the shortest that hold the line. -/
theorem firstShortest_of_found (found : shortestHolding? line blocks = some block) :
    FirstShortest line blocks block := by
  induction blocks using List.reverseRecOn generalizing block with
  | nil => cases found
  | append_singleton blocks last ih =>
    rw [shortestHolding?_concat] at found
    by_cases holds : line ≤ last.length
    · rw [if_pos holds] at found
      cases before : shortestHolding? line blocks with
      | none =>
        rw [before] at found
        cases found
        have short := shortestHolding?_eq_none_iff.mp before
        refine ⟨blocks,[],rfl,holds,?_,by simp⟩
        intro other member long
        exact absurd (short other member) (Int.not_lt.mpr long)
      | some best =>
        simp only [before] at found
        have first := ih before
        by_cases shorter : last.length < best.length
        · rw [if_pos shorter] at found
          cases found
          refine ⟨blocks,[],rfl,holds,?_,by simp⟩
          intro other member long
          exact Int.lt_of_lt_of_le shorter (first.le member long)
        · rw [if_neg shorter] at found
          cases found
          exact first.concat fun _ => Int.not_lt.mp shorter
    · rw [if_neg holds] at found
      exact (ih found).concat fun long => absurd long holds

def Matches (hint : Option String) (blocks : List MethodBlock) : Prop :=
  ∃ name, hint = some name ∧ ∃ block ∈ blocks, block.name = lower name

def Known (hint : Option String) (blocks : List MethodBlock) : Prop :=
  Matches hint blocks ∨ blocks.length = 1

theorem matches_of_named? (found : named? hint blocks = some block) :
    block ∈ blocks ∧ Matches hint blocks := by
  cases hint with
  | none => cases found
  | some name =>
    rw [named?] at found
    split at found
    · cases found
    · have member := List.mem_of_find?_eq_some found
      have same := List.find?_some found
      exact ⟨member,name,rfl,block,member,beq_iff_eq.mp same⟩

theorem exists_named? (proper : ∀ block ∈ blocks, block.name ≠ "") (known : Matches hint blocks) :
    ∃ block, named? hint blocks = some block := by
  obtain ⟨name,rfl,block,member,same⟩ := known
  have nonempty : name ≠ "" := by
    rintro rfl
    exact proper block member same
  rw [named?,if_neg nonempty]
  exact Option.isSome_iff_exists.mp
    (List.find?_isSome.mpr ⟨block,member,beq_iff_eq.mpr same⟩)

theorem block?_of_named? (found : named? hint blocks = some block) (line : Int) :
    block? line blocks hint = some block := by
  simp only [block?,found]

theorem exists_block?_of_known (proper : ∀ block ∈ blocks, block.name ≠ "")
    (known : Known hint blocks) : ∃ block, ∀ line, block? line blocks hint = some block := by
  cases found : named? hint blocks with
  | some block => exact ⟨block,block?_of_named? found⟩
  | none =>
    rcases known with matched | single
    · obtain ⟨block,found'⟩ := exists_named? proper matched
      cases found.symm.trans found'
    · obtain ⟨block,rfl⟩ := List.length_eq_one_iff.mp single
      exact ⟨block,fun line => by simp only [block?,found]⟩

theorem block?_of_not_known (unknown : ¬ Known hint blocks) (line : Int) :
    block? line blocks hint = shortestHolding? line blocks := by
  have unnamed : named? hint blocks = none := by
    cases found : named? hint blocks with
    | none => rfl
    | some block => exact absurd (Or.inl (matches_of_named? found).2) unknown
  unfold block?
  simp only [unnamed]
  split
  · exact absurd (Or.inr rfl) unknown
  · rfl

theorem mem_of_block? (found : block? line blocks hint = some block) : block ∈ blocks := by
  unfold block? at found
  split at found
  · rename_i named
    cases found
    exact (matches_of_named? named).1
  · split at found
    · cases found
      exact List.mem_singleton_self _
    · exact (firstShortest_of_found found).mem

section
variable {path : String}

theorem fileLine_of_block? (counted : countsFromMethod path = true)
    (found : block? line blocks hint = some block) :
    fileLine line path (some blocks) hint = block.startLine + line - 1 := by
  rw [fileLine,if_pos counted,Option.getD_some,found]

theorem fileLine_of_no_block? (counted : countsFromMethod path = true)
    (none : block? line blocks hint = none) : fileLine line path (some blocks) hint = line := by
  rw [fileLine,if_pos counted,Option.getD_some,none]

theorem countsFromMethod_append (front : String) :
    countsFromMethod (front ++ classSourceSuffix) = true := by
  obtain ⟨lowered,kept⟩ := lowerAfter_append false front.toList classSourceSuffix.toList
    (List.all_iff_forall_prop.mp (by decide))
  rw [countsFromMethod,List.isSuffixOf_iff_suffix,toList_lower,String.toList_append,kept]
  exact List.suffix_append _ _

/-- Where no method is known, a line that some method holds is counted in the first of the shortest
of these. -/
theorem exists_firstShortest (counted : countsFromMethod path = true)
    (unknown : ¬ Known hint blocks) (held : ∃ block ∈ blocks, line ≤ block.length) :
    ∃ block, FirstShortest line blocks block ∧
      fileLine line path (some blocks) hint = block.startLine + line - 1 := by
  cases found : shortestHolding? line blocks with
  | none =>
    obtain ⟨block,member,holds⟩ := held
    exact absurd (shortestHolding?_eq_none_iff.mp found block member) (Int.not_lt.mpr holds)
  | some block =>
    exact ⟨block,firstShortest_of_found found,
      fileLine_of_block? counted (by rw [block?_of_not_known unknown,found])⟩

end

/-- The lines that are counted in some method: all from the first on if the method is known, and
else those that the longest method holds. -/
def countedLines (hint : Option String) (blocks : List MethodBlock) : Set Int :=
  {line | 1 ≤ line ∧ (Known hint blocks ∨ ∃ block ∈ blocks, line ≤ block.length)}

/-- Two lines of a class never come to the same line of its file, whatever the hint, although the
method that they are counted in may change from one line to the next. -/
theorem fileLine_injOn (lines : List String) {path : String}
    (counted : countsFromMethod path = true) (hint : Option String) :
    Set.InjOn (fun line => fileLine line path (some (scan lines)) hint)
      (countedLines hint (scan lines)) := by
  rintro a ⟨positive,reach⟩ b ⟨positive',reach'⟩ same
  simp only at same
  by_cases known : Known hint (scan lines)
  · obtain ⟨block,chosen⟩ := exists_block?_of_known (fun _ => name_ne_empty) known
    rw [fileLine_of_block? counted (chosen a),fileLine_of_block? counted (chosen b)] at same
    omega
  · obtain ⟨first,shortest,placed⟩ :=
      exists_firstShortest counted known (reach.resolve_left known)
    obtain ⟨second,shortest',placed'⟩ :=
      exists_firstShortest counted known (reach'.resolve_left known)
    rw [placed,placed'] at same
    -- Both methods hold the line of the file, so they are the same one.
    have holds := shortest.holds
    have holds' := shortest'.holds
    have equal : first = second := eq_of_common_line shortest.mem shortest'.mem
      (n := first.startLine + a - 1) (by omega) (by rw [endLine]; omega) (by omega)
      (by rw [endLine]; omega)
    rw [equal] at same
    omega

section Example

def threeMethods : List String :=
  ["METHOD a.","  EXIT.","ENDMETHOD.","METHOD b.","ENDMETHOD.","METHOD c.","ENDMETHOD."]

theorem scan_threeMethods : scan threeMethods = [⟨"a",1,3⟩,⟨"b",4,2⟩,⟨"c",6,2⟩] := by
  decide +kernel

/-- The third line is placed before the second one, but not in the same line. -/
theorem second_and_third_apart :
    fileLine 2 ("zcl_a" ++ classSourceSuffix) (some (scan threeMethods)) none ≠
      fileLine 3 ("zcl_a" ++ classSourceSuffix) (some (scan threeMethods)) none := by
  have second : 2 ∈ countedLines none (scan threeMethods) := by
    rw [scan_threeMethods]
    exact ⟨by decide,Or.inr (by decide)⟩
  have third : 3 ∈ countedLines none (scan threeMethods) := by
    rw [scan_threeMethods]
    exact ⟨by decide,Or.inr (by decide)⟩
  have injective := fileLine_injOn threeMethods (countsFromMethod_append "zcl_a") none
  exact injective.ne second third (by decide)

-- A line that no method holds may come to the line of another one.
example : fileLine 5 ("zcl_a" ++ classSourceSuffix) (some (scan threeMethods)) none =
    fileLine 2 ("zcl_a" ++ classSourceSuffix) (some (scan threeMethods)) none := by
  decide +kernel

end Example

/-- A line is placed at or behind its own number, and where no method is known, in the first of the
shortest methods that hold it, or if there is none, at its own number. -/
theorem fileLine_in_firstShortest (lines : List String) {path : String}
    (counted : countsFromMethod path = true) {line : Int} (positive : 1 ≤ line)
    (hint : Option String) :
    line ≤ fileLine line path (some (scan lines)) hint ∧
    (2 ≤ (scan lines).length → ¬ Matches hint (scan lines) →
      ((∃ block ∈ scan lines, line ≤ block.length) →
        ∃ block, FirstShortest line (scan lines) block ∧
          fileLine line path (some (scan lines)) hint = block.startLine + line - 1 ∧
          block.startLine ≤ fileLine line path (some (scan lines)) hint ∧
          fileLine line path (some (scan lines)) hint ≤ block.endLine ∧
          block.endLine ≤ lines.length) ∧
      ((∀ block ∈ scan lines, block.length < line) →
        fileLine line path (some (scan lines)) hint = line)) := by
  refine ⟨?_,?_⟩
  · cases found : block? line (scan lines) hint with
    | none => exact Int.le_of_eq (fileLine_of_no_block? counted found).symm
    | some block =>
      have first := one_le_startLine (mem_of_block? found)
      rw [fileLine_of_block? counted found]
      omega
  · intro several unmatched
    have unknown : ¬ Known hint (scan lines) := by
      rintro (matched | single)
      · exact unmatched matched
      · omega
    refine ⟨?_,?_⟩
    · intro held
      obtain ⟨block,shortest,placed⟩ := exists_firstShortest counted unknown held
      have holds := shortest.holds
      refine ⟨block,shortest,placed,by omega,?_,endLine_le_length shortest.mem⟩
      rw [placed,endLine]
      omega
    · intro short
      refine fileLine_of_no_block? counted ?_
      rw [block?_of_not_known unknown]
      exact shortestHolding?_eq_none_iff.mpr short

section Example

theorem second_line_in_second_method : ∃ block,
    FirstShortest 2 (scan threeMethods) block ∧ block = ⟨"b",4,2⟩ ∧
    fileLine 2 ("zcl_a" ++ classSourceSuffix) (some (scan threeMethods)) none = 5 ∧
    block.endLine ≤ threeMethods.length := by
  obtain ⟨_,unhinted⟩ := fileLine_in_firstShortest threeMethods (countsFromMethod_append "zcl_a")
    (show (1 : Int) ≤ 2 by decide) none
  have several : 2 ≤ (scan threeMethods).length := by
    rw [scan_threeMethods]
    decide
  have unmatched : ¬ Matches none (scan threeMethods) := by
    rintro ⟨name,same,_⟩
    cases same
  have held : ∃ block ∈ scan threeMethods, 2 ≤ block.length := by
    rw [scan_threeMethods]
    decide
  obtain ⟨block,shortest,placed,_,_,inside⟩ := (unhinted several unmatched).1 held
  have fifth : fileLine 2 ("zcl_a" ++ classSourceSuffix) (some (scan threeMethods)) none = 5 := by
    decide +kernel
  have start : block.startLine = 4 := by
    rw [fifth] at placed
    omega
  have member := shortest.mem
  rw [scan_threeMethods] at member
  have own : ∀ other ∈ [(⟨"a",1,3⟩ : MethodBlock),⟨"b",4,2⟩,⟨"c",6,2⟩],
      other.startLine = 4 → other = ⟨"b",4,2⟩ := by
    decide
  exact ⟨block,shortest,own block member start,fifth,inside⟩

end Example

end LinePlacement
end AbapAtlas

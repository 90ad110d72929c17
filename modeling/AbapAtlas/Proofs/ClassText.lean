import AbapAtlas.Proofs.MethodStatement

/-! Sources of classes, made of method implementations and of lines between them. The scan finds the
implementations as they are where it takes every name whole and no word of a body for the end of a
method. -/
namespace AbapAtlas.ClassText
open Text MethodBlock

section Word
variable {line : List Char}

def firstWord (line : List Char) : List Char := (line.dropWhile isBlank).takeWhile isWord

structure Inert (line : String) : Prop where
  opensNone : ¬ SameLetters (firstWord line.toList) "METHOD".toList
  endsNone : ¬ SameLetters (firstWord line.toList) "ENDMETHOD".toList

def SeemsEnd (line : String) : Prop :=
  "endmethod".toList <+: (firstWord line.toList).map Char.toLower

instance (line : String) : Decidable (SeemsEnd line) := by unfold SeemsEnd; infer_instance

theorem isWord_toLower (c : Char) : isWord c = isWord c.toLower :=
  eq_toLower _ (List.all_iff_forall_prop.mp (by decide)) c

theorem isWord_of_isBlank {c : Char} (blank : isBlank c = true) : isWord c = false := by
  cases word : isWord c with
  | false => rfl
  | true =>
    have proper : isNameChar c = true := by rw [isNameChar,word,Bool.true_or]
    rw [isBlank_of_isNameChar proper] at blank
    cases blank

theorem firstWord_of_keyword {indent keyword word : List Char}
    (indented : ∀ c ∈ indent, isBlank c = true) (spelled : SameLetters keyword word)
    (nonempty : word ≠ []) (plain : ∀ c ∈ word, c.toLower ∈ plainLetters)
    (letters : ∀ c ∈ word, isWord c = true) (rest : List Char) :
    firstWord (indent ++ (keyword ++ rest)) = keyword ++ rest.takeWhile isWord := by
  rw [firstWord,dropWhile_append_of_head indented (isBlank_of_spelled spelled nonempty plain rest),
    List.takeWhile_append_of_pos (spelled.all isWord_toLower letters)]

theorem firstWord_of_statement {indent keyword gap : List Char}
    (indented : ∀ c ∈ indent, isBlank c = true) (spelled : SameLetters keyword "METHOD".toList)
    (apart : gap ≠ []) (blank : ∀ c ∈ gap, isBlank c = true) (rest : List Char) :
    firstWord (indent ++ (keyword ++ (gap ++ rest))) = keyword := by
  obtain ⟨c,gap,rfl⟩ := List.exists_cons_of_ne_nil apart
  have ended : List.takeWhile isWord (c :: gap ++ rest) = [] := by
    rw [List.cons_append,List.takeWhile_cons_of_neg]
    rw [isWord_of_isBlank (blank c List.mem_cons_self)]
    exact Bool.false_ne_true
  rw [firstWord_of_keyword indented spelled (by decide) (List.all_iff_forall_prop.mp (by decide))
    (List.all_iff_forall_prop.mp (by decide)),ended,List.append_nil]

theorem firstWord_of_begins {name : List Char} (begins : Begins line name) :
    SameLetters (firstWord line) "METHOD".toList := by
  cases begins with
  | statement indented spelled apart blank named proper whole =>
    rw [firstWord_of_statement indented spelled apart blank]
    exact spelled

theorem ends_iff_seemsEnd (line : String) : Ends line.toList ↔ SeemsEnd line := by
  constructor
  · generalize equal : line.toList = text
    intro ends
    cases ends with
    | @statement indent keyword rest indented spelled =>
      rw [SeemsEnd,equal,firstWord_of_keyword indented spelled (by decide)
        (List.all_iff_forall_prop.mp (by decide)) (List.all_iff_forall_prop.mp (by decide)),
        List.map_append,spelled]
      exact List.prefix_append _ _
  · rintro ⟨more,word⟩
    obtain ⟨keyword,behind,split,spelled,-⟩ := List.map_eq_append_iff.mp word.symm
    have parts : line.toList = line.toList.takeWhile isBlank ++ (keyword ++ (behind ++
        (line.toList.dropWhile isBlank).dropWhile isWord)) := by
      rw [← List.append_assoc keyword,← split,firstWord,List.takeWhile_append_dropWhile,
        List.takeWhile_append_dropWhile]
    rw [parts]
    exact .statement (fun c member => List.mem_takeWhile_imp member) spelled

end Word

/-- The line of a METHOD statement: blanks, the key word in any letter case, at least one blank, and
a name that may be one of a namespace. -/
structure Opening where
  indent : List Char
  keyword : List Char
  gap : List Char
  name : List Char
  rest : List Char
  indented : ∀ c ∈ indent, isBlank c = true
  spelled : SameLetters keyword "METHOD".toList
  apart : gap ≠ []
  blank : ∀ c ∈ gap, isBlank c = true
  named : name ≠ []
  proper : ∀ c ∈ name, isNameChar c = true ∨ c = '/'

structure Closing where
  indent : List Char
  keyword : List Char
  rest : List Char
  indented : ∀ c ∈ indent, isBlank c = true
  spelled : SameLetters keyword "ENDMETHOD".toList

structure Implementation where
  opening : Opening
  body : List String
  closing : Closing
  inert : ∀ line ∈ body, Inert line

inductive Piece where
  | filler (line : String) (inert : Inert line)
  | method (implementation : Implementation)

def Opening.line (opening : Opening) : String :=
  String.ofList (opening.indent ++ (opening.keyword ++ (opening.gap ++ (opening.name ++
    '.' :: opening.rest))))

def Closing.line (closing : Closing) : String :=
  String.ofList (closing.indent ++ (closing.keyword ++ '.' :: closing.rest))

namespace Implementation

def lines (method : Implementation) : List String :=
  method.opening.line :: (method.body ++ [method.closing.line])

def block (method : Implementation) (line : Nat) : MethodBlock where
  name := lower (String.ofList method.opening.name)
  startLine := line
  length := method.lines.length

-- What the scan takes for the name: it stops at a slash.
def readName (method : Implementation) : List Char := method.opening.name.takeWhile isNameChar

def found? (method : Implementation) (line : Nat) : Option MethodBlock :=
  -- The block that the scan finds, if it finds one: it ends early on a line that seems to end it.
  if method.readName = [] then none
  else some ⟨lower (String.ofList method.readName),line,
    method.body.findIdx (fun inner => decide (SeemsEnd inner)) + 2⟩

end Implementation

def Piece.lines : Piece → List String
  | .filler line _ => [line]
  | .method implementation => implementation.lines

def lines (pieces : List Piece) : List String := pieces.flatMap Piece.lines

def blocks (line : Nat) : List Piece → List MethodBlock
  | [] => []
  | .filler _ _ :: rest => blocks (line + 1) rest
  | .method implementation :: rest =>
    implementation.block line :: blocks (line + implementation.lines.length) rest

def foundBlocks (line : Nat) : List Piece → List MethodBlock
  | [] => []
  | .filler _ _ :: rest => foundBlocks (line + 1) rest
  | .method implementation :: rest =>
    (implementation.found? line).toList ++ foundBlocks (line + implementation.lines.length) rest

section Markers

theorem ofLine_of_inert {line : String} (inert : Inert line) :
    Marker.ofLine line = if SeemsEnd line then .ends else .neither := by
  have opens : beginName? line.toList = none := by
    rw [Option.eq_none_iff_forall_ne_some]
    intro name found
    exact inert.opensNone (firstWord_of_begins ((begins_iff _ _).mp found))
  split
  · next seems => exact (ofLine_eq_ends_iff line).mpr ((ends_iff _).mpr
      ((ends_iff_seemsEnd line).mpr seems))
  · next other =>
    refine (ofLine_eq_neither_iff line).mpr ⟨opens,Bool.eq_false_iff.mpr ?_⟩
    exact fun ends => other ((ends_iff_seemsEnd line).mp ((ends_iff _).mp ends))

theorem ofLine_closing (closing : Closing) : Marker.ofLine closing.line = .ends := by
  rw [ofLine_eq_ends_iff,Closing.line,String.toList_ofList]
  exact (ends_iff _).mpr (.statement closing.indented closing.spelled)

theorem Implementation.isBlank_of_name (method : Implementation) (rest : List Char) :
    ∀ c ∈ (method.opening.name ++ rest).head?, isBlank c = false := by
  obtain ⟨first,more,split⟩ := List.exists_cons_of_ne_nil method.opening.named
  rw [split]
  intro c head
  cases head
  rcases method.opening.proper first (split ▸ List.mem_cons_self) with proper | rfl
  · exact isBlank_of_isNameChar proper
  · decide

theorem Implementation.takeWhile_name (method : Implementation) (rest : List Char) :
    (method.opening.name ++ '.' :: rest).takeWhile isNameChar = method.readName := by
  rw [readName,List.takeWhile_append]
  split
  · next whole =>
    rw [List.takeWhile_cons_of_neg (by decide),List.append_nil]
    exact ((List.takeWhile_prefix _).eq_of_length whole).symm
  · rfl

/-- A METHOD statement is read with its name up to the first slash, and not at all if nothing is
left of that. -/
theorem ofLine_opening (method : Implementation) : Marker.ofLine method.opening.line =
    if method.readName = [] then .neither else .begins (lower (String.ofList method.readName)) := by
  have first : firstWord method.opening.line.toList = method.opening.keyword := by
    rw [Opening.line,String.toList_ofList]
    exact firstWord_of_statement method.opening.indented method.opening.spelled
      method.opening.apart method.opening.blank _
  have name : beginName? method.opening.line.toList =
      run? isNameChar (method.opening.name ++ '.' :: method.opening.rest) := by
    rw [Opening.line,String.toList_ofList]
    exact beginName?_statement method.opening.indented method.opening.spelled method.opening.apart
      method.opening.blank (method.isBlank_of_name _)
  rw [run?,method.takeWhile_name] at name
  split
  · next nameless =>
    rw [nameless] at name
    refine (ofLine_eq_neither_iff _).mpr ⟨name,Bool.eq_false_iff.mpr fun ends => ?_⟩
    have seems := (ends_iff_seemsEnd _).mp ((ends_iff _).mp ends)
    rw [SeemsEnd,first,method.opening.spelled] at seems
    exact absurd seems (by decide)
  · next named =>
    obtain ⟨c,more,split⟩ := List.exists_cons_of_ne_nil named
    rw [split] at name ⊢
    exact (ofLine_eq_begins_iff _ _).mpr ⟨_,name,rfl⟩

end Markers

section Scan

theorem scanFrom_inert {body : List String} (inert : ∀ line ∈ body, Inert line) (line : Nat)
    (rest : List Marker) :
    scanFrom none line (body.map Marker.ofLine ++ rest) = scanFrom none (line + body.length) rest := by
  induction body generalizing line with
  | nil => rfl
  | cons first body ih =>
    obtain ⟨head,tail⟩ := List.forall_mem_cons.mp inert
    have onward := ih tail (line + 1)
    have count : line + 1 + body.length = line + (first :: body).length := by
      rw [List.length_cons]
      omega
    rw [count] at onward
    rw [List.map_cons,List.cons_append,ofLine_of_inert head]
    split <;> rw [scanFrom,onward]

/-- A method that is open ends on the first line of its body that seems to end it, or else on the
line behind the body. -/
theorem scanFrom_body {body : List String} (inert : ∀ line ∈ body, Inert line) (name : String)
    (start line : Nat) (rest : List Marker) :
    scanFrom (some (name,start)) line (body.map Marker.ofLine ++ .ends :: rest) =
      ⟨name,start,(line + body.findIdx (fun inner => decide (SeemsEnd inner)) : Nat) - start + 1⟩ ::
        scanFrom none (line + body.length + 1) rest := by
  induction body generalizing line with
  | nil => rfl
  | cons first body ih =>
    obtain ⟨head,tail⟩ := List.forall_mem_cons.mp inert
    rw [List.map_cons,List.cons_append,ofLine_of_inert head,List.findIdx_cons,List.length_cons]
    by_cases seems : SeemsEnd first
    · rw [if_pos seems,scanFrom,scanFrom_inert tail,scanFrom,decide_eq_true seems]
      simp only [cond_true,Nat.add_zero]
      congr 2
      omega
    · rw [if_neg seems,scanFrom,ih tail (line + 1),decide_eq_false seems]
      simp only [cond_false]
      congr 3 <;> omega

theorem scanFrom_method (method : Implementation) (line : Nat) (rest : List Marker) :
    scanFrom none line (method.lines.map Marker.ofLine ++ rest) =
      (method.found? line).toList ++ scanFrom none (line + method.lines.length) rest := by
  have count : line + method.lines.length = line + 1 + method.body.length + 1 := by
    simp only [Implementation.lines,List.length_cons,List.length_append,List.length_nil]
    omega
  rw [count,Implementation.lines,List.map_cons,List.map_append,List.map_singleton,ofLine_closing,
    List.cons_append,List.append_assoc,List.singleton_append,ofLine_opening,Implementation.found?]
  split
  · rw [scanFrom,scanFrom_inert method.inert,scanFrom]
    rfl
  · rw [scanFrom,scanFrom_body method.inert]
    simp only [Option.toList_some,List.singleton_append]
    congr 2
    omega

theorem scanFrom_lines (pieces : List Piece) (line : Nat) :
    scanFrom none line ((lines pieces).map Marker.ofLine) = foundBlocks line pieces := by
  induction pieces generalizing line with
  | nil => rfl
  | cons piece pieces ih =>
    rw [lines,List.flatMap_cons,List.map_append,← lines]
    cases piece with
    | filler text inert =>
      rw [Piece.lines,scanFrom_inert (List.forall_mem_singleton.mpr inert),ih]
      rfl
    | method implementation =>
      rw [Piece.lines,scanFrom_method,ih]
      rfl

/-- What a scan finds in a source of implementations. -/
theorem scan_lines (pieces : List Piece) : scan (lines pieces) = foundBlocks 1 pieces :=
  scanFrom_lines pieces 1

end Scan

section Exact

/-- That the scan takes an implementation as it is: there is no slash in its name, and no line of its
body seems to end it. -/
structure Implementation.Plain (method : Implementation) : Prop where
  slashless : '/' ∉ method.opening.name
  unended : ∀ line ∈ method.body, ¬ SeemsEnd line

theorem Implementation.readName_eq_iff (method : Implementation) :
    method.readName = method.opening.name ↔ '/' ∉ method.opening.name := by
  rw [readName,List.takeWhile_eq_self_iff]
  constructor
  · intro all member
    exact absurd (all '/' member) (by decide)
  · intro absent c member
    rcases method.opening.proper c member with proper | rfl
    · exact proper
    · exact absurd member absent

theorem Implementation.lower_readName_eq_iff (method : Implementation) :
    lower (String.ofList method.readName) = lower (String.ofList method.opening.name) ↔
      '/' ∉ method.opening.name := by
  constructor
  · intro same member
    have kept : '/' ∈ (lower (String.ofList method.opening.name)).toList := by
      rw [toList_lower,String.toList_ofList]
      exact mem_lowerAfter_of_isLower (by decide) member
    rw [← same,toList_lower,String.toList_ofList] at kept
    have read := mem_of_mem_lowerAfter (by decide) kept
    exact absurd (List.mem_takeWhile_imp read) (by decide)
  · intro slashless
    rw [method.readName_eq_iff.mpr slashless]

theorem Implementation.found?_eq_iff (method : Implementation) (line : Nat) :
    method.found? line = some (method.block line) ↔ method.Plain := by
  have whole : (method.body.findIdx fun inner => decide (SeemsEnd inner)) = method.body.length ↔
      ∀ line ∈ method.body, ¬ SeemsEnd line := by
    simp only [List.findIdx_eq_length,decide_eq_false_iff_not]
  have count : (method.lines.length : Int) = method.body.length + 2 := by
    simp [Implementation.lines]
    omega
  rw [found?,block,count]
  constructor
  · intro found
    split at found
    · cases found
    · rw [Option.some.injEq,MethodBlock.mk.injEq] at found
      obtain ⟨name,-,length⟩ := found
      exact ⟨method.lower_readName_eq_iff.mp name,whole.mp (by omega)⟩
  · rintro ⟨slashless,unended⟩
    have read := method.readName_eq_iff.mpr slashless
    rw [read,if_neg method.opening.named,whole.mpr unended]

theorem length_foundBlocks_le (pieces : List Piece) (line : Nat) :
    (foundBlocks line pieces).length ≤ (blocks line pieces).length := by
  induction pieces generalizing line with
  | nil => exact Nat.le_refl _
  | cons piece pieces ih =>
    cases piece with
    | filler text inert => exact ih (line + 1)
    | method implementation =>
      have onward := ih (line + implementation.lines.length)
      rw [foundBlocks,blocks,List.length_append,List.length_cons]
      cases implementation.found? line <;> simp <;> omega

/-- The scan finds the blocks of a source just if it takes every implementation as it is. -/
theorem foundBlocks_eq_iff (pieces : List Piece) (line : Nat) :
    foundBlocks line pieces = blocks line pieces ↔
      ∀ method, Piece.method method ∈ pieces → method.Plain := by
  induction pieces generalizing line with
  | nil => simp [foundBlocks,blocks]
  | cons piece pieces ih =>
    cases piece with
    | filler text inert => simp [foundBlocks,blocks,ih]
    | method implementation =>
      have onward := ih (line + implementation.lines.length)
      have few := length_foundBlocks_le pieces (line + implementation.lines.length)
      rw [foundBlocks,blocks]
      simp only [List.mem_cons,Piece.method.injEq,forall_eq_or_imp]
      rw [← onward,← implementation.found?_eq_iff line]
      cases implementation.found? line with
      | none =>
        -- Without its block there are fewer blocks than implementations.
        simp only [Option.toList_none,List.nil_append,reduceCtorEq,false_and,iff_false]
        intro same
        rw [same,List.length_cons] at few
        omega
      | some found => simp

/-- A scan of a source finds exactly the blocks of its implementations, in their order and each with
its name in small letters, its first line and its number of lines, if and only if all of them are
plain. -/
theorem scan_eq_blocks_iff (pieces : List Piece) :
    scan (lines pieces) = blocks 1 pieces ↔ ∀ method, Piece.method method ∈ pieces → method.Plain := by
  rw [scan_lines,foundBlocks_eq_iff]

end Exact

section Example

def openingOf (name : List Char) (named : name ≠ [])
    (proper : ∀ c ∈ name, isNameChar c = true ∨ c = '/') : Opening where
  indent := []
  keyword := "METHOD".toList
  gap := [' ']
  name := name
  rest := []
  indented := by simp
  spelled := rfl
  apart := by simp
  blank := List.forall_mem_singleton.mpr (by decide)
  named := named
  proper := proper

def plainClosing : Closing where
  indent := []
  keyword := "ENDMETHOD".toList
  rest := []
  indented := by simp
  spelled := rfl

def countingMethod : Implementation where
  opening := openingOf "count".toList (by decide)
    (List.all_iff_forall_prop.mp (by decide +kernel))
  body := ["  endmethod_count = 1."]
  closing := plainClosing
  inert := List.forall_mem_singleton.mpr ⟨by decide +kernel,by decide +kernel⟩

theorem variable_ends_method :
    lines [.method countingMethod] = ["METHOD count.","  endmethod_count = 1.","ENDMETHOD."] ∧
      blocks 1 [.method countingMethod] = [⟨"count",1,3⟩] ∧
      scan (lines [.method countingMethod]) = [⟨"count",1,2⟩] ∧
      scan (lines [.method countingMethod]) ≠ blocks 1 [.method countingMethod] := by
  refine ⟨by decide +kernel,by decide +kernel,by decide +kernel,by decide +kernel⟩

def namespacedMethod : Implementation where
  opening := openingOf "/ABC/IF_X~RUN".toList (by decide)
    (List.all_iff_forall_prop.mp (by decide +kernel))
  body := []
  closing := plainClosing
  inert := by simp

example : blocks 1 [.method namespacedMethod] = [⟨"/abc/if_x~run",1,2⟩] ∧
    scan (lines [.method namespacedMethod]) = [] := by
  refine ⟨by decide +kernel,by decide +kernel⟩

end Example
end AbapAtlas.ClassText

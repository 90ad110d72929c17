import AbapAtlas.Proofs.MethodBlock
import AbapAtlas.Proofs.Text.Keyword
import Mathlib.Data.List.Nodup

/-! The lines that open and end methods, told by what is written in them. The blocks of a source are
the stretches from a line that opens a method to the next such line, where that one ends it. -/
namespace AbapAtlas.MethodBlock
open Text

/-- A METHOD statement at the head of a line: blanks, the key word in any letter case, at least one
blank, and the name, which goes on as far as its characters do. -/
inductive Begins : List Char → List Char → Prop where
  | statement {indent keyword gap name rest : List Char}
      (indented : ∀ c ∈ indent, isBlank c = true)
      (spelled : SameLetters keyword "METHOD".toList)
      (apart : gap ≠ [])
      (blank : ∀ c ∈ gap, isBlank c = true)
      (named : name ≠ [])
      (proper : ∀ c ∈ name, isNameChar c = true)
      (whole : ∀ c ∈ rest.head?, isNameChar c = false) :
      Begins (indent ++ (keyword ++ (gap ++ (name ++ rest)))) name

/-- An ENDMETHOD statement at the head of a line: blanks, and the key word in any letter case. -/
inductive Ends : List Char → Prop where
  | statement {indent keyword rest : List Char}
      (indented : ∀ c ∈ indent, isBlank c = true)
      (spelled : SameLetters keyword "ENDMETHOD".toList) :
      Ends (indent ++ (keyword ++ rest))

theorem isBlank_of_spelled {keyword word : List Char} (spelled : SameLetters keyword word)
    (nonempty : word ≠ []) (plain : ∀ c ∈ word, c.toLower ∈ plainLetters) (rest : List Char) :
    ∀ c ∈ (keyword ++ rest).head?, isBlank c = false := by
  obtain ⟨first,more,rfl⟩ := List.exists_cons_of_ne_nil (spelled.ne_nil nonempty)
  intro c head
  cases head
  have lowered : first.toLower ∈ word.map Char.toLower := by
    rw [← spelled]
    exact List.mem_cons_self
  obtain ⟨d,member,same⟩ := List.mem_map.mp lowered
  exact isBlank_of_toLower_mem (same ▸ plain d member)

theorem beginName?_statement {indent keyword gap rest : List Char}
    (indented : ∀ c ∈ indent, isBlank c = true) (spelled : SameLetters keyword "METHOD".toList)
    (apart : gap ≠ []) (blank : ∀ c ∈ gap, isBlank c = true)
    (start : ∀ c ∈ rest.head?, isBlank c = false) :
    beginName? (indent ++ (keyword ++ (gap ++ rest))) = run? isNameChar rest := by
  have startWord := isBlank_of_spelled spelled (by decide)
    (List.all_iff_forall_prop.mp (by decide)) (gap ++ rest)
  have word : dropLiteral? isCaseOf "method".toList (keyword ++ (gap ++ rest)) =
      some (gap ++ rest) :=
    (dropLiteral?_isCaseOf_iff (List.all_iff_forall_prop.mp (by decide)) _ _).mpr
      ⟨keyword,rfl,spelled⟩
  rw [beginName?,dropWhile_append_of_head indented startWord,word]
  simp only [Option.bind_eq_bind,Option.bind_some,run?_append apart blank start,
    dropWhile_append_of_head blank start]

/-- The reader of METHOD statements and the relation agree. -/
theorem begins_iff (line name : List Char) : beginName? line = some name ↔ Begins line name := by
  have plain : ∀ l ∈ "method".toList, l ∈ plainLetters :=
    List.all_iff_forall_prop.mp (by decide)
  constructor
  · intro found
    obtain ⟨afterWord,word,found⟩ := Option.bind_eq_some_iff.mp found
    obtain ⟨gap,blanks,found⟩ := Option.bind_eq_some_iff.mp found
    obtain ⟨keyword,indented,spelled⟩ := (dropLiteral?_isCaseOf_iff plain _ _).mp word
    obtain ⟨apart,blank⟩ := run?_eq_some blanks
    obtain ⟨afterGap,_⟩ := run?_split blanks
    obtain ⟨named,proper⟩ := run?_eq_some found
    obtain ⟨afterName,whole⟩ := run?_split found
    have split : line = line.takeWhile isBlank ++ (keyword ++ (gap ++ (name ++
        (afterWord.dropWhile isBlank).dropWhile isNameChar))) := by
      rw [← afterName,← afterGap,← indented,List.takeWhile_append_dropWhile]
    rw [split]
    exact .statement (fun c member => List.mem_takeWhile_imp member) spelled apart blank named
      proper whole
  · intro begins
    cases begins with
    | @statement indent keyword gap _ rest indented spelled apart blank named proper whole =>
      have startName : ∀ c ∈ (name ++ rest).head?, isBlank c = false := by
        obtain ⟨first,more,rfl⟩ := List.exists_cons_of_ne_nil named
        intro c head
        cases head
        exact isBlank_of_isNameChar (proper first List.mem_cons_self)
      rw [beginName?_statement indented spelled apart blank startName]
      exact run?_append named proper whole

theorem ends_iff (line : List Char) : endsMethod line = true ↔ Ends line := by
  have plain : ∀ l ∈ "endmethod".toList, l ∈ plainLetters :=
    List.all_iff_forall_prop.mp (by decide)
  rw [endsMethod,Option.isSome_iff_exists]
  constructor
  · rintro ⟨rest,word⟩
    obtain ⟨keyword,indented,spelled⟩ := (dropLiteral?_isCaseOf_iff plain _ _).mp word
    have split : line = line.takeWhile isBlank ++ (keyword ++ rest) := by
      rw [← indented,List.takeWhile_append_dropWhile]
    rw [split]
    exact .statement (fun c member => List.mem_takeWhile_imp member) spelled
  · intro ends
    cases ends with
    | @statement indent keyword rest indented spelled =>
      have start := isBlank_of_spelled spelled (by decide)
        (List.all_iff_forall_prop.mp (by decide)) rest
      refine ⟨rest,?_⟩
      rw [dropWhile_append_of_head indented start,dropLiteral?_isCaseOf_iff plain]
      exact ⟨keyword,rfl,spelled⟩

/-- That line `first` opens a method of the name, in small letters, line `last` ends one, and no
line between them does either. -/
structure Delimits (lines : List String) (name : String) (first last : Nat) : Prop where
  begins : ∃ line spelling, line? lines first = some line ∧ Begins line spelling ∧
    lower (String.ofList spelling) = name
  ends : ∃ line, line? lines last = some line ∧ Ends line
  between : ∀ n, first < n → n < last → ∀ line, line? lines n = some line →
    (∀ spelling, ¬ Begins line spelling) ∧ ¬ Ends line

/-- The two descriptions of a method, by statements and by markers, agree. -/
theorem delimits_iff_spans (lines : List String) (name : String) {first last : Nat}
    (order : first < last) :
    Delimits lines name first last ↔
      ∃ spelling, lower (String.ofList spelling) = name ∧ Spans lines spelling first last := by
  have neither (line : List Char) : (beginName? line = none ∧ endsMethod line = false) ↔
      (∀ spelling, ¬ Begins line spelling) ∧ ¬ Ends line := by
    simp only [← begins_iff,← ends_iff,Bool.not_eq_true,Option.eq_none_iff_forall_ne_some]
  constructor
  · rintro ⟨⟨line,spelling,found,begins,same⟩,⟨line',found',ends⟩,between⟩
    refine ⟨spelling,same,order,?_,?_,?_⟩
    · rw [found,Option.bind_some]
      exact (begins_iff _ _).mpr begins
    · intro n above below line inside
      exact (neither line).mpr (between n above below line inside)
    · rw [found',Option.map_some,(ends_iff _).mpr ends]
  · rintro ⟨spelling,same,_,begins,between,ends⟩
    obtain ⟨line,found,opens⟩ := Option.bind_eq_some_iff.mp begins
    obtain ⟨line',found',closes⟩ := Option.map_eq_some_iff.mp ends
    refine ⟨⟨line,spelling,found,(begins_iff _ _).mp opens,same⟩,
      ⟨line',found',(ends_iff _).mp closes⟩,?_⟩
    intro n above below line inside
    exact (neither line).mp (between n above below line inside)

theorem mem_scan_iff_delimits (lines : List String) (block : MethodBlock) :
    block ∈ scan lines ↔ ∃ first last : Nat, block.startLine = first ∧ block.endLine = last ∧
      2 ≤ block.length ∧ Delimits lines block.name first last := by
  obtain ⟨name,start,length⟩ := block
  rw [mem_scan_iff]
  simp only [mk.injEq,endLine]
  constructor
  · rintro ⟨spelling,first,last,spans,rfl,rfl,rfl⟩
    have order := spans.order
    exact ⟨first,last,rfl,by omega,by omega,
      (delimits_iff_spans lines _ order).mpr ⟨spelling,rfl,spans⟩⟩
  · rintro ⟨first,last,rfl,finish,long,delimits⟩
    have order : first < last := by omega
    obtain ⟨spelling,rfl,spans⟩ := (delimits_iff_spans lines _ order).mp delimits
    exact ⟨spelling,first,last,spans,rfl,rfl,by omega⟩

theorem endLine_le_length {lines : List String} {block : MethodBlock}
    (member : block ∈ scan lines) : block.endLine ≤ lines.length := by
  obtain ⟨spelling,first,last,spans,rfl⟩ := (mem_scan_iff _ _).mp member
  obtain ⟨_,inside⟩ := spans.bounds
  simp only [endLine]
  omega

theorem scan_pairwise (lines : List String) :
    (scan lines).Pairwise (fun a b => a.endLine < b.startLine) :=
  scanFrom_pairwise none 1 (lines.map Marker.ofLine)

theorem nodup_scan (lines : List String) : (scan lines).Nodup := by
  refine (scan_pairwise lines).imp_of_mem ?_
  rintro a b member _ follows rfl
  obtain ⟨_,_,_,_,long,_⟩ := (mem_scan_iff_delimits lines a).mp member
  rw [endLine] at follows
  omega

/-- A scan finds every block that a METHOD line and the next ENDMETHOD line delimit, and each of
them once. The blocks follow one another within the lines of the source. -/
theorem scan_delimited_in_order (lines : List String) :
    (∀ block, block ∈ scan lines ↔ ∃ first last : Nat, block.startLine = first ∧
      block.endLine = last ∧ 2 ≤ block.length ∧ Delimits lines block.name first last) ∧
    (∀ block ∈ scan lines, (scan lines).count block = 1) ∧
    (scan lines).Pairwise (fun a b => a.endLine < b.startLine) ∧
    ∀ block ∈ scan lines, block.endLine ≤ lines.length := by
  refine ⟨mem_scan_iff_delimits lines,?_,scan_pairwise lines,?_⟩
  · intro block member
    exact List.count_eq_one_of_mem (nodup_scan lines) member
  · intro block member
    exact endLine_le_length member

example : scan ["METHOD a."," Method B~c,","  endmethod."] = [⟨"b~c",2,2⟩] := by decide +kernel

end AbapAtlas.MethodBlock

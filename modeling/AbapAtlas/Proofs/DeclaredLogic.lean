import AbapAtlas.FolderLogic
import AbapAtlas.Proofs.Text.Keyword
import AbapAtlas.Proofs.Text.Parts

/-! The folder logic that metadata declare. The leftmost complete element decides, whatever stands
in it and whatever elements follow. With blanks next to its tags there are many ways to tell which
part of its content is captured, but none of them makes a difference. -/
namespace AbapAtlas.FolderLogic
open Text

-- A character of a tag with its case taken off. Both Turkic letters pass for an i.
def caseless (c : Char) : Char := if c = 'İ' ∨ c = 'ı' then 'i' else c.toLower

/-- A complete element at the head of a text: a start tag, a text that is not empty and has no angle
bracket in it, and an end tag, the tags in any letter case. -/
def Element (text inner : List Char) : Prop :=
  ∃ opening closing after, text = opening ++ (inner ++ (closing ++ after)) ∧
    opening.map caseless = openTag ∧ closing.map caseless = closeTag ∧ inner ≠ [] ∧ '<' ∉ inner

/-- A way to read an element at the head of a text: what is captured may have blanks around it, and
may begin or end in blanks itself. -/
def Captures (text captured : List Char) : Prop :=
  ∃ opening left right closing after,
    text = opening ++ (left ++ captured ++ right ++ (closing ++ after)) ∧
    opening.map caseless = openTag ∧ closing.map caseless = closeTag ∧
    (∀ c ∈ left, isBlank c = true) ∧ (∀ c ∈ right, isBlank c = true) ∧
    captured ≠ [] ∧ '<' ∉ captured

def tagLetters : List Char := "</>_cdefgilor".toList

theorem isCaseOf_iff_caseless {letter : Char} (inTag : letter ∈ tagLetters) (c : Char) :
    isCaseOf letter c = true ↔ caseless c = letter := by
  refine isCaseOf_iff_spell (by decide) ?_ (List.all_iff_forall_prop.mp (by decide)) inTag c
  intro c ordinary
  rw [caseless,if_neg (by rintro (rfl | rfl) <;> simp [specialCases] at ordinary)]

theorem dropLiteral?_tag_iff {tag text rest : List Char} (letters : tag ⊆ tagLetters) :
    dropLiteral? isCaseOf tag text = some rest ↔
      ∃ spelling, text = spelling ++ rest ∧ spelling.map caseless = tag :=
  dropLiteral?_eq_some_iff (fun _ member => isCaseOf_iff_caseless (letters member)) text rest

theorem dropLiteral?_openTag_iff {text rest : List Char} :
    dropLiteral? isCaseOf openTag text = some rest ↔
      ∃ opening, text = opening ++ rest ∧ opening.map caseless = openTag :=
  dropLiteral?_tag_iff (by decide)

theorem dropLiteral?_closeTag_iff {text rest : List Char} :
    dropLiteral? isCaseOf closeTag text = some rest ↔
      ∃ closing, text = closing ++ rest ∧ closing.map caseless = closeTag :=
  dropLiteral?_tag_iff (by decide)

theorem eq_bracket_of_caseless {c : Char} (bracket : caseless c = '<') : c = '<' := by
  have same := (isCaseOf_iff_caseless (by decide) c).mpr bracket
  have single : '<'.toUpper = '<' := by decide
  simpa [isCaseOf,single] using same

theorem not_isBlank_bracket : isBlank '<' = false := by decide

/-- What stands before an end tag stops at its bracket. -/
theorem closing_stops {closing : List Char} (closed : closing.map caseless = closeTag)
    (after : List Char) : ∀ c ∈ (closing ++ after).head?, (c != '<') = false := by
  intro c head
  cases closing with
  | nil => cases closed
  | cons d closing =>
    have bracket : caseless d = '<' := (List.cons.inj closed).1
    cases head
    rw [eq_bracket_of_caseless bracket]
    rfl

/-- What is read at the head of a text is the inner text of the element that stands there. -/
theorem elementText?_eq_some_iff {text inner : List Char} :
    elementText? text = some inner ↔ Element text inner := by
  simp only [elementText?,Option.bind_eq_bind,Option.bind_eq_some_iff,Option.pure_def,
    Option.some.injEq]
  constructor
  · rintro ⟨content,starts,run,found,after,ends,rfl⟩
    obtain ⟨opening,rfl,opened⟩ := dropLiteral?_openTag_iff.mp starts
    obtain ⟨closing,tail,closed⟩ := dropLiteral?_closeTag_iff.mp ends
    obtain ⟨nonempty,passes⟩ := run?_eq_some found
    have split := (run?_split found).1
    rw [tail] at split
    refine ⟨opening,closing,after,by rw [← split],opened,closed,nonempty,?_⟩
    intro bracket
    simpa using passes _ bracket
  · rintro ⟨opening,closing,after,rfl,opened,closed,nonempty,free⟩
    have passes : ∀ c ∈ inner, (c != '<') = true := by
      intro c member
      rw [bne_iff_ne]
      rintro rfl
      exact free member
    have stops := closing_stops closed after
    refine ⟨_,dropLiteral?_openTag_iff.mpr ⟨opening,rfl,opened⟩,inner,
      run?_append nonempty passes stops,after,?_,rfl⟩
    rw [dropWhile_append_of_head passes stops]
    exact dropLiteral?_closeTag_iff.mpr ⟨closing,rfl,closed⟩

theorem elementText?_eq_none_iff {text : List Char} :
    elementText? text = none ↔ ∀ inner, ¬ Element text inner := by
  simp only [Option.eq_none_iff_forall_ne_some,ne_eq,elementText?_eq_some_iff]

theorem Element.unique {text inner other : List Char} (element : Element text inner)
    (element' : Element text other) : inner = other := by
  rw [← elementText?_eq_some_iff] at element element'
  exact Option.some.inj (element.symm.trans element')

theorem Element.captures {text inner : List Char} (element : Element text inner) :
    Captures text inner := by
  obtain ⟨opening,closing,after,rfl,opened,closed,nonempty,free⟩ := element
  exact ⟨opening,[],[],closing,after,by simp,opened,closed,by simp,by simp,nonempty,free⟩

theorem Captures.element {text captured : List Char} (captures : Captures text captured) :
    ∃ left right, Element text (left ++ captured ++ right) ∧
      (∀ c ∈ left, isBlank c = true) ∧ ∀ c ∈ right, isBlank c = true := by
  obtain ⟨opening,left,right,closing,after,rfl,opened,closed,before,behind,nonempty,free⟩ :=
    captures
  have unblank : ∀ blanks : List Char, (∀ c ∈ blanks, isBlank c = true) → '<' ∉ blanks := by
    intro blanks all bracket
    exact Bool.false_ne_true (not_isBlank_bracket.symm.trans (all _ bracket))
  refine ⟨left,right,⟨opening,closing,after,rfl,opened,closed,by simp [nonempty],?_⟩,before,behind⟩
  simp only [List.mem_append,not_or]
  exact ⟨⟨unblank left before,free⟩,unblank right behind⟩

theorem exists_captures_iff (text : List Char) :
    (∃ captured, Captures text captured) ↔ ∃ inner, Element text inner := by
  constructor
  · rintro ⟨captured,captures⟩
    obtain ⟨left,right,element,_⟩ := captures.element
    exact ⟨_,element⟩
  · exact fun ⟨inner,element⟩ => ⟨inner,element.captures⟩

/-- However the blanks are divided, the captured text is the same but for blanks around it. -/
theorem trim_captured {text inner captured : List Char} (element : Element text inner)
    (captures : Captures text captured) :
    trim (String.ofList captured) = trim (String.ofList inner) := by
  obtain ⟨left,right,whole,before,behind⟩ := captures.element
  rw [element.unique whole]
  exact (trimBy_around isBlank left captured right before behind).symm

theorem ofDeclaredName?_eq (text : String) :
    ofDeclaredName? text = if upper (trim text) = "PREFIX" then some .short
      else if upper (trim text) = "FULL" then some .full else none := by
  unfold ofDeclaredName?
  split
  · next equal => rw [if_pos equal]
  · next equal => rw [equal,if_neg (by decide),if_pos rfl]
  · next other other' => rw [if_neg other,if_neg other']

theorem ofDeclaredName?_ne_fullWithRoot (text : String) :
    ofDeclaredName? text ≠ some .fullWithRoot := by
  rw [ofDeclaredName?_eq]
  split
  · nofun
  · split <;> nofun

/-- Metadata without an element declare nothing. In others the leftmost element decides, by its text
in capitals and without the blanks around it; whichever part of the text is captured, it comes to
the same. -/
theorem declared?_of_first_element (metadata : String) :
    ((∀ place inner, ¬ Element (metadata.toList.drop place) inner) → declared? metadata = none) ∧
    (∀ place inner, Element (metadata.toList.drop place) inner →
      (∀ earlier < place, ∀ other, ¬ Element (metadata.toList.drop earlier) other) →
      declared? metadata = (if upper (trim (String.ofList inner)) = "PREFIX" then some .short
        else if upper (trim (String.ofList inner)) = "FULL" then some .full else none) ∧
      ∀ captured, Captures (metadata.toList.drop place) captured →
        trim (String.ofList captured) = trim (String.ofList inner)) ∧
    (∀ place, (∃ captured, Captures (metadata.toList.drop place) captured) ↔
      ∃ inner, Element (metadata.toList.drop place) inner) ∧
    declared? metadata ≠ some .fullWithRoot := by
  refine ⟨?_,?_,fun place => exists_captures_iff _,?_⟩
  · intro none
    have nowhere : firstAt elementText? metadata.toList = Option.none :=
      firstAt_eq_none_iff.mpr fun place => elementText?_eq_none_iff.mpr (none place)
    rw [declared?,nowhere]
  · intro place inner element first
    have found : firstAt elementText? metadata.toList = some inner :=
      firstAt_eq_some_iff.mpr ⟨place,elementText?_eq_some_iff.mpr element,
        fun earlier before => elementText?_eq_none_iff.mpr (first earlier before)⟩
    refine ⟨?_,fun captured captures => trim_captured element captures⟩
    rw [declared?,found]
    exact ofDeclaredName?_eq _
  · unfold declared?
    split
    · exact ofDeclaredName?_ne_fullWithRoot _
    · nofun

section Example

def repeatedMetadata : String :=
  "<FOLDER_LOGIC></FOLDER_LOGIC><folder_logic>\t Full\n</Folder_Logic>" ++
  "<FOLDER_LOGIC>PREFIX</FOLDER_LOGIC>"

def blankMetadata : String := "<FOLDER_LOGIC> </FOLDER_LOGIC><FOLDER_LOGIC>FULL</FOLDER_LOGIC>"

theorem padded_element_decides :
    declared? repeatedMetadata = some .full ∧ declared? blankMetadata = none := by
  constructor
  · obtain ⟨_,decided,_⟩ := declared?_of_first_element repeatedMetadata
    have earlier : ∀ place < 29, elementText? (repeatedMetadata.toList.drop place) = none := by
      decide +kernel
    have element : Element (repeatedMetadata.toList.drop 29) "\t Full\n".toList :=
      ⟨"<folder_logic>".toList,"</Folder_Logic>".toList,
        "<FOLDER_LOGIC>PREFIX</FOLDER_LOGIC>".toList,by decide +kernel,by decide,by decide,
        by decide,by decide⟩
    obtain ⟨answer,_⟩ := decided 29 _ element fun place before =>
      elementText?_eq_none_iff.mp (earlier place before)
    rw [answer]
    decide +kernel
  · obtain ⟨_,decided,_⟩ := declared?_of_first_element blankMetadata
    have element : Element (blankMetadata.toList.drop 0) [' '] :=
      ⟨"<FOLDER_LOGIC>".toList,"</FOLDER_LOGIC>".toList,"<FOLDER_LOGIC>FULL</FOLDER_LOGIC>".toList,
        by decide +kernel,by decide,by decide,by decide,by decide⟩
    obtain ⟨answer,_⟩ := decided 0 _ element fun place before =>
      absurd before (Nat.not_lt_zero place)
    rw [answer]
    decide +kernel

end Example

end AbapAtlas.FolderLogic

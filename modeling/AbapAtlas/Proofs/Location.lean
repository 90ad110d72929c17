import AbapAtlas.Location
import AbapAtlas.Proofs.Text.LetterCase
import AbapAtlas.Proofs.Text.Numeral
import AbapAtlas.Proofs.Text.Search

/-! What the two forms of a location say: the line that is written there, and the name of the
method, in whatever case its letters are and however its tildes are written. -/
namespace AbapAtlas
open Text

namespace Text.Percent

theorem pieces_cons {c : Char} (plain : c ≠ '%') (rest : List Char) :
    pieces (c :: rest) = .plain c :: pieces rest := by
  match rest with
  | [] => rfl
  | [_] => rfl
  | _ :: _ :: _ => rw [pieces,if_neg plain]

theorem decode_cons {c : Char} (plain : c ≠ '%') (rest : List Char) :
    decode (c :: rest) = c :: decode rest := by
  rw [decode,pieces_cons plain]
  rfl

theorem decode_append {plain : List Char} (unescaped : '%' ∉ plain) (rest : List Char) :
    decode (plain ++ rest) = plain ++ decode rest := by
  induction plain with
  | nil => rfl
  | cons c plain ih =>
    rw [List.mem_cons,not_or] at unescaped
    rw [List.cons_append,decode_cons (Ne.symm unescaped.1),ih unescaped.2,List.cons_append]

theorem decode_tilde (rest : List Char) : decode ('%' :: '7' :: 'E' :: rest) = '~' :: decode rest :=
  rfl

theorem decode_slash (rest : List Char) : decode ('%' :: '2' :: 'F' :: rest) = '/' :: decode rest :=
  rfl

end Text.Percent

namespace Location
open Percent

structure ClassName (name : String) : Prop where
  nonempty : name ≠ ""
  plain : ∀ c ∈ name.toList, c.isLower = true ∨ c.isDigit = true ∨ c = '_'
  -- A class of this name would be taken for a methods segment.
  other : name ≠ "methods"

/-- That a text spells a name: letters in either case, tildes as they are or escaped. -/
inductive Spells : List Char → List Char → Prop where
  | nil : Spells [] []
  | letter {c d : Char} {text name : List Char} (same : c.toLower = d.toLower) :
      Spells text name → Spells (c :: text) (d :: name)
  | escape {text name : List Char} :
      Spells text name → Spells ('%' :: '7' :: 'E' :: text) ('~' :: name)

/-- The documented forms of a location in a method of a class. -/
inductive Form (name hint : String) (line : Nat) : String → Prop where
  | segment (column : String) (nonempty : column ≠ "")
      (digits : ∀ c ∈ column.toList, c.isDigit = true) :
      Form name hint line ("/sap/bc/adt/oo/classes/" ++ name ++ "/methods/" ++ hint ++ "#start=" ++
        toString line ++ "," ++ column)
  | parameter :
      Form name hint line ("/sap/bc/adt/oo/classes/" ++ name ++ "/source/main#type=CLAS%2FOM;name=" ++
        hint ++ ";start=" ++ toString line)

theorem ClassName.notMem {name : String} (class' : ClassName name) {c : Char}
    (special : (c.isLower || c.isDigit || c == '_') = false) : c ∉ name.toList := by
  intro member
  rcases class'.plain c member with yes | yes | rfl
  · simp [yes] at special
  · simp [yes] at special
  · cases special

theorem Spells.isNameChar_or {text name : List Char} (spells : Spells text name)
    (proper : ∀ c ∈ name, isNameChar c = true) : ∀ c ∈ text, isNameChar c = true ∨ c = '%' := by
  induction spells with
  | nil => exact fun c member => absurd member List.not_mem_nil
  | @letter c d text name same _ ih =>
    intro e member
    rcases List.mem_cons.mp member with rfl | later
    · left
      rw [isNameChar_toLower,same,← isNameChar_toLower]
      exact proper d List.mem_cons_self
    · exact ih (fun c member => proper c (List.mem_cons_of_mem _ member)) e later
  | escape _ ih =>
    intro e member
    simp only [List.mem_cons] at member
    rcases member with rfl | rfl | rfl | later
    · exact Or.inr rfl
    · exact Or.inl (by decide)
    · exact Or.inl (by decide)
    · exact ih (fun c member => proper c (List.mem_cons_of_mem _ member)) e later

theorem Spells.notMem {text name : List Char} (spells : Spells text name)
    (proper : ∀ c ∈ name, isNameChar c = true) {c : Char}
    (special : (isNameChar c || c == '%') = false) : c ∉ text := by
  intro member
  rcases spells.isNameChar_or proper c member with yes | rfl
  · simp [yes] at special
  · simp at special

/-- Decoding what spells a name gives the name up to the case of its letters. -/
theorem Spells.decode_append {text name : List Char} (spells : Spells text name)
    (proper : ∀ c ∈ name, isNameChar c = true) (rest : List Char) :
    ∃ decoded, decode (text ++ rest) = decoded ++ decode rest ∧ SameLetters decoded name := by
  induction spells with
  | nil => exact ⟨[],rfl,rfl⟩
  | @letter c d text name same _ ih =>
    obtain ⟨decoded,equal,letters⟩ :=
      ih (fun c member => proper c (List.mem_cons_of_mem _ member))
    have nameChar : isNameChar c = true := by
      rw [isNameChar_toLower,same,← isNameChar_toLower]
      exact proper d List.mem_cons_self
    have unescaped : c ≠ '%' := by
      rintro rfl
      revert nameChar
      decide
    refine ⟨c :: decoded,?_,?_⟩
    · rw [List.cons_append,decode_cons unescaped,equal,List.cons_append]
    · rw [SameLetters,List.map_cons,List.map_cons,same,letters]
  | @escape text name _ ih =>
    obtain ⟨decoded,equal,letters⟩ :=
      ih (fun c member => proper c (List.mem_cons_of_mem _ member))
    refine ⟨'~' :: decoded,?_,?_⟩
    · rw [List.cons_append,List.cons_append,List.cons_append,decode_tilde,equal,List.cons_append]
    · rw [SameLetters,List.map_cons,List.map_cons,letters]

theorem startDigits?_marked {offset : Nat} {c : Char} (place : "start=".toList[offset]? = some c) :
    Marked startDigits? offset (c == ·) := by
  refine marked_of_literal ?_ place
  intro text digits read
  obtain ⟨rest,found,_⟩ := Option.bind_eq_some_iff.mp read
  exact ⟨rest,found⟩

theorem segmentName?_marked {offset : Nat} {c : Char}
    (place : "/methods/".toList[offset]? = some c) :
    Marked segmentName? offset (isCaseOf c) := by
  refine marked_of_literal ?_ place
  intro text name read
  obtain ⟨rest,found,_⟩ := Option.bind_eq_some_iff.mp read
  exact ⟨rest,found⟩

theorem parameterName?_marked : Marked parameterName? 0 (fun c => c == ';' || c == '?' || c == '&') := by
  intro text answer read
  cases text with
  | nil => cases read
  | cons c rest =>
    refine ⟨c,rfl,?_⟩
    rw [parameterName?] at read
    split at read
    · next separator => simpa [or_assoc] using separator
    · cases read

theorem startDigits?_append {run rest : List Char} (nonempty : run ≠ [])
    (digits : ∀ c ∈ run, isDigit c = true) (stops : ∀ c ∈ rest.head?, isDigit c = false) :
    startDigits? ("start=".toList ++ (run ++ rest)) = some (run.filterMap digitValue?) := by
  have mark := dropLiteral?_append (· == ·) "start=".toList (run ++ rest)
    (fun c _ => beq_self_eq_true c)
  rw [startDigits?,mark]
  simp only [Option.bind_eq_bind,Option.bind_some,run?_append nonempty digits stops]
  rfl

theorem startDigits?_start {line : Nat} {rest : List Char}
    (stops : ∀ c ∈ rest.head?, isDigit c = false) :
    startDigits? ("start=".toList ++ ((toString line).toList ++ rest)) =
      some ((toString line).toList.filterMap digitValue?) :=
  startDigits?_append (toString_ne_nil line)
    (fun _ member => isDigit_of_isDigit (isDigit_of_mem_toString member)) stops

theorem one_le_of_startLine {location : String} {line : Nat}
    (found : startLine location = .ok line) : 1 ≤ line := by
  unfold startLine at found
  split at found
  · cases found
    exact Nat.le_refl 1
  · next digits _ =>
    cases read : readDigits digits with
    | error _ =>
      rw [read] at found
      cases found
    | ok n =>
      rw [read] at found
      cases found
      exact Nat.le_max_left 1 n

/-- A location of either form names the line that is written in it. -/
theorem Form.startLine_eq {name hint location : String} {line : Nat} {method : List Char}
    (form : Form name hint line location) (class' : ClassName name)
    (spells : Spells hint.toList method) (proper : ∀ c ∈ method, isNameChar c = true)
    (positive : 1 ≤ line) (short : line < 10 ^ digitLimit) : startLine location = .ok line := by
  have unequal := class'.notMem (c := '=') (by decide)
  have unequal' := spells.notMem proper (c := '=') (by decide)
  have sign : Marked startDigits? 5 ('=' == ·) := startDigits?_marked rfl
  have letter : Marked startDigits? 0 ('s' == ·) := startDigits?_marked rfl
  have found : firstAt startDigits? location.toList =
      some ((toString line).toList.filterMap digitValue?) := by
    cases form with
    | segment column nonempty digits =>
      have split : ("/sap/bc/adt/oo/classes/" ++ name ++ "/methods/" ++ hint ++ "#start=" ++
          toString line ++ "," ++ column).toList =
          ("/sap/bc/adt/oo/classes/" ++ name ++ "/methods/" ++ hint ++ "#").toList ++
            ("start=".toList ++ ((toString line).toList ++ (',' :: column.toList))) := by
        simp
      rw [split,firstAt_append sign,firstAt_of_head (startDigits?_start (by simp; decide))]
      intro c member
      rw [beq_eq_false_iff_ne]
      rintro rfl
      simp [unequal,unequal'] at member
    | parameter =>
      have split : ("/sap/bc/adt/oo/classes/" ++ name ++ "/source/main#type=CLAS%2FOM;name=" ++ hint ++
          ";start=" ++ toString line).toList =
          ("/sap/bc/adt/oo/classes/" ++ name ++ "/source/main").toList ++
            ("#type=CLAS%2FOM;name=".toList ++ ((hint ++ ";").toList ++
              ("start=".toList ++ ((toString line).toList ++ [])))) := by
        simp
      -- The sign of the first parameter stands too early for a start mark, its letters do not fit.
      rw [split,firstAt_append sign,firstAt_append letter,firstAt_append sign,
        firstAt_of_head (startDigits?_start (by simp))]
      · intro c member
        rw [beq_eq_false_iff_ne]
        rintro rfl
        simp [unequal'] at member
      · have passed : ∀ c ∈ "#type=CLAS%2FOM;name=".toList, ('s' == c) = false :=
          List.all_iff_forall_prop.mp (by decide)
        rw [List.take_zero,List.append_nil]
        exact passed
      · intro c member
        rw [beq_eq_false_iff_ne]
        rintro rfl
        simp [unequal] at member
  rw [startLine,found]
  simp only [readDigits_toString short,Except.map,Except.ok.injEq]
  omega

/-- The name of a class is no methods segment, whatever follows it. -/
theorem segmentName?_class {name : String} (class' : ClassName name) (rest : List Char) :
    segmentName? ('/' :: (name.toList ++ '/' :: rest)) = none := by
  rw [segmentName?,Option.bind_eq_none_iff]
  intro after read
  exfalso
  have letters : List.Forall₂ (fun l c => isCaseOf l c = true) "methods".toList name.toList := by
    refine forall₂_of_dropLiteral? '/' ?_ (List.all_iff_forall_prop.mp (by decide)) read
    intro c slash
    have equal : c = '/' := by simpa [isCaseOf] using slash
    rw [equal]
    exact class'.notMem (by decide)
  have same : List.Forall₂ Eq "methods".toList name.toList := by
    refine List.forall₂_iff_zip.mpr ⟨letters.length_eq,?_⟩
    intro l c pair
    obtain ⟨letter,member⟩ := List.of_mem_zip pair
    rcases isCaseOf_cases (List.forall₂_zip letters pair) with equal | capital | special
    · exact equal.symm
    · exfalso
      revert member
      rw [capital]
      have capitals : ∀ l ∈ "methods".toList,
          (l.toUpper.isLower || l.toUpper.isDigit || l.toUpper == '_') = false :=
        List.all_iff_forall_prop.mp (by decide)
      exact class'.notMem (capitals l letter)
    · exfalso
      have specials : ∀ c ∈ ['ſ','İ','ı','\u212a'],
          (c.isLower || c.isDigit || c == '_') = false :=
        List.all_iff_forall_prop.mp (by decide)
      exact class'.notMem (specials c special) member
  rw [List.forall₂_eq_eq_eq] at same
  exact class'.other (String.toList_inj.mp same.symm)

theorem isCaseOf_slash (c : Char) : isCaseOf '/' c = true ↔ c = '/' := by
  simp [isCaseOf]

theorem isCaseOf_slash_of_notMem {text : List Char} (free : '/' ∉ text) :
    ∀ c ∈ text, isCaseOf '/' c = false := by
  intro c member
  by_contra slash
  rw [Bool.not_eq_false,isCaseOf_slash] at slash
  exact free (slash ▸ member)

theorem firstAt_class {name : String} (class' : ClassName name) (rest : List Char) :
    firstAt segmentName? ("/sap/bc/adt/oo/classes/".toList ++ (name.toList ++ '/' :: rest)) =
      firstAt segmentName? ('/' :: rest) := by
  have letter : Marked segmentName? 1 (isCaseOf 'm') := segmentName?_marked rfl
  have slash : Marked segmentName? 0 (isCaseOf '/') := segmentName?_marked rfl
  have split : "/sap/bc/adt/oo/classes/".toList ++ (name.toList ++ '/' :: rest) =
      "/sap/bc/adt/oo/classes".toList ++ ('/' :: (name.toList ++ '/' :: rest)) := by
    simp
  rw [split,firstAt_append letter,firstAt_cons (segmentName?_class class' rest),
    firstAt_append slash]
  · rw [List.take_zero,List.append_nil]
    exact isCaseOf_slash_of_notMem (class'.notMem (by decide))
  · have passed : ∀ c ∈ "/sap/bc/adt/oo/classes".toList ++ ['/'], isCaseOf 'm' c = false :=
      List.all_iff_forall_prop.mp (by decide)
    rw [List.take_succ_cons,List.take_zero]
    exact passed

theorem methodName?_segment {name : String} (class' : ClassName name) {method : List Char}
    (nonempty : method ≠ []) (proper : ∀ c ∈ method, isNameChar c = true) (rest : List Char) :
    methodName? ("/sap/bc/adt/oo/classes/".toList ++ (name.toList ++
      ("/methods/".toList ++ (method ++ '#' :: rest)))) = some method := by
  have read : segmentName? ("/methods/".toList ++ (method ++ '#' :: rest)) = some method := by
    rw [segmentName?,dropLiteral?_append _ _ _ (List.all_iff_forall_prop.mp (by decide)),
      Option.bind_some]
    exact run?_append nonempty proper (by simp; decide)
  have found : firstAt segmentName? ("/sap/bc/adt/oo/classes/".toList ++ (name.toList ++
      ("/methods/".toList ++ (method ++ '#' :: rest)))) = some method :=
    (firstAt_class class' _).trans (firstAt_of_head read)
  rw [methodName?,found]

section Parameter
variable {name : String} {method rest : List Char}

/-- No slash of a location with parameters begins a methods segment. -/
theorem segments_parameter (class' : ClassName name) (proper : ∀ c ∈ method, isNameChar c = true)
    (slashless : '/' ∉ rest) :
    firstAt segmentName? ("/sap/bc/adt/oo/classes/".toList ++ (name.toList ++
      ("/source/main#type=CLAS/OM".toList ++ (";name=".toList ++ (method ++ ';' :: rest))))) =
      none := by
  have letter : Marked segmentName? 4 (isCaseOf 'h') := segmentName?_marked rfl
  have slash : Marked segmentName? 0 (isCaseOf '/') := segmentName?_marked rfl
  have noSlash : '/' ∉ method := by
    intro member
    have := proper '/' member
    revert this
    decide
  have split : '/' :: ("source/main#type=CLAS/OM".toList ++
      (";name=".toList ++ (method ++ ';' :: rest))) =
      "/source/main#type=CLAS/".toList ++ ("OM;name=".toList ++ (method ++ ';' :: rest)) := by
    simp
  refine (firstAt_class class' _).trans ((congrArg _ split).trans ?_)
  rw [firstAt_append letter]
  · refine firstAt_eq_none slash _ (isCaseOf_slash_of_notMem ?_)
    simp [noSlash,slashless]
  · have opening : ("OM;name=".toList ++ (method ++ ';' :: rest)).take 4 = "OM;n".toList := rfl
    rw [opening]
    exact List.all_iff_forall_prop.mp (by decide)

theorem parameters_parameter (class' : ClassName name) (nonempty : method ≠ [])
    (proper : ∀ c ∈ method, isNameChar c = true) (rest : List Char) :
    firstAt parameterName? ("/sap/bc/adt/oo/classes/".toList ++ (name.toList ++
      ("/source/main#type=CLAS/OM".toList ++ (";name=".toList ++ (method ++ ';' :: rest))))) =
      some method := by
  have read : parameterName? (';' :: ("name=".toList ++ (method ++ ';' :: rest))) = some method := by
    rw [parameterName?,if_pos (Or.inl rfl),
      dropLiteral?_append _ _ _ (List.all_iff_forall_prop.mp (by decide)),Option.bind_some]
    exact run?_append nonempty proper (by simp; decide)
  rw [firstAt_append parameterName?_marked,firstAt_append parameterName?_marked,
    firstAt_append parameterName?_marked]
  · exact firstAt_of_head read
  · simp
  · intro c member
    rw [List.take_zero,List.append_nil] at member
    by_contra separator
    simp only [Bool.not_eq_false,Bool.or_eq_true,beq_iff_eq] at separator
    rcases separator with (rfl | rfl) | rfl
    · exact class'.notMem (by decide) member
    · exact class'.notMem (by decide) member
    · exact class'.notMem (by decide) member
  · simp

theorem methodName?_parameter (class' : ClassName name) (nonempty : method ≠ [])
    (proper : ∀ c ∈ method, isNameChar c = true) (slashless : '/' ∉ rest) :
    methodName? ("/sap/bc/adt/oo/classes/".toList ++ (name.toList ++
      ("/source/main#type=CLAS/OM".toList ++ (";name=".toList ++ (method ++ ';' :: rest))))) =
      some method := by
  rw [methodName?,segments_parameter class' proper slashless]
  exact parameters_parameter class' nonempty proper rest

end Parameter

/-- Every documented form names the method, up to the case of letters. -/
theorem Form.exists_methodName? {name hint location : String} {line : Nat} {method : List Char}
    (form : Form name hint line location) (class' : ClassName name)
    (spells : Spells hint.toList method) (proper : ∀ c ∈ method, isNameChar c = true)
    (nonempty : method ≠ []) :
    ∃ decoded, methodName? (decode location.toList) = some decoded ∧
      SameLetters decoded method := by
  have unescaped := class'.notMem (c := '%') (by decide)
  cases form with
  | segment column _ digits =>
    have split : ("/sap/bc/adt/oo/classes/" ++ name ++ "/methods/" ++ hint ++ "#start=" ++
        toString line ++ "," ++ column).toList =
        ("/sap/bc/adt/oo/classes/" ++ name ++ "/methods/").toList ++
          (hint.toList ++ ('#' :: ("start=" ++ toString line ++ "," ++ column).toList)) := by
      simp
    obtain ⟨decoded,equal,letters⟩ := spells.decode_append proper
      ('#' :: ("start=" ++ toString line ++ "," ++ column).toList)
    refine ⟨decoded,?_,letters⟩
    have read := methodName?_segment class' (letters.ne_nil nonempty)
      (letters.isNameChar proper)
      (decode ("start=" ++ toString line ++ "," ++ column).toList)
    rw [split,decode_append (by simp [unescaped]),equal,decode_cons (by decide)]
    simpa using read
  | parameter =>
    have split : ("/sap/bc/adt/oo/classes/" ++ name ++ "/source/main#type=CLAS%2FOM;name=" ++ hint ++
        ";start=" ++ toString line).toList =
        ("/sap/bc/adt/oo/classes/" ++ name ++ "/source/main#type=CLAS").toList ++
          ('%' :: '2' :: 'F' :: ("OM;name=".toList ++ (hint.toList ++
            (';' :: ("start=" ++ toString line).toList)))) := by
      simp
    obtain ⟨decoded,equal,letters⟩ := spells.decode_append proper
      (';' :: ("start=" ++ toString line).toList)
    have unescaped' : '%' ∉ ("start=" ++ toString line).toList := by
      simpa using notMem_toString (c := '%') (by decide) line
    have slashless : '/' ∉ ("start=" ++ toString line).toList := by
      simpa using notMem_toString (c := '/') (by decide) line
    have plain := decode_append unescaped' []
    rw [List.append_nil,show decode [] = [] from rfl,List.append_nil] at plain
    refine ⟨decoded,?_,letters⟩
    have read := methodName?_parameter class' (letters.ne_nil nonempty)
      (letters.isNameChar proper) slashless
    rw [split,decode_append (by simp [unescaped]),decode_slash,decode_append (by decide),equal,
      decode_cons (by decide),plain]
    simpa using read

/-- A location of either form hints at the method that it spells. -/
theorem Form.methodHint?_eq {name hint location : String} {line : Nat} {method : List Char}
    (form : Form name hint line location) (class' : ClassName name)
    (spells : Spells hint.toList method) (proper : ∀ c ∈ method, isNameChar c = true)
    (nonempty : method ≠ []) :
    methodHint? location = some (lower (String.ofList method)) := by
  obtain ⟨decoded,read,letters⟩ := form.exists_methodName? class' spells proper nonempty
  rw [methodHint?,read,Option.map_some,lower_eq_of_sameLetters (b := String.ofList method)]
  rw [String.toList_ofList,String.toList_ofList]
  exact letters

end Location
end AbapAtlas

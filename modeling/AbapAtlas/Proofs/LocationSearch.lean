import AbapAtlas.Proofs.Location
import AbapAtlas.Proofs.Text.Keyword

/-! Which occurrence a search in a location finds. A mark with nothing to read directly behind it is
passed over and hides no later one, and a methods segment goes before a name parameter wherever the
two stand. -/
namespace AbapAtlas
open Text

namespace Text

/-- At the head of a text a mark and, directly behind it, a run that goes on for as long as its
characters pass the test. -/
inductive Behind (mark : List Char → Prop) (test : Char → Bool) : List Char → List Char → Prop where
  | run {spelling run after : List Char} (marked : mark spelling) (nonempty : run ≠ [])
      (passes : ∀ c ∈ run, test c = true) (stops : ∀ c ∈ after.head?, test c = false) :
      Behind mark test (spelling ++ (run ++ after)) run

/-- That the run occurs at the leftmost place of the text where any run does. -/
def Leftmost (occurs : List Char → List Char → Prop) (text run : List Char) : Prop :=
  ∃ place, occurs (text.drop place) run ∧
    ∀ earlier < place, ∀ other, ¬ occurs (text.drop earlier) other

def Nowhere (occurs : List Char → List Char → Prop) (text : List Char) : Prop :=
  ∀ place run, ¬ occurs (text.drop place) run

def runValue (run : List Char) : Nat := Nat.ofDigits 10 (run.filterMap digitValue?).reverse

theorem Behind.passes {mark : List Char → Prop} {test : Char → Bool} {text run : List Char}
    (behind : Behind mark test text run) : ∀ c ∈ run, test c = true := by
  cases behind with
  | run _ _ passes _ => exact passes

theorem bind_run?_eq_some_iff {mark : List Char → Prop} {test : Char → Bool}
    {cut : List Char → Option (List Char)}
    (cuts : ∀ text rest, cut text = some rest ↔ ∃ spelling, text = spelling ++ rest ∧ mark spelling)
    (text run : List Char) :
    (cut text).bind (run? test) = some run ↔ Behind mark test text run := by
  rw [Option.bind_eq_some_iff]
  constructor
  · rintro ⟨rest,found,read⟩
    obtain ⟨spelling,rfl,marked⟩ := (cuts text rest).mp found
    obtain ⟨after,rfl,nonempty,passes,stops⟩ := run?_eq_some_iff.mp read
    exact .run marked nonempty passes stops
  · intro behind
    cases behind with
    | @run spelling _ after marked nonempty passes stops =>
      exact ⟨_,(cuts _ _).mpr ⟨spelling,rfl,marked⟩,run?_append nonempty passes stops⟩

section Leftmost
variable {read : List Char → Option (List Char)} {occurs : List Char → List Char → Prop}
  (reads : ∀ text run, read text = some run ↔ occurs text run)
include reads

theorem read_eq_none_iff (text : List Char) : read text = none ↔ ∀ run, ¬ occurs text run := by
  simp only [Option.eq_none_iff_forall_ne_some,ne_eq,reads]

theorem firstAt_eq_some_iff_leftmost (text run : List Char) :
    firstAt read text = some run ↔ Leftmost occurs text run := by
  simp only [firstAt_eq_some_iff,Leftmost,reads,read_eq_none_iff reads]

theorem firstAt_eq_none_iff_nowhere (text : List Char) :
    firstAt read text = none ↔ Nowhere occurs text := by
  simp only [firstAt_eq_none_iff,Nowhere,read_eq_none_iff reads]

end Leftmost

end Text

namespace Location

-- A character of a mark with its case taken off. The long s passes for an s.
def caseless (c : Char) : Char := if c = 'ſ' then 's' else c.toLower

def Segment : List Char → List Char → Prop :=
  Behind (fun spelling => spelling.map caseless = "/methods/".toList) isNameChar

def Parameter : List Char → List Char → Prop :=
  Behind (fun spelling => ∃ separator ∈ [';','?','&'], ∃ key, spelling = separator :: key ∧
    key.map caseless = "name=".toList) isNameChar

def Start : List Char → List Char → Prop :=
  Behind (fun spelling => spelling = "start=".toList) isDigit

def markLetters : List Char := "/=adehmnost".toList

theorem isCaseOf_iff_caseless {letter : Char} (inMark : letter ∈ markLetters) (c : Char) :
    isCaseOf letter c = true ↔ caseless c = letter := by
  refine isCaseOf_iff_spell (by decide) ?_ (List.all_iff_forall_prop.mp (by decide)) inMark c
  intro c ordinary
  rw [caseless,if_neg (by rintro rfl; simp [specialCases] at ordinary)]

theorem dropLiteral?_mark_iff {mark : List Char} (letters : mark ⊆ markLetters)
    (text rest : List Char) :
    dropLiteral? isCaseOf mark text = some rest ↔
      ∃ spelling, text = spelling ++ rest ∧ spelling.map caseless = mark :=
  dropLiteral?_eq_some_iff (fun _ member => isCaseOf_iff_caseless (letters member)) text rest

theorem nameBehind_eq_some_iff {mark : List Char} (letters : mark ⊆ markLetters)
    (text name : List Char) :
    (dropLiteral? isCaseOf mark text).bind (run? isNameChar) = some name ↔
      Behind (fun spelling => spelling.map caseless = mark) isNameChar text name :=
  bind_run?_eq_some_iff (dropLiteral?_mark_iff letters) text name

theorem segmentName?_eq_some_iff (text name : List Char) :
    segmentName? text = some name ↔ Segment text name :=
  nameBehind_eq_some_iff (by decide) text name

theorem parameterName?_eq_some_iff (text name : List Char) :
    parameterName? text = some name ↔ Parameter text name := by
  have letters : "name=".toList ⊆ markLetters := by decide
  constructor
  · intro found
    cases text with
    | nil => cases found
    | cons c rest =>
      rw [parameterName?] at found
      split at found
      · next separator =>
        have behind := (nameBehind_eq_some_iff letters rest name).mp found
        cases behind with
        | @run key _ after spelled nonempty passes stops =>
          have parameter : Parameter ((c :: key) ++ (name ++ after)) name :=
            .run ⟨c,by simpa using separator,key,rfl,spelled⟩ nonempty passes stops
          exact parameter
      · cases found
  · intro parameter
    cases parameter with
    | @run spelling _ after marked nonempty passes stops =>
      obtain ⟨separator,member,key,rfl,spelled⟩ := marked
      have separates : separator = ';' ∨ separator = '?' ∨ separator = '&' := by simpa using member
      rw [List.cons_append,parameterName?,if_pos separates]
      exact (nameBehind_eq_some_iff letters _ _).mpr (.run spelled nonempty passes stops)

theorem methodName?_eq_some_iff (text name : List Char) :
    methodName? text = some name ↔
      Leftmost Segment text name ∨ Nowhere Segment text ∧ Leftmost Parameter text name := by
  rw [← firstAt_eq_some_iff_leftmost segmentName?_eq_some_iff,
    ← firstAt_eq_none_iff_nowhere segmentName?_eq_some_iff,
    ← firstAt_eq_some_iff_leftmost parameterName?_eq_some_iff,methodName?]
  cases firstAt segmentName? text with
  | none => simp
  | some other => simp

theorem methodName?_eq_none_iff (text : List Char) :
    methodName? text = none ↔ Nowhere Segment text ∧ Nowhere Parameter text := by
  rw [← firstAt_eq_none_iff_nowhere segmentName?_eq_some_iff,
    ← firstAt_eq_none_iff_nowhere parameterName?_eq_some_iff,methodName?]
  cases firstAt segmentName? text with
  | none => simp
  | some other => simp

def startRun? (text : List Char) : Option (List Char) :=
  (dropLiteral? (· == ·) "start=".toList text).bind (run? isDigit)

theorem startRun?_eq_some_iff (text run : List Char) :
    startRun? text = some run ↔ Start text run := by
  refine bind_run?_eq_some_iff (fun text rest => ?_) text run
  have same : ∀ l ∈ "start=".toList, ∀ c, (l == c) = true ↔ id c = l :=
    fun _ _ _ => beq_iff_eq.trans eq_comm
  have cut := dropLiteral?_eq_some_iff same text rest
  simpa only [List.map_id] using cut

theorem startDigits?_eq (text : List Char) :
    startDigits? text = (startRun? text).map (·.filterMap digitValue?) := by
  rw [startDigits?,startRun?,Option.map_eq_bind,Option.bind_assoc]
  rfl

theorem firstAt_startDigits? (text : List Char) :
    firstAt startDigits? text = (firstAt startRun? text).map (·.filterMap digitValue?) := by
  rw [funext startDigits?_eq,firstAt_map]

theorem startLine_of_nowhere {location : String} (nowhere : Nowhere Start location.toList) :
    startLine location = .ok 1 := by
  rw [← firstAt_eq_none_iff_nowhere startRun?_eq_some_iff] at nowhere
  rw [startLine,firstAt_startDigits?,nowhere,Option.map_none]

theorem startLine_of_leftmost {location : String} {run : List Char}
    (leftmost : Leftmost Start location.toList run) :
    startLine location = if run.length ≤ digitLimit then .ok (max 1 (runValue run))
      else .error (.tooLongToRead run.length) := by
  have digits : ∀ c ∈ run, isDigit c = true := by
    obtain ⟨place,occurs,_⟩ := leftmost
    exact Behind.passes occurs
  rw [← firstAt_eq_some_iff_leftmost startRun?_eq_some_iff] at leftmost
  rw [startLine,firstAt_startDigits?,leftmost,Option.map_some]
  simp only [readDigits,length_filterMap_digitValue? digits,ofDigits_eq_reverse]
  split
  · rfl
  · rfl

theorem exists_startLine_of_short {location : String}
    (short : ∀ run, Leftmost Start location.toList run → run.length ≤ digitLimit) :
    ∃ line, startLine location = .ok line ∧ 1 ≤ line := by
  cases found : firstAt startRun? location.toList with
  | none =>
    rw [firstAt_eq_none_iff_nowhere startRun?_eq_some_iff] at found
    exact ⟨1,startLine_of_nowhere found,Nat.le_refl 1⟩
  | some run =>
    rw [firstAt_eq_some_iff_leftmost startRun?_eq_some_iff] at found
    refine ⟨max 1 (runValue run),?_,Nat.le_max_left 1 _⟩
    rw [startLine_of_leftmost found,if_pos (short run found)]

/-- The method that a location names is that of the leftmost methods segment with a name, only if
there is none that of the leftmost name parameter with one, and there is no other; its line is the
number at the leftmost start mark with one, but never less than one. -/
theorem searches_leftmost (location : String) :
    (∀ hint, methodHint? location = some hint ↔ ∃ name, lower (String.ofList name) = hint ∧
      (Leftmost Segment (Percent.decode location.toList) name ∨
        Nowhere Segment (Percent.decode location.toList) ∧
          Leftmost Parameter (Percent.decode location.toList) name)) ∧
    (methodHint? location = none ↔ Nowhere Segment (Percent.decode location.toList) ∧
      Nowhere Parameter (Percent.decode location.toList)) ∧
    (∀ run, Leftmost Start location.toList run → run.length ≤ digitLimit →
      startLine location = .ok (if 1 ≤ runValue run then runValue run else 1)) ∧
    (Nowhere Start location.toList → startLine location = .ok 1) ∧
    ((∀ run, Leftmost Start location.toList run → run.length ≤ digitLimit) →
      ∃ line, startLine location = .ok line ∧ 1 ≤ line) := by
  refine ⟨fun hint => ?_,?_,fun run leftmost short => ?_,startLine_of_nowhere,
    exists_startLine_of_short⟩
  · rw [methodHint?,Option.map_eq_some_iff]
    simp only [methodName?_eq_some_iff,and_comm]
  · rw [methodHint?,Option.map_eq_none_iff,methodName?_eq_none_iff]
  · rw [startLine_of_leftmost leftmost,if_pos short,Nat.max_def]

section Example

def crowdedLocation : String :=
  ";name=first/methods//METHOD%C5%BF/Do_It#start=;start=0\u0662,0;start=9"

def parameterLocation : String := "/methods/#classname=zcl?name=;NAME=Größe;start=000"

theorem later_marks_found :
    methodHint? crowdedLocation = some "do_it" ∧ startLine crowdedLocation = .ok 2 ∧
    methodHint? parameterLocation = some "größe" ∧ startLine parameterLocation = .ok 1 := by
  obtain ⟨hint,_,line,_⟩ := searches_leftmost crowdedLocation
  obtain ⟨hint',_,line',_⟩ := searches_leftmost parameterLocation
  have segment := (firstAt_eq_some_iff_leftmost segmentName?_eq_some_iff
    (Percent.decode crowdedLocation.toList) "Do_It".toList).mp (by decide +kernel)
  have start := (firstAt_eq_some_iff_leftmost startRun?_eq_some_iff
    crowdedLocation.toList ['0','\u0662']).mp (by decide +kernel)
  have nowhere := (firstAt_eq_none_iff_nowhere segmentName?_eq_some_iff
    (Percent.decode parameterLocation.toList)).mp (by decide +kernel)
  have parameter := (firstAt_eq_some_iff_leftmost parameterName?_eq_some_iff
    (Percent.decode parameterLocation.toList) "Größe".toList).mp (by decide +kernel)
  have start' := (firstAt_eq_some_iff_leftmost startRun?_eq_some_iff
    parameterLocation.toList "000".toList).mp (by decide +kernel)
  refine ⟨(hint _).mpr ⟨_,?_,.inl segment⟩,?_,(hint' _).mpr ⟨_,?_,.inr ⟨nowhere,parameter⟩⟩,?_⟩
  · decide +kernel
  · rw [line _ start (by decide)]
    decide +kernel
  · decide +kernel
  · rw [line' _ start' (by decide)]
    decide +kernel

end Example

end Location
end AbapAtlas

import AbapAtlas.MethodBlock
import AbapAtlas.Proofs.Text.Search
import Mathlib.Data.List.Basic

/-! Which method blocks a source has. A block is found exactly where a METHOD line is followed by
an ENDMETHOD line with neither in between, and the blocks found follow one another. -/
namespace AbapAtlas.MethodBlock
open Text

def Closes (markers : List Marker) (n : Nat) : Prop :=
  markers[n]? = some .ends ∧ ∀ i, i < n → markers[i]? = some .neither

def Occurs (markers : List Marker) (i : Nat) (name : String) (n : Nat) : Prop :=
  -- That a block of the name begins `i` lines from the head of a list, and ends `n + 1` lines
  -- later.
  markers[i]? = some (.begins name) ∧ Closes (markers.drop (i + 1)) n

theorem closes_cons_zero (marker : Marker) (rest : List Marker) :
    Closes (marker :: rest) 0 ↔ marker = .ends := by
  simp [Closes]

theorem closes_cons_succ (marker : Marker) (rest : List Marker) (n : Nat) :
    Closes (marker :: rest) (n + 1) ↔ marker = .neither ∧ Closes rest n := by
  constructor
  · rintro ⟨last,before⟩
    refine ⟨by simpa using before 0 (by omega),by simpa using last,?_⟩
    intro i below
    simpa using before (i + 1) (by omega)
  · rintro ⟨rfl,last,before⟩
    refine ⟨by simpa using last,?_⟩
    intro i below
    cases i with
    | zero => rfl
    | succ i => simpa using before i (by omega)

theorem occurs_cons_zero (marker : Marker) (rest : List Marker) (name : String) (n : Nat) :
    Occurs (marker :: rest) 0 name n ↔ marker = .begins name ∧ Closes rest n := by
  simp [Occurs]

theorem occurs_cons_succ (marker : Marker) (rest : List Marker) (i : Nat) (name : String)
    (n : Nat) : Occurs (marker :: rest) (i + 1) name n ↔ Occurs rest i name n := by
  simp [Occurs]

def Open (pending : Option (String × Nat)) (line : Nat) (markers : List Marker)
    (block : MethodBlock) : Prop :=
  ∃ name start n, pending = some (name,start) ∧ Closes markers n ∧
    block = ⟨name,start,(line + n : Nat) - start + 1⟩

def Whole (line : Nat) (markers : List Marker) (block : MethodBlock) : Prop :=
  ∃ i name n, Occurs markers i name n ∧ block = ⟨name,(line + i : Nat),(n + 2 : Nat)⟩

theorem open_none (line : Nat) (markers : List Marker) (block : MethodBlock) :
    ¬ Open none line markers block := by
  rintro ⟨_,_,_,same,_⟩
  cases same

theorem open_begun (name : String) (line : Nat) (markers : List Marker) (block : MethodBlock) :
    Open (some (name,line)) (line + 1) markers block ↔
      ∃ n, Closes markers n ∧ block = ⟨name,line,(n + 2 : Nat)⟩ := by
  have length (n : Nat) : ((line + 1 + n : Nat) : Int) - line + 1 = (n + 2 : Nat) := by omega
  constructor
  · rintro ⟨_,_,n,same,closes,rfl⟩
    cases same
    exact ⟨n,closes,by rw [length]⟩
  · rintro ⟨n,closes,rfl⟩
    exact ⟨name,line,n,rfl,closes,by rw [length]⟩

theorem open_cons (pending : Option (String × Nat)) (line : Nat) (marker : Marker)
    (rest : List Marker) (block : MethodBlock) :
    Open pending line (marker :: rest) block ↔
      (marker = .ends ∧ ∃ name start, pending = some (name,start) ∧
        block = ⟨name,start,line - start + 1⟩) ∨
      (marker = .neither ∧ Open pending (line + 1) rest block) := by
  have moved (n : Nat) : line + 1 + n = line + (n + 1) := by omega
  constructor
  · rintro ⟨name,start,n,same,closes,rfl⟩
    cases n with
    | zero => exact Or.inl ⟨(closes_cons_zero _ _).mp closes,name,start,same,rfl⟩
    | succ n =>
      obtain ⟨neither,closes⟩ := (closes_cons_succ _ _ _).mp closes
      exact Or.inr ⟨neither,name,start,n,same,closes,by rw [moved]⟩
  · rintro (⟨ends,name,start,same,rfl⟩ | ⟨neither,name,start,n,same,closes,rfl⟩)
    · exact ⟨name,start,0,same,(closes_cons_zero _ _).mpr ends,rfl⟩
    · exact ⟨name,start,n + 1,same,(closes_cons_succ _ _ _).mpr ⟨neither,closes⟩,by rw [moved]⟩

theorem whole_cons (line : Nat) (marker : Marker) (rest : List Marker) (block : MethodBlock) :
    Whole line (marker :: rest) block ↔
      (∃ name n, marker = .begins name ∧ Closes rest n ∧ block = ⟨name,line,(n + 2 : Nat)⟩) ∨
      Whole (line + 1) rest block := by
  have moved (i : Nat) : line + 1 + i = line + (i + 1) := by omega
  constructor
  · rintro ⟨i,name,n,occurs,rfl⟩
    cases i with
    | zero =>
      obtain ⟨begins,closes⟩ := (occurs_cons_zero _ _ _ _).mp occurs
      exact Or.inl ⟨name,n,begins,closes,rfl⟩
    | succ i =>
      exact Or.inr ⟨i,name,n,(occurs_cons_succ _ _ _ _ _).mp occurs,by rw [moved]⟩
  · rintro (⟨name,n,begins,closes,rfl⟩ | ⟨i,name,n,occurs,rfl⟩)
    · exact ⟨0,name,n,(occurs_cons_zero _ _ _ _).mpr ⟨begins,closes⟩,rfl⟩
    · exact ⟨i + 1,name,n,(occurs_cons_succ _ _ _ _ _).mpr occurs,by rw [moved]⟩

/-- What a scan finds: the block that is open at its start, if an end comes next, and the blocks
that occur from there on. -/
theorem mem_scanFrom_iff (pending : Option (String × Nat)) (line : Nat) (markers : List Marker)
    (block : MethodBlock) :
    block ∈ scanFrom pending line markers ↔
      Open pending line markers block ∨ Whole line markers block := by
  induction markers generalizing pending line with
  | nil => simp [scanFrom,Open,Whole,Closes,Occurs]
  | cons marker rest ih =>
    rw [open_cons,whole_cons]
    cases marker with
    | begins name =>
      rw [scanFrom,ih,open_begun]
      simp
    | neither =>
      rw [scanFrom,ih]
      simp
    | ends =>
      -- An end uses up the open block, so the scan of the rest has none.
      have later : block ∈ scanFrom none (line + 1) rest ↔ Whole (line + 1) rest block := by
        rw [ih]
        exact or_iff_right (open_none _ _ _)
      cases pending with
      | none =>
        rw [scanFrom,later]
        simp
      | some opened =>
        obtain ⟨name,start⟩ := opened
        rw [scanFrom,List.mem_cons,later]
        simp

/-- The blocks of a scan follow one another, each after the end of the one before. -/
theorem scanFrom_pairwise (pending : Option (String × Nat)) (line : Nat)
    (markers : List Marker) :
    (scanFrom pending line markers).Pairwise (fun a b => a.endLine < b.startLine) := by
  induction markers generalizing pending line with
  | nil => exact List.Pairwise.nil
  | cons marker rest ih =>
    cases marker with
    | begins name => exact ih _ _
    | neither => exact ih _ _
    | ends =>
      cases pending with
      | none => exact ih _ _
      | some opened =>
        refine List.Pairwise.cons ?_ (ih none (line + 1))
        intro block member
        obtain ⟨_,_,_,same,_⟩ | ⟨i,name,n,_,rfl⟩ := (mem_scanFrom_iff _ _ _ _).mp member
        · cases same
        · simp only [endLine]
          omega

def line? (lines : List String) (n : Nat) : Option (List Char) :=
  if n = 0 then none else lines[n - 1]?.map String.toList

/-- That a METHOD statement of the name stands in line `first`, and that of the lines behind it the
next one with a METHOD or an ENDMETHOD statement is line `last` and ends the method. -/
structure Spans (lines : List String) (name : List Char) (first last : Nat) : Prop where
  order : first < last
  begins : (line? lines first).bind beginName? = some name
  between : ∀ n, first < n → n < last → ∀ line, line? lines n = some line →
    beginName? line = none ∧ endsMethod line = false
  ends : (line? lines last).map endsMethod = some true

theorem beginName?_eq_some {line name : List Char} (found : beginName? line = some name) :
    name ≠ [] ∧ ∀ c ∈ name, isNameChar c = true := by
  obtain ⟨rest,_,found⟩ := Option.bind_eq_some_iff.mp found
  obtain ⟨_,_,found⟩ := Option.bind_eq_some_iff.mp found
  exact run?_eq_some found

theorem Spans.proper {lines : List String} {method : List Char} {first last : Nat}
    (spans : Spans lines method first last) :
    method ≠ [] ∧ ∀ c ∈ method, isNameChar c = true := by
  obtain ⟨line,_,found⟩ := Option.bind_eq_some_iff.mp spans.begins
  exact beginName?_eq_some found

theorem Spans.bounds {lines : List String} {method : List Char} {first last : Nat}
    (spans : Spans lines method first last) : 0 < first ∧ last ≤ lines.length := by
  constructor
  · rw [Nat.pos_iff_ne_zero]
    rintro rfl
    simpa [line?] using spans.begins
  · obtain ⟨line,found,_⟩ := Option.map_eq_some_iff.mp spans.ends
    rw [line?] at found
    split at found
    · cases found
    · obtain ⟨_,found,_⟩ := Option.map_eq_some_iff.mp found
      have := (List.getElem?_eq_some_iff.mp found).1
      omega

theorem line?_succ (lines : List String) (i : Nat) :
    line? lines (i + 1) = lines[i]?.map String.toList := by
  simp [line?]

theorem beginName?_of_endsMethod (line : List Char) (ends : endsMethod line = true) :
    beginName? line = none := by
  unfold endsMethod at ends
  unfold beginName?
  generalize line.dropWhile isBlank = text at ends ⊢
  cases text with
  | nil => cases ends
  | cons c rest =>
    have first : isCaseOf 'e' c = true := by
      by_contra other
      simp [dropLiteral?,other] at ends
    have letter : c = 'e' ∨ c = 'E' := by
      simpa [isCaseOf] using first
    have other : isCaseOf 'm' c = false := by
      rcases letter with rfl | rfl <;> rfl
    simp [dropLiteral?,other]

theorem ofLine_eq_begins_iff (line : String) (name : String) :
    Marker.ofLine line = .begins name ↔
      ∃ spelling, beginName? line.toList = some spelling ∧
        lower (String.ofList spelling) = name := by
  unfold Marker.ofLine
  cases beginName? line.toList with
  | none => cases endsMethod line.toList <;> simp
  | some spelling => simp

theorem ofLine_eq_ends_iff (line : String) :
    Marker.ofLine line = .ends ↔ endsMethod line.toList = true := by
  unfold Marker.ofLine
  cases ends : endsMethod line.toList with
  | false => cases beginName? line.toList <;> simp
  | true => simp [beginName?_of_endsMethod _ ends]

theorem ofLine_eq_neither_iff (line : String) :
    Marker.ofLine line = .neither ↔
      beginName? line.toList = none ∧ endsMethod line.toList = false := by
  unfold Marker.ofLine
  cases beginName? line.toList with
  | none => cases endsMethod line.toList <;> simp
  | some spelling => simp

theorem lt_length_of_line? {lines : List String} {i : Nat} {line : List Char}
    (found : line? lines (i + 1) = some line) : i < lines.length := by
  rw [line?_succ] at found
  obtain ⟨_,present,_⟩ := Option.map_eq_some_iff.mp found
  exact (List.getElem?_eq_some_iff.mp present).1

theorem marker_eq_begins_iff (lines : List String) (i : Nat) (name : String) :
    (lines.map Marker.ofLine)[i]? = some (.begins name) ↔
      ∃ spelling, lower (String.ofList spelling) = name ∧
        (line? lines (i + 1)).bind beginName? = some spelling := by
  rw [line?_succ,List.getElem?_map]
  cases lines[i]? with
  | none => simp
  | some line => simp [ofLine_eq_begins_iff,and_comm]

theorem marker_eq_ends_iff (lines : List String) (i : Nat) :
    (lines.map Marker.ofLine)[i]? = some .ends ↔
      (line? lines (i + 1)).map endsMethod = some true := by
  rw [line?_succ,List.getElem?_map]
  cases lines[i]? with
  | none => simp
  | some line => simp [ofLine_eq_ends_iff]

theorem marker_eq_neither_iff {lines : List String} {i : Nat} (present : i < lines.length) :
    (lines.map Marker.ofLine)[i]? = some .neither ↔
      ∀ line, line? lines (i + 1) = some line →
        beginName? line = none ∧ endsMethod line = false := by
  rw [line?_succ,List.getElem?_map,List.getElem?_eq_getElem present]
  simp [ofLine_eq_neither_iff]

/-- Markers and the lines that they are made of tell of the same blocks. -/
theorem occurs_iff_spans (lines : List String) (i n : Nat) (name : String) :
    Occurs (lines.map Marker.ofLine) i name n ↔
      ∃ spelling, lower (String.ofList spelling) = name ∧
        Spans lines spelling (i + 1) (i + n + 2) := by
  have behind (j : Nat) : i + 1 + j + 1 = i + j + 2 := by omega
  rw [Occurs,Closes,marker_eq_begins_iff]
  simp only [List.getElem?_drop,marker_eq_ends_iff,behind]
  constructor
  · rintro ⟨⟨spelling,same,begins⟩,ends,between⟩
    refine ⟨spelling,same,by omega,begins,?_,ends⟩
    intro m above below line found
    obtain ⟨j,rfl⟩ : ∃ j, m = i + j + 2 := ⟨m - i - 2,by omega⟩
    rw [← behind] at found
    exact (marker_eq_neither_iff (lt_length_of_line? found)).mp (between j (by omega)) line found
  · rintro ⟨spelling,same,_,begins,between,ends⟩
    refine ⟨⟨spelling,same,begins⟩,ends,?_⟩
    intro j below
    obtain ⟨last,found,_⟩ := Option.map_eq_some_iff.mp ends
    rw [← behind] at found
    have inside := lt_length_of_line? found
    rw [marker_eq_neither_iff (by omega),behind]
    exact between (i + j + 2) (by omega) (by omega)

/-- A scan finds a block for every METHOD statement that is ended, and nothing else. -/
theorem mem_scan_iff (lines : List String) (block : MethodBlock) :
    block ∈ scan lines ↔
      ∃ spelling first last, Spans lines spelling first last ∧
        block = ⟨lower (String.ofList spelling),first,last - first + 1⟩ := by
  rw [scan,mem_scanFrom_iff]
  constructor
  · rintro (⟨_,_,_,same,_⟩ | ⟨i,name,n,occurs,rfl⟩)
    · cases same
    · obtain ⟨spelling,rfl,spans⟩ := (occurs_iff_spans _ _ _ _).mp occurs
      refine ⟨spelling,i + 1,i + n + 2,spans,?_⟩
      simp only [mk.injEq,true_and]
      omega
  · rintro ⟨spelling,first,last,spans,rfl⟩
    have positive : first ≠ 0 := by
      rintro rfl
      simpa [line?] using spans.begins
    have order := spans.order
    obtain ⟨i,n,rfl,rfl⟩ : ∃ i n, first = i + 1 ∧ last = i + n + 2 :=
      ⟨first - 1,last - first - 1,by omega,by omega⟩
    refine Or.inr ⟨i,_,n,(occurs_iff_spans _ _ _ _).mpr ⟨spelling,rfl,spans⟩,?_⟩
    simp only [mk.injEq,true_and]
    omega

theorem find?_scan (lines : List String) (spelling : List Char) (first last : Nat)
    (spans : Spans lines spelling first last)
    (foremost : ∀ other first' last', Spans lines other first' last' → first' < first →
      lower (String.ofList other) ≠ lower (String.ofList spelling)) :
    (scan lines).find? (fun block => block.name == lower (String.ofList spelling)) =
      some ⟨lower (String.ofList spelling),first,last - first + 1⟩ := by
  have member := (mem_scan_iff lines _).mpr ⟨spelling,first,last,spans,rfl⟩
  obtain ⟨earlier,later,split⟩ := List.append_of_mem member
  refine List.find?_eq_some_iff_append.mpr ⟨by simp,earlier,later,split,?_⟩
  intro block among
  have follows : block.endLine < first := by
    have ordered := scanFrom_pairwise none 1 (lines.map Marker.ofLine)
    rw [← scan,split,List.pairwise_append] at ordered
    exact ordered.2.2 block among _ List.mem_cons_self
  have found : block ∈ scan lines := by
    rw [split]
    exact List.mem_append_left _ among
  obtain ⟨other,first',last',spans',rfl⟩ := (mem_scan_iff _ _).mp found
  have order := spans'.order
  have differs := foremost other first' last' spans' (by simp only [endLine] at follows; omega)
  simpa using differs

end AbapAtlas.MethodBlock

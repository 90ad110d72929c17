import AbapAtlas.Report

/-! Sessions remember only what is so. On a disk that stays as it is, every entry of a session is
what a fresh reading gives, so no answer depends on what has been asked before. -/
namespace AbapAtlas

namespace Session

theorem readLines_eq (disk : Disk) (path : Path) : readLines disk path =
    match disk.content path with
    | .ok content => .ok ((String.fromUTF8? content).map Text.lines)
    | .error .nullInName => .error .nullInName
    | .error _ => .ok none := by
  rw [readLines,readLinesOn,Host.canName_plain,Host.content_plain,if_neg Bool.true_eq_false.mp]
  rcases disk.content path with trouble | content
  · cases trouble <;> rfl
  · rfl

def readBlocks (disk : Disk) (path : Path) : Except Trouble (Option (List MethodBlock)) :=
  (readLines disk path).map (Option.map MethodBlock.scan)

structure Faithful (disk : Disk) (session : Session) : Prop where
  files : ∀ path found, session.files.lookup path = some found →
    readLines disk (session.fullPath path) = .ok found
  blocks : ∀ path found, session.blocks.lookup path = some found →
    readBlocks disk (session.fullPath path) = .ok found

theorem faithful_fresh (disk : Disk) (base : Option Path) : Faithful disk { base } := by
  constructor
  · intro path found known
    cases known
  · intro path found known
    cases known

theorem fullPath_of_base {a b : Session} (same : a.base = b.base) (path : String) :
    a.fullPath path = b.fullPath path := by
  rw [fullPath,fullPath,same]

section Put
variable {α : Type} (entries : List (String × α)) (key : String) (value : α)

def put : List (String × α) :=
  if (entries.lookup key).isSome then
    entries.map (fun entry => if entry.1 = key then (key,value) else entry)
  else entries ++ [(key,value)]

theorem lookup_put_self : (put entries key value).lookup key = some value := by
  unfold put
  split
  · next known =>
    induction entries with
    | nil => cases known
    | cons entry rest ih =>
      rw [List.map_cons,List.lookup_cons]
      by_cases same : entry.1 = key
      · simp [same]
      · rw [if_neg same,beq_false_of_ne (Ne.symm same)]
        rw [List.lookup_cons,beq_false_of_ne (Ne.symm same)] at known
        exact ih known
  · next unknown =>
    rw [Bool.not_eq_true,Option.isSome_eq_false_iff,Option.isNone_iff_eq_none] at unknown
    rw [List.lookup_append,unknown]
    simp

theorem lookup_put_of_ne {other : String} (different : other ≠ key) :
    (put entries key value).lookup other = entries.lookup other := by
  unfold put
  split
  · next known =>
    clear known
    induction entries with
    | nil => rfl
    | cons entry rest ih =>
      rw [List.map_cons,List.lookup_cons,List.lookup_cons,ih]
      by_cases same : entry.1 = key
      · rw [if_pos same,same,beq_false_of_ne different]
      · rw [if_neg same]
  · rw [List.lookup_append,List.lookup_cons,beq_false_of_ne different]
    simp

theorem put_of_unknown {entries : List (String × α)} {key : String}
    (unknown : entries.lookup key = none) (value : α) :
    put entries key value = entries ++ [(key,value)] := by
  simp [put,unknown]

theorem lookup_put_cases {other : String} {found : α}
    (known : (put entries key value).lookup other = some found) :
    entries.lookup other = some found ∨ other = key ∧ found = value := by
  by_cases same : other = key
  · rw [same,lookup_put_self] at known
    cases known
    exact Or.inr ⟨same,rfl⟩
  · rw [lookup_put_of_ne _ _ _ same] at known
    exact Or.inl known

end Put

def keepLines (session : Session) (path : String) (found : Option (List String)) : Session :=
  { session with files := put session.files path found }

def keepBlocks (session : Session) (path : String) (blocks : Option (List MethodBlock)) : Session :=
  { session with blocks := put session.blocks path blocks }

def countRead (session : Session) : Session := { session with reads := session.reads + 1 }

section
variable {disk : Disk} {session : Session}

theorem Faithful.countRead (faithful : Faithful disk session) :
    Faithful disk session.countRead :=
  ⟨faithful.files,faithful.blocks⟩

theorem Faithful.keepLines (faithful : Faithful disk session) {path : String}
    {found : Option (List String)} (read : readLines disk (session.fullPath path) = .ok found) :
    Faithful disk (session.keepLines path found) := by
  refine ⟨?_,faithful.blocks⟩
  intro other stored known
  rcases lookup_put_cases _ _ _ known with known | ⟨rfl,rfl⟩
  · exact faithful.files other stored known
  · exact read

theorem Faithful.keepBlocks (faithful : Faithful disk session) {path : String}
    {blocks : Option (List MethodBlock)}
    (read : readBlocks disk (session.fullPath path) = .ok blocks) :
    Faithful disk (session.keepBlocks path blocks) := by
  refine ⟨faithful.files,?_⟩
  intro other stored known
  rcases lookup_put_cases _ _ _ known with known | ⟨rfl,rfl⟩
  · exact faithful.blocks other stored known
  · exact read

end

section
variable {ε : Type} (read : Path → Except ε (Option (List String))) (session : Session)
  (path : String)

theorem linesBy_cases :
    (∃ found, session.files.lookup path = some found ∧
      session.linesBy read path = (.ok found,session)) ∨
    session.files.lookup path = none ∧
      ((∃ found, read (session.fullPath path) = .ok found ∧
        session.linesBy read path = (.ok found,session.countRead.keepLines path found)) ∨
      ∃ error, read (session.fullPath path) = .error error ∧
        session.linesBy read path = (.error error,session.countRead)) := by
  unfold linesBy
  cases known : session.files.lookup path with
  | some found => exact Or.inl ⟨found,rfl,rfl⟩
  | none =>
    refine Or.inr ⟨rfl,?_⟩
    cases read (session.fullPath path) with
    | ok found =>
      refine Or.inl ⟨found,rfl,?_⟩
      simp only [Session.keepLines,Session.countRead,put_of_unknown known]
    | error error => exact Or.inr ⟨error,rfl,rfl⟩

/-- Blocks are remembered, or made of lines that are asked for, or refused as these are. -/
theorem blocksBy_cases :
    (∃ blocks, session.blocks.lookup path = some blocks ∧
      session.blocksBy read path = (.ok blocks,session)) ∨
    session.blocks.lookup path = none ∧
      ((∃ found, (session.linesBy read path).1 = .ok found ∧
        session.blocksBy read path = (.ok (found.map MethodBlock.scan),
          (session.linesBy read path).2.keepBlocks path (found.map MethodBlock.scan))) ∨
      ∃ error, (session.linesBy read path).1 = .error error ∧
        session.blocksBy read path = (.error error,(session.linesBy read path).2)) := by
  unfold blocksBy
  cases known : session.blocks.lookup path with
  | some blocks => exact Or.inl ⟨blocks,rfl,rfl⟩
  | none =>
    refine Or.inr ⟨rfl,?_⟩
    have kept : (session.linesBy read path).2.blocks = session.blocks := by
      obtain ⟨_,_,same⟩ | ⟨_,⟨_,_,same⟩ | ⟨_,_,same⟩⟩ := linesBy_cases read session path
      · rw [same]
      · rw [same]
        rfl
      · rw [same]
        rfl
    rcases step : session.linesBy read path with ⟨error | found,later⟩
    · exact Or.inr ⟨error,rfl,rfl⟩
    · rw [step] at kept
      refine Or.inl ⟨found,rfl,?_⟩
      simp only [Session.keepBlocks,put_of_unknown (kept ▸ known)]

end

section
variable {disk : Disk} {session : Session}

theorem linesOf_cases (disk : Disk) (session : Session) (path : String) :
    (∃ found, session.files.lookup path = some found ∧
      session.linesOf disk path = (.ok found,session)) ∨
    session.files.lookup path = none ∧
      ((∃ found, readLines disk (session.fullPath path) = .ok found ∧
        session.linesOf disk path = (.ok found,session.countRead.keepLines path found)) ∨
      ∃ trouble, readLines disk (session.fullPath path) = .error trouble ∧
        session.linesOf disk path = (.error trouble,session.countRead)) :=
  linesBy_cases (readLines disk) session path

theorem blocksOf_cases (disk : Disk) (session : Session) (path : String) :
    (∃ blocks, session.blocks.lookup path = some blocks ∧
      session.blocksOf disk path = (.ok blocks,session)) ∨
    session.blocks.lookup path = none ∧
      ((∃ found, (session.linesOf disk path).1 = .ok found ∧
        session.blocksOf disk path = (.ok (found.map MethodBlock.scan),
          (session.linesOf disk path).2.keepBlocks path (found.map MethodBlock.scan))) ∨
      ∃ trouble, (session.linesOf disk path).1 = .error trouble ∧
        session.blocksOf disk path = (.error trouble,(session.linesOf disk path).2)) :=
  blocksBy_cases (readLines disk) session path

theorem Faithful.linesOf (faithful : Faithful disk session) (path : String) :
    (session.linesOf disk path).1 = readLines disk (session.fullPath path) ∧
      Faithful disk (session.linesOf disk path).2 ∧
      (session.linesOf disk path).2.base = session.base := by
  obtain ⟨found,known,same⟩ | ⟨_,⟨found,read,same⟩ | ⟨trouble,read,same⟩⟩ :=
    session.linesOf_cases disk path
  · rw [same]
    exact ⟨(faithful.files path found known).symm,faithful,rfl⟩
  · rw [same,read]
    exact ⟨rfl,faithful.countRead.keepLines read,rfl⟩
  · rw [same,read]
    exact ⟨rfl,faithful.countRead,rfl⟩

theorem Faithful.blocksOf (faithful : Faithful disk session) (path : String) :
    (session.blocksOf disk path).1 = readBlocks disk (session.fullPath path) ∧
      Faithful disk (session.blocksOf disk path).2 ∧
      (session.blocksOf disk path).2.base = session.base := by
  obtain ⟨read,later,base⟩ := faithful.linesOf path
  obtain ⟨found,known,same⟩ | ⟨_,⟨found,lines,same⟩ | ⟨trouble,lines,same⟩⟩ :=
    session.blocksOf_cases disk path
  · rw [same]
    exact ⟨(faithful.blocks path found known).symm,faithful,rfl⟩
  · have blocks : readBlocks disk (session.fullPath path) = .ok (found.map MethodBlock.scan) := by
      rw [readBlocks,← read,lines]
      rfl
    rw [same]
    refine ⟨blocks.symm,later.keepBlocks ?_,base⟩
    rw [fullPath_of_base base]
    exact blocks
  · rw [same,readBlocks,← read,lines]
    exact ⟨rfl,later,base⟩

end
structure Grows (a b : Session) : Prop where
  base : b.base = a.base
  files : ∀ path, (a.files.lookup path).isSome → (b.files.lookup path).isSome
  blocks : ∀ path, (a.blocks.lookup path).isSome → (b.blocks.lookup path).isSome

theorem Grows.refl (session : Session) : Grows session session :=
  ⟨rfl,fun _ => id,fun _ => id⟩

theorem isSome_lookup_put {α : Type} {entries : List (String × α)} {other : String}
    (known : (entries.lookup other).isSome) (key : String) (value : α) :
    ((put entries key value).lookup other).isSome := by
  by_cases same : other = key
  · rw [same,lookup_put_self]
    rfl
  · rw [lookup_put_of_ne _ _ _ same]
    exact known

theorem grows_countRead (session : Session) : Grows session session.countRead :=
  ⟨rfl,fun _ => id,fun _ => id⟩

theorem grows_keepLines (session : Session) (path : String) (found : Option (List String)) :
    Grows session (session.keepLines path found) :=
  ⟨rfl,fun _ known => isSome_lookup_put known path found,fun _ => id⟩

theorem grows_keepBlocks (session : Session) (path : String)
    (blocks : Option (List MethodBlock)) : Grows session (session.keepBlocks path blocks) :=
  ⟨rfl,fun _ => id,fun _ known => isSome_lookup_put known path blocks⟩

end Session

namespace Query
open Session

section
variable {ε : Type} {query : Query} {index : SourceIndex} {path : String}

theorem resolveBy_of_uncounted (file : query.file? index = some path)
    (uncounted : LinePlacement.countsFromMethod path = false)
    (read : Path → Except ε (Option (List String))) (session : Session) :
    query.resolveBy read index session =
      (.ok (some ⟨path,LinePlacement.fileLine query.line path none query.hint⟩),session) := by
  rw [resolveBy,file]
  simp [uncounted]

theorem resolveBy_of_counted (file : query.file? index = some path)
    (counted : LinePlacement.countsFromMethod path = true)
    (read : Path → Except ε (Option (List String))) (session : Session) :
    query.resolveBy read index session =
      ((session.blocksBy read path).1.map (fun blocks =>
        some ⟨path,LinePlacement.fileLine query.line path blocks query.hint⟩),
        (session.blocksBy read path).2) := by
  rw [resolveBy,file]
  simp only [counted,if_true]
  rcases session.blocksBy read path with ⟨_ | _,later⟩ <;> rfl

/-- An answer is found from the blocks of the file, where lines are counted from a method. -/
theorem resolveBy_of_blocks {read : Path → Except ε (Option (List String))} {session : Session}
    {blocks : Option (List MethodBlock)} (file : query.file? index = some path)
    (known : (session.blocksBy read path).1 = .ok blocks) :
    (query.resolveBy read index session).1 =
      .ok (some ⟨path,LinePlacement.fileLine query.line path
        (if LinePlacement.countsFromMethod path then blocks else none) query.hint⟩) := by
  cases counted : LinePlacement.countsFromMethod path with
  | false => rw [resolveBy_of_uncounted file counted,if_neg Bool.false_ne_true]
  | true =>
    rw [resolveBy_of_counted file counted,known,if_pos rfl]
    rfl

theorem resolveBy_of_unknown (file : query.file? index = none)
    (read : Path → Except ε (Option (List String))) (session : Session) :
    query.resolveBy read index session = (.ok none,session) := by
  rw [resolveBy,file]

theorem resolveBy_session (query : Query) (index : SourceIndex)
    (read : Path → Except ε (Option (List String))) (session : Session) :
    (query.resolveBy read index session).2 = session ∨
      ∃ path, (query.resolveBy read index session).2 = (session.blocksBy read path).2 := by
  cases file : query.file? index with
  | none => exact Or.inl (by rw [resolveBy_of_unknown file])
  | some path =>
    cases counted : LinePlacement.countsFromMethod path with
    | false => exact Or.inl (by rw [resolveBy_of_uncounted file counted])
    | true => exact Or.inr ⟨path,by rw [resolveBy_of_counted file counted]⟩

theorem resolve_of_uncounted (file : query.file? index = some path)
    (uncounted : LinePlacement.countsFromMethod path = false) (disk : Disk) (session : Session) :
    query.resolve index disk session =
      (.ok (some ⟨path,LinePlacement.fileLine query.line path none query.hint⟩),session) :=
  resolveBy_of_uncounted file uncounted (readLines disk) session

theorem resolve_of_counted (file : query.file? index = some path)
    (counted : LinePlacement.countsFromMethod path = true) (disk : Disk) (session : Session) :
    query.resolve index disk session =
      ((session.blocksOf disk path).1.map (fun blocks =>
        some ⟨path,LinePlacement.fileLine query.line path blocks query.hint⟩),
        (session.blocksOf disk path).2) :=
  resolveBy_of_counted file counted (readLines disk) session

theorem resolve_of_unknown (file : query.file? index = none) (disk : Disk) (session : Session) :
    query.resolve index disk session = (.ok none,session) :=
  resolveBy_of_unknown file (readLines disk) session

theorem resolve_session (query : Query) (index : SourceIndex) (disk : Disk) (session : Session) :
    (query.resolve index disk session).2 = session ∨
      ∃ path, (query.resolve index disk session).2 = (session.blocksOf disk path).2 :=
  query.resolveBy_session index (readLines disk) session

end

section
variable {disk : Disk} {session : Session}

theorem resolve_faithful (query : Query) (index : SourceIndex) (faithful : Faithful disk session) :
    Faithful disk (query.resolve index disk session).2 ∧
      (query.resolve index disk session).2.base = session.base := by
  rcases query.resolve_session index disk session with same | ⟨path,same⟩
  · rw [same]
    exact ⟨faithful,rfl⟩
  · rw [same]
    exact (faithful.blocksOf path).2

/-- Resolving does not depend on what is remembered, as long as that is so. -/
theorem resolve_eq (query : Query) (index : SourceIndex) (faithful : Faithful disk session) :
    (query.resolve index disk session).1 = (query.resolve index disk { base := session.base }).1 := by
  cases file : query.file? index with
  | none => rw [resolve_of_unknown file,resolve_of_unknown file]
  | some path =>
    cases counted : LinePlacement.countsFromMethod path with
    | false => rw [resolve_of_uncounted file counted,resolve_of_uncounted file counted]
    | true =>
      rw [resolve_of_counted file counted,resolve_of_counted file counted,
        (faithful.blocksOf path).1,((faithful_fresh disk session.base).blocksOf path).1]
      rfl

end
end Query

def Answer.ofResult : Except Trouble (Option FilePosition) → Answer
  | .ok (some position) => .found position
  | .ok none => .unknown
  | .error _ => .failed

theorem Resolver.ofIndex_eq (index : SourceIndex) (disk : Disk) (query : Query) (session : Session) :
    Resolver.ofIndex index disk query session =
      (.ofResult (query.resolve index disk session).1,(query.resolve index disk session).2) := by
  unfold Resolver.ofIndex
  rcases query.resolve index disk session with ⟨_ | _ | _,later⟩ <;> rfl

namespace Issue
open Session
variable {disk : Disk} {session : Session}

theorem ofFinding_of_error {σ : Type} (resolver : Resolver σ) (srcDir : String) {finding : Finding}
    {error : Text.NumeralError}
    (read : Location.startLine (finding.location.getD "") = .error error) (memory : σ) :
    ofFinding resolver srcDir finding memory = (.error error,memory) := by
  rw [ofFinding,read]

theorem ofFinding_of_line {σ : Type} (resolver : Resolver σ) (srcDir : String) {finding : Finding}
    {line : Nat} (read : Location.startLine (finding.location.getD "") = .ok line) (memory : σ) :
    ofFinding resolver srcDir finding memory =
      (ofAnswer finding srcDir line (resolver (queryOf finding line) memory).1,
        (resolver (queryOf finding line) memory).2) := by
  rw [ofFinding,read]

theorem ofFinding_ofIndex (index : SourceIndex) (disk : Disk) (srcDir : String) {finding : Finding}
    {line : Nat} (read : Location.startLine (finding.location.getD "") = .ok line)
    (session : Session) :
    ofFinding (Resolver.ofIndex index disk) srcDir finding session =
      (ofAnswer finding srcDir line
        (.ofResult ((queryOf finding line).resolve index disk session).1),
        ((queryOf finding line).resolve index disk session).2) := by
  rw [ofFinding_of_line _ _ read,Resolver.ofIndex_eq]

theorem ofFinding_faithful (index : SourceIndex) (srcDir : String) (finding : Finding)
    (faithful : Faithful disk session) :
    Faithful disk (ofFinding (Resolver.ofIndex index disk) srcDir finding session).2 ∧
      (ofFinding (Resolver.ofIndex index disk) srcDir finding session).2.base = session.base := by
  cases read : Location.startLine (finding.location.getD "") with
  | error error =>
    rw [ofFinding_of_error _ _ read]
    exact ⟨faithful,rfl⟩
  | ok line =>
    rw [ofFinding_ofIndex _ _ _ read]
    exact (queryOf finding line).resolve_faithful index faithful

/-- The issue of a finding is the same in every session that remembers only what is so. -/
theorem ofFinding_eq (index : SourceIndex) (srcDir : String) (finding : Finding)
    (faithful : Faithful disk session) :
    (ofFinding (Resolver.ofIndex index disk) srcDir finding session).1 =
      (ofFinding (Resolver.ofIndex index disk) srcDir finding { base := session.base }).1 := by
  cases read : Location.startLine (finding.location.getD "") with
  | error error => rw [ofFinding_of_error _ _ read,ofFinding_of_error _ _ read]
  | ok line =>
    rw [ofFinding_ofIndex _ _ _ read,ofFinding_ofIndex _ _ _ read,
      (queryOf finding line).resolve_eq index faithful]

end Issue
end AbapAtlas

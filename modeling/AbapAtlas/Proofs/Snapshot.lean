import AbapAtlas.Proofs.Session
import AbapAtlas.Proofs.SourceIndex
import Mathlib.Data.List.Dedup
import Mathlib.Data.List.TakeWhile

/-! Sessions over files that change. Whatever is asked for a path, and whatever becomes of the file
in between, all answers tell of the file as it was when the path was first asked for. -/
namespace AbapAtlas

namespace Path

theorem hasNull_ofString {text : String} (whole : '\x00' ∉ text.toList) :
    (ofString text).hasNull = false := by
  rw [hasNull,List.any_eq_false]
  intro name member
  simp only [ofString,List.mem_filter,List.mem_map] at member
  obtain ⟨⟨part,cut,rfl⟩,_⟩ := member
  obtain ⟨_,before,after,parts,_⟩ := Text.mem_cutAt_iff.mp cut
  rw [parts] at whole
  simp only [String.toList_ofList,List.contains_iff_mem]
  exact fun inside => whole (List.mem_append_left _ (List.mem_append_right _ inside))

end Path

namespace Disk

theorem walk_ne_nullInName (disk : Disk) (last : Bool) (links : Nat) (folder : Address)
    (names : List String) : disk.walk last links folder names ≠ .error .nullInName := by
  fun_induction disk.walk last links folder names with
  | case2 _ _ _ ih => exact ih
  | case5 _ _ _ _ _ _ ih => exact ih
  | case10 _ _ _ _ _ _ _ _ _ ih => exact ih
  | case1 | case3 | case4 | case6 | case7 | case8 | case9 => simp

theorem locate_ne_nullInName {disk : Disk} {path : Path} {trouble : Trouble}
    (whole : path.hasNull = false) {last : Bool}
    (failed : disk.locate last path = .error trouble) : trouble ≠ .nullInName := by
  rintro rfl
  rw [locate,whole,if_neg Bool.false_ne_true] at failed
  exact walk_ne_nullInName _ _ _ _ _ failed

end Disk

theorem Host.content_ne_nullInName {ε : Type} {host : Host ε} {disk : Disk} {path : Path}
    {trouble : Trouble} (whole : path.hasNull = false)
    (failed : host.content disk path = .error trouble) : trouble ≠ .nullInName := by
  rw [content] at failed
  cases locked : host.locks path with
  | some other =>
    rw [locked] at failed
    cases failed
    rintro rfl
    exact host.locks_whole path locked
  | none =>
    simp only [locked,Disk.content] at failed
    cases found : disk.locate true path with
    | error other =>
      rw [found] at failed
      cases failed
      exact Disk.locate_ne_nullInName whole found
    | ok place =>
      rw [found] at failed
      cases place with
      | vacant folder name =>
        cases failed
        decide
      | «at» address entry =>
        cases entry with
        | file content => cases failed
        | folder | link =>
          cases failed
          decide

namespace Session

theorem hasNull_fullPath {session : Session}
    (clean : ∀ folder, session.base = some folder → folder.hasNull = false) {path : String}
    (whole : '\x00' ∉ path.toList) : (session.fullPath path).hasNull = false := by
  have own := Path.hasNull_ofString whole
  rw [fullPath]
  cases based : session.base with
  | none => exact own
  | some folder =>
    simp only [Path.within]
    split
    · exact own
    · rw [Path.hasNull,List.any_append,Bool.or_eq_false_iff]
      exact ⟨clean folder based,own⟩

/-- What is found at a path: a text is cut at its line feeds, with all ways to end a line taken alike;
a file that is no text and one that cannot be opened have no lines. -/
inductive Outcome {ε : Type} (host : Host ε) (disk : Disk) (path : Path) :
    Option (List String) → Prop where
  | lines {content : ByteArray} {text : String} (opened : host.content disk path = .ok content)
      (decoded : String.fromUTF8? content = some text) :
      Outcome host disk path
        (some ((Text.cutAt '\n' (Text.unifyLineEnds text.toList)).map String.ofList))
  | undecoded {content : ByteArray} (opened : host.content disk path = .ok content)
      (broken : String.fromUTF8? content = none) : Outcome host disk path none
  | refused {trouble : Trouble} (failed : host.content disk path = .error trouble) :
      Outcome host disk path none

section
variable {ε : Type} {host : Host ε} {disk : Disk} {path : Path} {found : Option (List String)}

theorem Outcome.of_text (outcome : Outcome host disk path found) {content : ByteArray}
    {text : String} (held : host.content disk path = .ok content)
    (decodes : String.fromUTF8? content = some text) : found = some (Text.lines text) := by
  cases outcome with
  | lines opened decoded =>
    cases held.symm.trans opened
    cases decodes.symm.trans decoded
    rfl
  | undecoded opened broken =>
    cases held.symm.trans opened
    cases decodes.symm.trans broken
  | refused failed => cases held.symm.trans failed

theorem Outcome.of_refused (outcome : Outcome host disk path found) {trouble : Trouble}
    (held : host.content disk path = .error trouble) : found = none := by
  cases outcome with
  | lines opened => cases held.symm.trans opened
  | undecoded | refused => rfl

end

/-- A file can always be read, if only to find nothing, unless no file can have its path or there are
no bytes for it. -/
theorem exists_outcome {ε : Type} {host : Host ε} (disk : Disk) {path : Path}
    (whole : path.hasNull = false) (named : host.canName path = true) :
    ∃ found, readLinesOn host disk path = .ok found ∧ Outcome host disk path found := by
  rw [readLinesOn,named,if_neg Bool.true_eq_false.mp]
  cases opened : host.content disk path with
  | ok content =>
    refine ⟨_,rfl,?_⟩
    cases decoded : String.fromUTF8? content with
    | none => exact .undecoded opened decoded
    | some text => exact .lines opened decoded
  | error trouble =>
    cases trouble with
    | nullInName => exact absurd rfl (Host.content_ne_nullInName whole opened)
    | _ => exact ⟨none,rfl,.refused opened⟩

theorem exists_readLines (disk : Disk) {path : Path} (whole : path.hasNull = false) :
    ∃ found, readLines disk path = .ok found := by
  obtain ⟨found,read,_⟩ := exists_outcome disk whole (Host.canName_plain path)
  exact ⟨found,congrArg (Except.mapError fun _ => Trouble.nullInName) read⟩

/-- What a session holds after some paths were asked for: the outcome of each of them, found in one
read, and of no other path. Refusals are reads as well, but leave nothing behind. -/
structure Holds (outcome : String → Option (List String)) (asked : List String) (refusals : Nat)
    (session : Session) : Prop where
  files : ∀ path, session.files.lookup path = if path ∈ asked then some (outcome path) else none
  blocks : ∀ path found, session.blocks.lookup path = some found →
    path ∈ asked ∧ found = (outcome path).map MethodBlock.scan
  distinct : (session.files.map Prod.fst).Nodup
  reads : session.reads = session.files.length + refusals

theorem holds_fresh (outcome : String → Option (List String)) (base : Option Path) :
    Holds outcome [] 0 { base } := by
  constructor
  · intro path
    simp
  · intro path found known
    cases known
  · exact List.nodup_nil
  · rfl

section
variable {ε : Type} {read : Path → Except ε (Option (List String))}
  {outcome outcome' : String → Option (List String)} {asked : List String} {refusals : Nat}
  {session : Session}

theorem Holds.congr (holds : Holds outcome asked refusals session)
    (same : ∀ path ∈ asked, outcome path = outcome' path) : Holds outcome' asked refusals session := by
  refine ⟨?_,?_,holds.distinct,holds.reads⟩
  · intro path
    rw [holds.files]
    by_cases member : path ∈ asked
    · rw [if_pos member,if_pos member,same path member]
    · rw [if_neg member,if_neg member]
  · intro path found known
    obtain ⟨member,worth⟩ := holds.blocks path found known
    exact ⟨member,by rw [worth,same path member]⟩

theorem Holds.asked_congr {others : List String} (holds : Holds outcome asked refusals session)
    (same : ∀ path, path ∈ asked ↔ path ∈ others) : Holds outcome others refusals session := by
  refine ⟨?_,?_,holds.distinct,holds.reads⟩
  · intro path
    rw [holds.files]
    simp only [same]
  · intro path found known
    obtain ⟨member,worth⟩ := holds.blocks path found known
    exact ⟨(same path).mp member,worth⟩

theorem Holds.keepLines (holds : Holds outcome asked refusals session) {path : String}
    (fresh : path ∉ asked) :
    Holds outcome (asked ++ [path]) refusals (session.countRead.keepLines path (outcome path)) := by
  have unknown : session.files.lookup path = none := by
    rw [holds.files,if_neg fresh]
  refine ⟨?_,?_,?_,?_⟩
  · intro other
    change (put session.files path (outcome path)).lookup other = _
    by_cases same : other = path
    · rw [same,lookup_put_self,if_pos (List.mem_append_right _ List.mem_cons_self)]
    · rw [lookup_put_of_ne _ _ _ same,holds.files]
      simp [same]
  · intro other found known
    obtain ⟨inside,worth⟩ := holds.blocks other found known
    exact ⟨List.mem_append_left _ inside,worth⟩
  · change ((put session.files path (outcome path)).map Prod.fst).Nodup
    rw [put_of_unknown unknown]
    exact nodup_keys_append holds.distinct unknown _
  · change session.reads + 1 = (put session.files path (outcome path)).length + refusals
    rw [put_of_unknown unknown,holds.reads,List.length_append,List.length_singleton]
    omega

theorem Holds.keepBlocks (holds : Holds outcome asked refusals session) {path : String}
    (member : path ∈ asked) :
    Holds outcome asked refusals (session.keepBlocks path ((outcome path).map MethodBlock.scan)) := by
  refine ⟨holds.files,?_,holds.distinct,holds.reads⟩
  intro other found known
  rcases lookup_put_cases _ _ _ known with before | ⟨rfl,rfl⟩
  · exact holds.blocks other found before
  · exact ⟨member,rfl⟩

theorem Holds.linesBy_of_mem (holds : Holds outcome asked refusals session) {path : String}
    (member : path ∈ asked) (read : Path → Except ε (Option (List String))) :
    session.linesBy read path = (.ok (outcome path),session) := by
  rw [linesBy,holds.files,if_pos member]

/-- Lines are asked for: of a path that is new, as the file is now. -/
theorem Holds.linesBy (holds : Holds outcome asked refusals session) {path : String}
    (now : path ∉ asked → read (session.fullPath path) = .ok (outcome path)) :
    (session.linesBy read path).1 = .ok (outcome path) ∧
      Holds outcome (asked ++ [path]) refusals (session.linesBy read path).2 := by
  by_cases member : path ∈ asked
  · rw [holds.linesBy_of_mem member]
    refine ⟨rfl,holds.asked_congr fun other => ?_⟩
    rw [List.mem_append,List.mem_singleton]
    exact ⟨Or.inl,fun either => either.elim id fun same => same ▸ member⟩
  · obtain ⟨_,known,_⟩ | ⟨_,⟨found,first,same⟩ | ⟨error,first,_⟩⟩ :=
      linesBy_cases read session path
    · rw [holds.files,if_neg member] at known
      cases known
    · cases (now member).symm.trans first
      rw [same]
      exact ⟨rfl,holds.keepLines member⟩
    · cases (now member).symm.trans first

theorem Holds.blocksBy (holds : Holds outcome asked refusals session) {path : String}
    (now : path ∉ asked → read (session.fullPath path) = .ok (outcome path)) :
    (session.blocksBy read path).1 = .ok ((outcome path).map MethodBlock.scan) ∧
      Holds outcome (asked ++ [path]) refusals (session.blocksBy read path).2 := by
  obtain ⟨answer,later⟩ := holds.linesBy now
  obtain ⟨blocks,known,same⟩ | ⟨_,⟨found,lines,same⟩ | ⟨error,lines,_⟩⟩ :=
    blocksBy_cases read session path
  · obtain ⟨member,worth⟩ := holds.blocks path blocks known
    rw [holds.linesBy_of_mem member] at later
    rw [same,worth]
    exact ⟨rfl,later⟩
  · cases answer.symm.trans lines
    rw [same]
    exact ⟨rfl,later.keepBlocks (List.mem_append_right _ List.mem_cons_self)⟩
  · cases answer.symm.trans lines

/-- A path that was asked for before is not read again. -/
theorem Holds.again (holds : Holds outcome asked refusals session) {path : String}
    (member : path ∈ asked) (read : Path → Except ε (Option (List String))) :
    (session.linesBy read path).2 = session ∧
      (session.blocksBy read path).2.reads = session.reads ∧
      (session.blocksBy read path).2.files = session.files := by
  have lines := holds.linesBy_of_mem member read
  obtain ⟨_,_,same⟩ | ⟨_,⟨found,_,same⟩ | ⟨_,_,same⟩⟩ := blocksBy_cases read session path
  · rw [same]
    exact ⟨congrArg Prod.snd lines,rfl,rfl⟩
  · rw [same,lines]
    exact ⟨rfl,rfl,rfl⟩
  · rw [same,lines]
    exact ⟨rfl,rfl,rfl⟩

theorem Holds.countRead (holds : Holds outcome asked refusals session) :
    Holds outcome asked (refusals + 1) session.countRead :=
  ⟨holds.files,holds.blocks,holds.distinct,congrArg Nat.succ holds.reads⟩

/-- A path that is refused is known no more after it has been asked for than before. -/
theorem Holds.refused (holds : Holds outcome asked refusals session) {path : String} (new : path ∉ asked)
    {error : ε} (failed : read (session.fullPath path) = .error error) :
    session.linesBy read path = (.error error,session.countRead) ∧
      session.blocksBy read path = (.error error,session.countRead) := by
  have lines : session.linesBy read path = (.error error,session.countRead) := by
    obtain ⟨_,known,_⟩ | ⟨_,⟨found,first,_⟩ | ⟨_,first,same⟩⟩ := linesBy_cases read session path
    · rw [holds.files,if_neg new] at known
      cases known
    · cases failed.symm.trans first
    · cases failed.symm.trans first
      exact same
  refine ⟨lines,?_⟩
  obtain ⟨_,known,_⟩ | ⟨_,⟨found,answer,_⟩ | ⟨_,answer,same⟩⟩ := blocksBy_cases read session path
  · exact absurd (holds.blocks path _ known).1 new
  · rw [lines] at answer
    cases answer
  · rw [lines] at answer same
    cases answer
    exact same

theorem Holds.length_files (holds : Holds outcome asked refusals session) :
    session.files.length = asked.dedup.length := by
  rw [← List.length_map Prod.fst]
  refine List.Perm.length_eq ((List.perm_ext_iff_of_nodup holds.distinct asked.nodup_dedup).mpr ?_)
  intro path
  rw [mem_keys_iff,holds.files,List.mem_dedup]
  simp

end

section
variable {ε δ : Type} (read : Path → Except ε (Option (List String))) (session : Session)

theorem linesBy_mapError (wrap : ε → δ) (path : String) :
    session.linesBy (fun path => (read path).mapError wrap) path =
      ((session.linesBy read path).1.mapError wrap,(session.linesBy read path).2) := by
  rw [linesBy,linesBy]
  cases session.files.lookup path with
  | some known => rfl
  | none =>
    dsimp only
    cases read (session.fullPath path) <;> rfl

theorem blocksBy_mapError (wrap : ε → δ) (path : String) :
    session.blocksBy (fun path => (read path).mapError wrap) path =
      ((session.blocksBy read path).1.mapError wrap,(session.blocksBy read path).2) := by
  rw [blocksBy,blocksBy,linesBy_mapError]
  cases session.blocks.lookup path with
  | some known => rfl
  | none => rcases session.linesBy read path with ⟨_ | _,later⟩ <;> rfl

theorem linesOf_eq (disk : Disk) (path : String) : session.linesOf disk path =
    ((session.linesBy (readLinesOn (.plain : Host Empty) disk) path).1.mapError
        fun _ => .nullInName,
      (session.linesBy (readLinesOn (.plain : Host Empty) disk) path).2) :=
  linesBy_mapError _ session _ path

theorem blocksOf_eq (disk : Disk) (path : String) : session.blocksOf disk path =
    ((session.blocksBy (readLinesOn (.plain : Host Empty) disk) path).1.mapError
        fun _ => .nullInName,
      (session.blocksBy (readLinesOn (.plain : Host Empty) disk) path).2) :=
  blocksBy_mapError _ session _ path

theorem base_linesBy (path : String) : (session.linesBy read path).2.base = session.base := by
  obtain ⟨_,_,same⟩ | ⟨_,⟨_,_,same⟩ | ⟨_,_,same⟩⟩ := linesBy_cases read session path
  · rw [same]
  · rw [same]
    rfl
  · rw [same]
    rfl

theorem base_blocksBy (path : String) : (session.blocksBy read path).2.base = session.base := by
  have lines := base_linesBy read session path
  obtain ⟨_,_,same⟩ | ⟨_,⟨_,_,same⟩ | ⟨_,_,same⟩⟩ := blocksBy_cases read session path
  · rw [same]
  · rw [same]
    exact lines
  · rw [same]
    exact lines

end

inductive Event where
  | change (later : Disk)
  | lines (path : String)
  | blocks (path : String)
  | resolve (query : Query) (index : SourceIndex)

namespace Event

def path? : Event → Option String
  -- The path that an event asks for. A resolver asks only for files in which lines are counted from
  -- the start of a method.
  | change _ => none
  | lines path => some path
  | blocks path => some path
  | resolve query index => (query.file? index).filter LinePlacement.countsFromMethod

end Event

structure Scene where
  disk : Disk
  session : Session

namespace Scene
variable {ε : Type}

def after (host : Host ε) (scene : Scene) : Event → Scene
  | .change later => { scene with disk := later }
  | .lines path =>
    { scene with session := (scene.session.linesBy (readLinesOn host scene.disk) path).2 }
  | .blocks path =>
    { scene with session := (scene.session.blocksBy (readLinesOn host scene.disk) path).2 }
  | .resolve query index =>
    { scene with
      session := (query.resolveBy (readLinesOn host scene.disk) index scene.session).2 }

def run (host : Host ε) (scene : Scene) (events : List Event) : Scene :=
  events.foldl (after host) scene

def asked (events : List Event) : List String := events.filterMap Event.path?

/-- The file tree as it is when a path is first asked for, or at the end if it is not. -/
def diskFor (host : Host ε) (path : String) (scene : Scene) (events : List Event) : Disk :=
  (scene.run host (events.takeWhile fun event => event.path? ≠ some path)).disk

section
variable {host : Host ε} {scene : Scene} {path : String} {events : List Event}

theorem run_append_singleton (host : Host ε) (scene : Scene) (events : List Event)
    (event : Event) : scene.run host (events ++ [event]) = (scene.run host events).after host event := by
  rw [run,List.foldl_append]
  rfl

theorem asked_append_singleton (events : List Event) (event : Event) :
    asked (events ++ [event]) = asked events ++ event.path?.toList := by
  rw [asked,asked,List.filterMap_append]
  rfl

theorem takeWhile_eq_self_iff :
    (events.takeWhile fun event => event.path? ≠ some path) = events ↔ path ∉ asked events := by
  simp [List.takeWhile_eq_self_iff,asked]

theorem diskFor_of_notMem (new : path ∉ asked events) :
    diskFor host path scene events = (scene.run host events).disk := by
  rw [diskFor,takeWhile_eq_self_iff.mpr new]

theorem diskFor_append_of_mem (member : path ∈ asked events) (more : List Event) :
    diskFor host path scene (events ++ more) = diskFor host path scene events := by
  rw [diskFor,List.takeWhile_append,if_neg]
  · rfl
  · intro whole
    exact takeWhile_eq_self_iff.mp ((List.takeWhile_prefix _).eq_of_length whole) member

/-- An event asks for nothing, or for the lines or the blocks of the file at its path. -/
theorem after_session_cases (host : Host ε) (scene : Scene) (event : Event) :
    (event.path? = none ∧ (scene.after host event).session = scene.session) ∨
    ∃ path, event.path? = some path ∧
      ((scene.after host event).session =
          (scene.session.linesBy (readLinesOn host scene.disk) path).2 ∨
        (scene.after host event).session =
          (scene.session.blocksBy (readLinesOn host scene.disk) path).2) := by
  cases event with
  | change later => exact Or.inl ⟨rfl,rfl⟩
  | lines path => exact Or.inr ⟨path,rfl,Or.inl rfl⟩
  | blocks path => exact Or.inr ⟨path,rfl,Or.inr rfl⟩
  | resolve query index =>
    simp only [Event.path?,after]
    cases file : query.file? index with
    | none =>
      rw [Query.resolveBy_of_unknown file]
      exact Or.inl ⟨rfl,rfl⟩
    | some path =>
      cases counted : LinePlacement.countsFromMethod path with
      | false =>
        rw [Query.resolveBy_of_uncounted file counted,Option.filter_some_neg counted]
        exact Or.inl ⟨rfl,rfl⟩
      | true =>
        rw [Query.resolveBy_of_counted file counted,Option.filter_some_pos counted]
        exact Or.inr ⟨path,rfl,Or.inr rfl⟩

/-- An event leaves a session with what it held and with what is asked for now. -/
theorem after_holds {outcome : String → Option (List String)} {asked : List String} {refusals : Nat}
    (holds : Holds outcome asked refusals scene.session) {event : Event}
    (asks : event.path? = some path) (read : path ∉ asked →
      readLinesOn host scene.disk (scene.session.fullPath path) = .ok (outcome path)) :
    Holds outcome (asked ++ [path]) refusals (scene.after host event).session := by
  obtain ⟨none,_⟩ | ⟨other,same,lines | blocks⟩ := after_session_cases host scene event
  · cases asks.symm.trans none
  · cases asks.symm.trans same
    rw [lines]
    exact (holds.linesBy read).2
  · cases asks.symm.trans same
    rw [blocks]
    exact (holds.blocksBy read).2

theorem after_refused {outcome : String → Option (List String)} {asked : List String}
    {refusals : Nat} (holds : Holds outcome asked refusals scene.session) {event : Event}
    (asks : event.path? = some path) (new : path ∉ asked)
    (unnamed : host.canName (scene.session.fullPath path) = false) :
    Holds outcome asked (refusals + 1) (scene.after host event).session := by
  have failed : readLinesOn host scene.disk (scene.session.fullPath path) =
      .error .notInName := by
    rw [readLinesOn,if_pos unnamed]
  obtain ⟨none,_⟩ | ⟨other,same,lines | blocks⟩ := after_session_cases host scene event
  · cases asks.symm.trans none
  · cases asks.symm.trans same
    rw [lines,(holds.refused new failed).1]
    exact holds.countRead
  · cases asks.symm.trans same
    rw [blocks,(holds.refused new failed).2]
    exact holds.countRead

theorem base_after (host : Host ε) (scene : Scene) (event : Event) :
    (scene.after host event).session.base = scene.session.base := by
  obtain ⟨_,same⟩ | ⟨path,_,lines | blocks⟩ := after_session_cases host scene event
  · rw [same]
  · rw [lines,base_linesBy]
  · rw [blocks,base_blocksBy]

def outcome (host : Host ε) (scene : Scene) (events : List Event) (path : String) :
    Option (List String) :=
  (readLinesOn host (diskFor host path scene events) (scene.session.fullPath path)).toOption.join

theorem base_run (host : Host ε) (scene : Scene) (events : List Event) :
    (scene.run host events).session.base = scene.session.base := by
  induction events using List.reverseRecOn with
  | nil => rfl
  | append_singleton events event ih => rw [run_append_singleton,base_after,ih]

structure Askable (host : Host ε) (base : Option Path) (path : String) : Prop where
  whole : '\x00' ∉ path.toList
  named : host.canName (fullPath { base } path) = true

variable {base : Option Path}

theorem readLinesOn_eq_outcome (host : Host ε) (disk : Disk)
    (clean : ∀ folder, base = some folder → folder.hasNull = false)
    (askable : Askable host base path) (events : List Event) :
    readLinesOn host (diskFor host path ⟨disk,{ base }⟩ events) (fullPath { base } path) =
        .ok (outcome host ⟨disk,{ base }⟩ events path) ∧
      Outcome host (diskFor host path ⟨disk,{ base }⟩ events) (fullPath { base } path)
        (outcome host ⟨disk,{ base }⟩ events path) := by
  obtain ⟨found,read,there⟩ := exists_outcome (diskFor host path ⟨disk,{ base }⟩ events)
    (@hasNull_fullPath { base } clean path askable.whole) askable.named
  rw [outcome,read]
  exact ⟨rfl,there⟩

/-- The paths asked for that there are bytes for, in the order of the requests. -/
def named (host : Host ε) (base : Option Path) (events : List Event) : List String :=
  (asked events).filter fun path => host.canName (fullPath { base } path)

/-- How many requests are for a path that there are no bytes for. -/
def refusals (host : Host ε) (base : Option Path) (events : List Event) : Nat :=
  (asked events).countP fun path => !host.canName (fullPath { base } path)

theorem mem_named_iff : path ∈ named host base events ↔
    path ∈ asked events ∧ host.canName (fullPath { base } path) = true := List.mem_filter

theorem named_append_singleton (events : List Event) (event : Event) :
    named host base (events ++ [event]) = named host base events ++
      event.path?.toList.filter fun path => host.canName (fullPath { base } path) := by
  rw [named,asked_append_singleton,List.filter_append]
  rfl

theorem refusals_append_singleton (events : List Event) (event : Event) :
    refusals host base (events ++ [event]) = refusals host base events +
      event.path?.toList.countP fun path => !host.canName (fullPath { base } path) := by
  rw [refusals,asked_append_singleton,List.countP_append]
  rfl

theorem named_eq_asked
    (all : ∀ path ∈ asked events, host.canName (fullPath { base } path) = true) :
    named host base events = asked events := List.filter_eq_self.mpr all

theorem refusals_eq_zero
    (all : ∀ path ∈ asked events, host.canName (fullPath { base } path) = true) :
    refusals host base events = 0 := by
  refine List.countP_eq_zero.mpr fun path member => ?_
  rw [all path member]
  decide

/-- A session that starts empty holds all that was asked for, as it was then. -/
theorem run_holds (host : Host ε) (disk : Disk)
    (clean : ∀ folder, base = some folder → folder.hasNull = false) {events : List Event}
    (whole : ∀ path ∈ asked events, '\x00' ∉ path.toList) :
    Holds (outcome host ⟨disk,{ base }⟩ events) (named host base events)
      (refusals host base events) (run host ⟨disk,{ base }⟩ events).session := by
  induction events using List.reverseRecOn with
  | nil => exact holds_fresh _ base
  | append_singleton events event ih =>
    rw [asked_append_singleton] at whole
    have before := ih fun path member => whole path (List.mem_append_left _ member)
    -- What was first asked for before the last event stays as it was found.
    have kept := before.congr fun path member =>
      show _ = outcome host ⟨disk,{ base }⟩ (events ++ [event]) path by
        rw [outcome,outcome,diskFor_append_of_mem (mem_named_iff.mp member).1]
    have full := fun path => fullPath_of_base (base_run host ⟨disk,{ base }⟩ events) path
    rw [run_append_singleton,named_append_singleton,refusals_append_singleton]
    cases asks : event.path? with
    | none =>
      rw [asks] at whole
      obtain ⟨_,same⟩ | ⟨path,some,_⟩ :=
        after_session_cases host (run host ⟨disk,{ base }⟩ events) event
      · rw [same,Option.toList_none,List.filter_nil,List.append_nil]
        exact kept
      · cases asks.symm.trans some
    | some path =>
      rw [Option.toList_some]
      cases unnamed : host.canName (fullPath { base } path) with
      | false =>
        have new : path ∉ named host base events := fun member => by
          rw [(mem_named_iff.mp member).2] at unnamed
          cases unnamed
        simpa [unnamed] using after_refused kept asks new (by rw [full,unnamed])
      | true =>
        have own : Askable host base path := by
          refine ⟨whole path ?_,unnamed⟩
          rw [asks]
          exact List.mem_append_right _ List.mem_cons_self
        -- A path that is new in the last event is found as it is now.
        have now : path ∉ named host base events →
            readLinesOn host (run host ⟨disk,{ base }⟩ events).disk
              ((run host ⟨disk,{ base }⟩ events).session.fullPath path) =
                .ok (outcome host ⟨disk,{ base }⟩ (events ++ [event]) path) := by
          intro new
          have before : path ∉ asked events := fun member => new (mem_named_iff.mpr ⟨member,unnamed⟩)
          have there : diskFor host path ⟨disk,{ base }⟩ (events ++ [event]) =
              (run host ⟨disk,{ base }⟩ events).disk := by
            rw [diskFor,List.takeWhile_append,takeWhile_eq_self_iff.mpr before]
            simp [asks]
          rw [full,← there]
          exact (readLinesOn_eq_outcome host disk clean own _).1
        simpa [unnamed] using after_holds kept asks now

/-- However the files change while a session is asked for them, every answer for a path tells of
the file as it was when the path was first asked for, and no file is read again: the reads are the
paths, and so are the files that are known. A path that there are no bytes for is refused each time,
which counts as a read, and never known. -/
theorem first_outcome_kept (host : Host ε) (disk : Disk) {base : Option Path}
    (clean : ∀ folder, base = some folder → folder.hasNull = false) {events : List Event}
    (whole : ∀ path ∈ asked events, '\x00' ∉ path.toList) :
    let scene := run host ⟨disk,{ base }⟩ events
    let read := readLinesOn host scene.disk
    ((∀ path ∈ asked events, host.canName (fullPath { base } path) = true) →
      scene.session.reads = (asked events).dedup.length ∧
      scene.session.files.length = (asked events).dedup.length) ∧
    scene.session.reads = scene.session.files.length + refusals host base events ∧
    scene.session.files.length = (named host base events).dedup.length ∧
    (∀ path, Askable host base path → ∃ outcome,
      Outcome host (diskFor host path ⟨disk,{ base }⟩ events) (fullPath { base } path) outcome ∧
      (scene.session.linesBy read path).1 = .ok outcome ∧
      (scene.session.blocksBy read path).1 = .ok (outcome.map MethodBlock.scan) ∧
      (∀ query index, Query.file? query index = some path →
        (query.resolveBy read index scene.session).1 =
          .ok (some ⟨path,LinePlacement.fileLine query.line path
            (if LinePlacement.countsFromMethod path then outcome.map MethodBlock.scan else none)
            query.hint⟩)) ∧
      (path ∈ asked events →
        (scene.session.linesBy read path).2 = scene.session ∧
        (scene.session.blocksBy read path).2.reads = scene.session.reads ∧
        (scene.session.blocksBy read path).2.files = scene.session.files)) ∧
    ∀ path, host.canName (fullPath { base } path) = false →
      scene.session.linesBy read path = (.error .notInName,scene.session.countRead) ∧
      scene.session.blocksBy read path = (.error .notInName,scene.session.countRead) := by
  intro scene read
  have holds : Holds _ _ _ scene.session := run_holds host disk clean whole
  have full : ∀ path, scene.session.fullPath path = fullPath { base } path :=
    fun path => fullPath_of_base (base_run host ⟨disk,{ base }⟩ events) path
  refine ⟨fun all => ?_,holds.reads,holds.length_files,fun path own => ?_,fun path unnamed => ?_⟩
  · rw [holds.reads,holds.length_files,named_eq_asked all,refusals_eq_zero all]
    exact ⟨rfl,rfl⟩
  · obtain ⟨first,there⟩ := readLinesOn_eq_outcome host disk clean own events
    have now : path ∉ named host base events → read (scene.session.fullPath path) =
        .ok (outcome host ⟨disk,{ base }⟩ events path) := by
      intro new
      rw [← first,diskFor_of_notMem fun member => new (mem_named_iff.mpr ⟨member,own.named⟩),full]
    have blocks := (holds.blocksBy now).1
    exact ⟨_,there,(holds.linesBy now).1,blocks,
      fun query index file => query.resolveBy_of_blocks file blocks,
      fun asks => holds.again (mem_named_iff.mpr ⟨asks,own.named⟩) read⟩
  · have new : path ∉ named host base events := by
      intro member
      rw [(mem_named_iff.mp member).2] at unnamed
      cases unnamed
    refine holds.refused new ?_
    simp only [read,full,readLinesOn,unnamed,if_true]

end

section Example

def earlySource : String := "METHOD a.\r\nENDMETHOD."

def earlyTree : Disk where
  entries := [(["zcl_a.clas.abap"],.file earlySource.toUTF8)]

def laterTree : Disk where
  entries := [(["zcl_a.clas.abap"],.file "METHOD b.".toUTF8),(["zcl_b.clas.abap"],.file .empty)]

def lateEvents : List Event :=
  [.blocks "zcl_a.clas.abap",.lines "zcl_b.clas.abap",.change laterTree,.lines "zcl_a.clas.abap",
    .blocks "zcl_b.clas.abap"]

theorem content_earlyTree :
    earlyTree.content ⟨.relative,["zcl_a.clas.abap"]⟩ = .ok earlySource.toUTF8 := by
  have reached : earlyTree.target? ⟨.relative,["zcl_a.clas.abap"]⟩ =
      some (["zcl_a.clas.abap"],.file earlySource.toUTF8) := by
    refine Disk.target?_eq_some_iff.mpr ⟨by decide,?_⟩
    exact Disk.walk_file (by decide) rfl
  exact Disk.content_of_target? reached

theorem content_earlyTree_absent :
    earlyTree.content ⟨.relative,["zcl_b.clas.abap"]⟩ = .error .noEntry := by
  have located : earlyTree.locate true ⟨.relative,["zcl_b.clas.abap"]⟩ =
      .ok (.vacant [] "zcl_b.clas.abap") := by
    rw [Disk.locate,if_neg (by decide)]
    exact Disk.walk_vacant (by decide) rfl
  rw [Disk.content,located]
  rfl

theorem changed_file_stays_known :
    let scene := run (.plain : Host Empty) ⟨earlyTree,{}⟩ lateEvents
    scene.disk = laterTree ∧ scene.session.reads = 2 ∧
      (scene.session.linesOf scene.disk "zcl_a.clas.abap").1 =
        .ok (some ["METHOD a.","ENDMETHOD."]) ∧
      (scene.session.blocksOf scene.disk "zcl_a.clas.abap").1 = .ok (some [⟨"a",1,2⟩]) ∧
      (scene.session.linesOf scene.disk "zcl_b.clas.abap").1 = .ok none := by
  intro scene
  have clean : ∀ folder, (none : Option Path) = some folder → folder.hasNull = false := by
    intro folder based
    cases based
  have whole : ∀ path ∈ asked lateEvents, '\x00' ∉ path.toList := by decide
  have askable : ∀ path ∈ asked lateEvents, Askable (.plain : Host Empty) none path :=
    fun path member => ⟨whole path member,Host.canName_plain _⟩
  obtain ⟨counts,_,_,kept,_⟩ := first_outcome_kept (.plain : Host Empty) earlyTree clean whole
  have reads := (counts fun path member => (askable path member).named).1
  obtain ⟨there,found,lines,blocks,_⟩ := kept "zcl_a.clas.abap" (askable _ (by decide))
  obtain ⟨absent,missed,none,_⟩ := kept "zcl_b.clas.abap" (askable _ (by decide))
  have decoded : String.fromUTF8? earlySource.toUTF8 = some earlySource := by decide +kernel
  have early : there = some ["METHOD a.","ENDMETHOD."] :=
    (found.of_text content_earlyTree decoded).trans (by decide)
  have late : absent = Option.none := missed.of_refused content_earlyTree_absent
  subst early late
  refine ⟨rfl,reads.trans (by decide),?_,?_,?_⟩
  · rw [linesOf_eq]
    exact congrArg (Except.mapError fun _ => Trouble.nullInName) lines
  · rw [blocksOf_eq]
    exact congrArg (Except.mapError fun _ => Trouble.nullInName) blocks
  · rw [linesOf_eq]
    exact congrArg (Except.mapError fun _ => Trouble.nullInName) none

end Example

end Scene
end Session
end AbapAtlas

import AbapAtlas.Proofs.Session
import Mathlib.Data.List.Basic
import Mathlib.Logic.Relation

/-! One worker on one finding. A worker shares its session with others and no lock keeps them out,
so between any two of its accesses the others may go on. What it relies on stays so. -/
namespace AbapAtlas
open Session

/-- Where a worker is with the method blocks of a file: before a test whether the session knows
them, before the use of what it knows, before the reading, and before the storing. -/
inductive Access where
  | testBlocks
  | takeBlocks
  | testLines
  | takeLines
  | read
  | keepLines (found : Option (List String))
  | keepBlocks (blocks : Option (List MethodBlock))

inductive Stage where
  | queued
  | begun
  | resolving (line : Nat) (path : String) (access : Access)
  | done (outcome : Except Text.NumeralError Issue)

namespace Stage

def placed (srcDir : String) (finding : Finding) (line : Nat) (path : String)
    (blocks : Option (List MethodBlock)) : Stage :=
  .done (Issue.ofAnswer finding srcDir line (.found ⟨path,
    LinePlacement.fileLine line path blocks (Issue.queryOf finding line).hint⟩))

def failed (srcDir : String) (finding : Finding) (line : Nat) : Stage :=
  .done (Issue.ofAnswer finding srcDir line .failed)

def access (disk : Disk) (srcDir : String) (finding : Finding) (line : Nat) (path : String)
    (memory : Session) : Access → Stage × Session
  | .testBlocks =>
    if (memory.blocks.lookup path).isSome then (.resolving line path .takeBlocks,memory)
    else (.resolving line path .testLines,memory)
  | .takeBlocks =>
    match memory.blocks.lookup path with
    | some blocks => (placed srcDir finding line path blocks,memory)
    | none => (failed srcDir finding line,memory)
  | .testLines =>
    if (memory.files.lookup path).isSome then (.resolving line path .takeLines,memory)
    else (.resolving line path .read,memory)
  | .takeLines =>
    match memory.files.lookup path with
    | some found => (.resolving line path (.keepBlocks (found.map MethodBlock.scan)),memory)
    | none => (failed srcDir finding line,memory)
  | .read =>
    match readLines disk (memory.fullPath path) with
    | .ok found => (.resolving line path (.keepLines found),memory.countRead)
    | .error _ => (failed srcDir finding line,memory.countRead)
  | .keepLines found =>
    (.resolving line path (.keepBlocks (found.map MethodBlock.scan)),memory.keepLines path found)
  | .keepBlocks blocks => (placed srcDir finding line path blocks,memory.keepBlocks path blocks)

def start (index : SourceIndex) (srcDir : String) (finding : Finding) : Stage :=
  match Location.startLine (finding.location.getD "") with
  | .error error => .done (.error error)
  | .ok line =>
    match (Issue.queryOf finding line).file? index with
    | none => .done (Issue.ofAnswer finding srcDir line .unknown)
    | some path =>
      if LinePlacement.countsFromMethod path then .resolving line path .testBlocks
      else placed srcDir finding line path none

def next (index : SourceIndex) (disk : Disk) (srcDir : String) (finding : Finding) :
    Stage → Session → Option (Stage × Session)
  | .queued, _ => none
  | .begun, memory => some (start index srcDir finding,memory)
  | .resolving line path at', memory => some (access disk srcDir finding line path memory at')
  | .done _, _ => none

def isQueued : Stage → Bool
  | .queued => true
  | _ => false

def outcome? : Stage → Option (Except Text.NumeralError Issue)
  | .done outcome => some outcome
  | _ => none

def isActive (stage : Stage) : Bool := !stage.isQueued && stage.outcome?.isNone

end Stage

/-- The issue of a finding alone, in a session that remembers nothing. -/
def Issue.alone (index : SourceIndex) (disk : Disk) (base : Option Path) (srcDir : String)
    (finding : Finding) : Except Text.NumeralError Issue :=
  (Issue.ofFinding (Resolver.ofIndex index disk) srcDir finding { base }).1

def Access.Sound (disk : Disk) (memory : Session) (path : String) : Access → Prop
  -- What a worker relies on before an access: an entry that it saw is still there, and what it is
  -- about to store is what a fresh reading gives.
  | .takeBlocks => (memory.blocks.lookup path).isSome
  | .takeLines => (memory.files.lookup path).isSome
  | .keepLines found => readLines disk (memory.fullPath path) = .ok found
  | .keepBlocks blocks => readBlocks disk (memory.fullPath path) = .ok blocks
  | _ => True

def Stage.Sound (index : SourceIndex) (disk : Disk) (srcDir : String) (finding : Finding)
    (memory : Session) : Stage → Prop
  | .resolving line path access =>
    Location.startLine (finding.location.getD "") = .ok line ∧
      (Issue.queryOf finding line).file? index = some path ∧
      LinePlacement.countsFromMethod path = true ∧ access.Sound disk memory path
  | .done outcome => outcome = Issue.alone index disk memory.base srcDir finding
  | _ => True

section
variable {index : SourceIndex} {disk : Disk} {srcDir : String} {finding : Finding}
variable {memory memory' : Session} {stage stage' : Stage}

/-- What one worker relies on outlives what others add to the session. -/
theorem Stage.Sound.grows (sound : stage.Sound index disk srcDir finding memory)
    (grows : Grows memory memory') : stage.Sound index disk srcDir finding memory' := by
  cases stage with
  | queued => trivial
  | begun => trivial
  | done outcome =>
    rw [Stage.Sound,grows.base]
    exact sound
  | resolving line path access =>
    obtain ⟨read,file,counted,sound⟩ := sound
    refine ⟨read,file,counted,?_⟩
    have place := fullPath_of_base grows.base path
    cases access with
    | takeBlocks => exact grows.blocks path sound
    | takeLines => exact grows.files path sound
    | keepLines found =>
      rw [Access.Sound,place]
      exact sound
    | keepBlocks blocks =>
      rw [Access.Sound,place]
      exact sound
    | testBlocks => trivial
    | testLines => trivial
    | read => trivial

theorem alone_of_counted (disk : Disk) (srcDir : String) (memory : Session) {line : Nat}
    {path : String}
    (read : Location.startLine (finding.location.getD "") = .ok line)
    (file : (Issue.queryOf finding line).file? index = some path)
    (counted : LinePlacement.countsFromMethod path = true) :
    Issue.alone index disk memory.base srcDir finding =
      Issue.ofAnswer finding srcDir line (.ofResult
        ((readBlocks disk (memory.fullPath path)).map (fun blocks =>
          some ⟨path,LinePlacement.fileLine line path blocks (Issue.queryOf finding line).hint⟩))) := by
  have place : Session.fullPath { base := memory.base } path = memory.fullPath path :=
    fullPath_of_base rfl path
  rw [Issue.alone,Issue.ofFinding_ofIndex _ _ _ read,Query.resolve_of_counted file counted,
    ((faithful_fresh disk memory.base).blocksOf path).1,place]
  dsimp only [Issue.queryOf]

theorem placed_sound {line : Nat} {path : String} {blocks : Option (List MethodBlock)}
    (read : Location.startLine (finding.location.getD "") = .ok line)
    (file : (Issue.queryOf finding line).file? index = some path)
    (counted : LinePlacement.countsFromMethod path = true)
    (fresh : readBlocks disk (memory.fullPath path) = .ok blocks) :
    (Stage.placed srcDir finding line path blocks).Sound index disk srcDir finding memory := by
  rw [Stage.placed,Stage.Sound,alone_of_counted _ _ _ read file counted,fresh]
  rfl

theorem start_sound : (Stage.start index srcDir finding).Sound index disk srcDir finding memory := by
  unfold Stage.start
  cases read : Location.startLine (finding.location.getD "") with
  | error error =>
    rw [Stage.Sound,Issue.alone,Issue.ofFinding_of_error _ _ read]
  | ok line =>
    cases file : (Issue.queryOf finding line).file? index with
    | none =>
      simp only [file]
      rw [Stage.Sound,Issue.alone,Issue.ofFinding_ofIndex _ _ _ read,
        Query.resolve_of_unknown file]
      dsimp only [Answer.ofResult]
    | some path =>
      simp only [file]
      cases counted : LinePlacement.countsFromMethod path with
      | true => exact ⟨read,file,counted,trivial⟩
      | false =>
        rw [if_neg (by simp),Stage.placed,Stage.Sound,Issue.alone,Issue.ofFinding_ofIndex _ _ _ read,
          Query.resolve_of_uncounted file counted]
        dsimp only [Answer.ofResult,Issue.queryOf]

/-- An access keeps the session true and the worker on the way to its issue. -/
theorem access_sound {line : Nat} {path : String} {access : Access}
    (faithful : Faithful disk memory)
    (sound : (Stage.resolving line path access).Sound index disk srcDir finding memory)
    (step : Stage.access disk srcDir finding line path memory access = (stage',memory')) :
    Faithful disk memory' ∧ Grows memory memory' ∧
      stage'.Sound index disk srcDir finding memory' := by
  obtain ⟨read,file,counted,sound⟩ := sound
  cases access with
  | testBlocks =>
    rw [Stage.access] at step
    split at step
    · next known =>
      cases step
      exact ⟨faithful,Grows.refl _,read,file,counted,known⟩
    · cases step
      exact ⟨faithful,Grows.refl _,read,file,counted,trivial⟩
  | takeBlocks =>
    obtain ⟨blocks,known⟩ := Option.isSome_iff_exists.mp sound
    rw [Stage.access,known] at step
    cases step
    exact ⟨faithful,Grows.refl _,placed_sound read file counted (faithful.blocks _ _ known)⟩
  | testLines =>
    rw [Stage.access] at step
    split at step
    · next known =>
      cases step
      exact ⟨faithful,Grows.refl _,read,file,counted,known⟩
    · cases step
      exact ⟨faithful,Grows.refl _,read,file,counted,trivial⟩
  | takeLines =>
    obtain ⟨found,known⟩ := Option.isSome_iff_exists.mp sound
    rw [Stage.access,known] at step
    cases step
    refine ⟨faithful,Grows.refl _,read,file,counted,?_⟩
    rw [Access.Sound,readBlocks,faithful.files _ _ known]
    rfl
  | read =>
    rw [Stage.access] at step
    cases fresh : readLines disk (memory.fullPath path) with
    | ok found =>
      rw [fresh] at step
      cases step
      exact ⟨faithful.countRead,grows_countRead _,read,file,counted,fresh⟩
    | error trouble =>
      rw [fresh] at step
      cases step
      refine ⟨faithful.countRead,grows_countRead _,?_⟩
      have alone := alone_of_counted disk srcDir memory read file counted
      rw [readBlocks,fresh] at alone
      exact alone.symm
  | keepLines found =>
    cases step
    refine ⟨faithful.keepLines sound,grows_keepLines _ _ _,read,file,counted,?_⟩
    rw [Access.Sound,readBlocks,fullPath_of_base (grows_keepLines memory path found).base,sound]
    rfl
  | keepBlocks blocks =>
    cases step
    refine ⟨faithful.keepBlocks sound,grows_keepBlocks _ _ _,?_⟩
    refine placed_sound read file counted ?_
    rw [fullPath_of_base (grows_keepBlocks memory path blocks).base]
    exact sound

theorem next_sound (faithful : Faithful disk memory)
    (sound : stage.Sound index disk srcDir finding memory)
    (next : stage.next index disk srcDir finding memory = some (stage',memory')) :
    Faithful disk memory' ∧ Grows memory memory' ∧
      stage'.Sound index disk srcDir finding memory' := by
  cases stage with
  | queued => cases next
  | done outcome => cases next
  | begun =>
    cases next
    exact ⟨faithful,Grows.refl _,start_sound⟩
  | resolving line path access =>
    rw [Stage.next,Option.some.injEq] at next
    exact access_sound faithful sound next

end

def Access.left : Access → Nat
  | .testBlocks => 5
  | .testLines => 4
  | .read => 3
  | .keepLines _ => 2
  | .takeLines => 2
  | .takeBlocks => 1
  | .keepBlocks _ => 1

namespace Stage

def left : Stage → Nat
  | .queued => 7
  | .begun => 6
  | .resolving _ _ access => access.left
  | .done _ => 0

theorem start_left (index : SourceIndex) (srcDir : String) (finding : Finding) :
    (start index srcDir finding).left ≤ 5 := by
  unfold start
  split
  · exact Nat.zero_le _
  · split
    · exact Nat.zero_le _
    · split
      · exact Nat.le_refl _
      · exact Nat.zero_le _

theorem access_left (disk : Disk) (srcDir : String) (finding : Finding) (line : Nat)
    (path : String) (memory : Session) (access : Access) :
    (Stage.access disk srcDir finding line path memory access).1.left < access.left := by
  cases access with
  | keepLines found => exact Nat.lt_succ_self 1
  | keepBlocks blocks => exact Nat.zero_lt_one
  | _ =>
    rw [Stage.access]
    split <;> simp [left,Access.left,placed,failed]

theorem next_left {index : SourceIndex} {disk : Disk} {srcDir : String} {finding : Finding}
    {memory memory' : Session} {stage stage' : Stage}
    (next : stage.next index disk srcDir finding memory = some (stage',memory')) :
    stage'.left < stage.left := by
  cases stage with
  | queued => cases next
  | done outcome => cases next
  | begun =>
    cases next
    exact Nat.lt_succ_of_le (start_left index srcDir finding)
  | resolving line path access =>
    rw [Stage.next,Option.some.injEq] at next
    have less := access_left disk srcDir finding line path memory access
    rw [next] at less
    exact less

end Stage

section Undisturbed
variable (index : SourceIndex) (disk : Disk) (srcDir : String) (finding : Finding)

def Stage.Run (index : SourceIndex) (disk : Disk) (srcDir : String) (finding : Finding) :
    Stage × Session → Stage × Session → Prop :=
  Relation.ReflTransGen (fun a b => a.1.next index disk srcDir finding a.2 = some b)

variable {index disk srcDir finding} in
theorem Stage.Run.access {memory : Session} {line : Nat} {path : String} {access : Access}
    {last : Stage × Session}
    (rest : Run index disk srcDir finding
      (Stage.access disk srcDir finding line path memory access) last) :
    Run index disk srcDir finding (.resolving line path access,memory) last :=
  Relation.ReflTransGen.head rfl rest

theorem run_testLines (memory : Session) (line : Nat) (path : String) :
    Stage.Run index disk srcDir finding (.resolving line path .testLines,memory)
      (match (memory.linesOf disk path).1 with
      | .ok found => (.resolving line path (.keepBlocks (found.map MethodBlock.scan)),
          (memory.linesOf disk path).2)
      | .error _ => (.failed srcDir finding line,(memory.linesOf disk path).2)) := by
  apply Stage.Run.access
  obtain ⟨found,known,same⟩ | ⟨unknown,⟨found,read,same⟩ | ⟨trouble,read,same⟩⟩ :=
    memory.linesOf_cases disk path
  · rw [same,Stage.access,if_pos (by simp [known])]
    apply Stage.Run.access
    rw [Stage.access,known]
    exact .refl
  · rw [same,Stage.access,if_neg (by simp [unknown])]
    apply Stage.Run.access
    rw [Stage.access,read]
    apply Stage.Run.access
    exact .refl
  · rw [same,Stage.access,if_neg (by simp [unknown])]
    apply Stage.Run.access
    rw [Stage.access,read]
    exact .refl

theorem run_testBlocks (memory : Session) (line : Nat) (path : String) :
    Stage.Run index disk srcDir finding (.resolving line path .testBlocks,memory)
      (match (memory.blocksOf disk path).1 with
      | .ok blocks => .placed srcDir finding line path blocks
      | .error _ => .failed srcDir finding line,(memory.blocksOf disk path).2) := by
  apply Stage.Run.access
  obtain ⟨blocks,known,same⟩ | ⟨unknown,⟨found,lines,same⟩ | ⟨trouble,lines,same⟩⟩ :=
    memory.blocksOf_cases disk path
  · rw [same,Stage.access,if_pos (by simp [known])]
    apply Stage.Run.access
    rw [Stage.access,known]
    exact .refl
  · rw [same,Stage.access,if_neg (by simp [unknown])]
    have reading := run_testLines index disk srcDir finding memory line path
    rw [lines] at reading
    refine Relation.ReflTransGen.trans reading ?_
    apply Stage.Run.access
    exact .refl
  · rw [same,Stage.access,if_neg (by simp [unknown])]
    have reading := run_testLines index disk srcDir finding memory line path
    rw [lines] at reading
    exact reading

/-- A worker that no other disturbs makes the issue that is made of its finding one at a time, and
leaves the same session. -/
theorem run_begun (memory : Session) :
    Stage.Run index disk srcDir finding (.begun,memory)
      (.done (Issue.ofFinding (Resolver.ofIndex index disk) srcDir finding memory).1,
        (Issue.ofFinding (Resolver.ofIndex index disk) srcDir finding memory).2) := by
  have begun : Stage.next index disk srcDir finding .begun memory =
      some (Stage.start index srcDir finding,memory) := rfl
  refine Relation.ReflTransGen.head begun ?_
  unfold Stage.start
  cases read : Location.startLine (finding.location.getD "") with
  | error error =>
    rw [Issue.ofFinding_of_error _ _ read]
  | ok line =>
    rw [Issue.ofFinding_ofIndex _ _ _ read]
    cases file : (Issue.queryOf finding line).file? index with
    | none =>
      rw [Query.resolve_of_unknown file]
      simp only [file]
      exact .refl
    | some path =>
      simp only [file]
      cases counted : LinePlacement.countsFromMethod path with
      | false =>
        rw [Query.resolve_of_uncounted file counted,if_neg (by simp)]
        exact .refl
      | true =>
        rw [Query.resolve_of_counted file counted,if_pos rfl]
        have run := run_testBlocks index disk srcDir finding memory line path
        rcases step : memory.blocksOf disk path with ⟨trouble | blocks,later⟩
        · rw [step] at run
          exact run
        · rw [step] at run
          exact run

end Undisturbed
end AbapAtlas

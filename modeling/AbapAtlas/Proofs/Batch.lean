import AbapAtlas.Proofs.Worker
import Mathlib.Algebra.GroupWithZero.Nat

/-! Several workers on one batch of findings. Whatever the order of their steps, all of them come to
an end, and every finding gets the issue that it gets alone. -/
namespace AbapAtlas
open Session

structure Batch where
  memory : Session
  tasks : List (Finding × Stage)

namespace Batch

def start (findings : List Finding) (memory : Session) : Batch :=
  ⟨memory,findings.map (fun finding => (finding,.queued))⟩

def active (batch : Batch) : Nat := batch.tasks.countP (·.2.isActive)

def result? (batch : Batch) : Option (Except Text.NumeralError (List Issue)) :=
  if batch.tasks.all (·.2.outcome?.isSome) then
    some ((batch.tasks.filterMap (·.2.outcome?)).mapM id)
  else none

/-- One step of a pool: a free worker takes on the first task that waits, or a busy one goes on. -/
inductive Step (index : SourceIndex) (disk : Disk) (srcDir : String) (maxWorkers : Int) :
    Batch → Batch → Prop where
  | begin {memory : Session} {before after : List (Finding × Stage)} {finding : Finding}
      (first : ∀ task ∈ before, task.2.isQueued = false)
      (free : (active ⟨memory,before ++ (finding,.queued) :: after⟩ : Int) < maxWorkers) :
      Step index disk srcDir maxWorkers ⟨memory,before ++ (finding,.queued) :: after⟩
        ⟨memory,before ++ (finding,.begun) :: after⟩
  | advance {memory memory' : Session} {before after : List (Finding × Stage)} {finding : Finding}
      {stage stage' : Stage} (next : stage.next index disk srcDir finding memory = some (stage',memory')) :
      Step index disk srcDir maxWorkers ⟨memory,before ++ (finding,stage) :: after⟩
        ⟨memory',before ++ (finding,stage') :: after⟩

/-- That every run of a pool from a batch on comes to its end with this result, whatever the order
of the steps. -/
inductive Surely (index : SourceIndex) (disk : Disk) (srcDir : String) (maxWorkers : Int)
    (result : Except Text.NumeralError (List Issue)) : Batch → Prop where
  | ended {batch : Batch} (done : batch.result? = some result) :
      Surely index disk srcDir maxWorkers result batch
  | working {batch : Batch} (goes : ∃ later, Step index disk srcDir maxWorkers batch later)
      (surely : ∀ later, Step index disk srcDir maxWorkers batch later →
        Surely index disk srcDir maxWorkers result later) :
      Surely index disk srcDir maxWorkers result batch

def left (batch : Batch) : Nat := (batch.tasks.map (·.2.left)).sum

variable {index : SourceIndex} {disk : Disk} {base : Option Path} {srcDir : String}
variable {maxWorkers : Int} {findings : List Finding} {batch later : Batch}

structure Sound (index : SourceIndex) (disk : Disk) (base : Option Path) (srcDir : String)
    (findings : List Finding) (batch : Batch) : Prop where
  faithful : Faithful disk batch.memory
  base : batch.memory.base = base
  findings : batch.tasks.map Prod.fst = findings
  stages : ∀ task ∈ batch.tasks, task.2.Sound index disk srcDir task.1 batch.memory

theorem start_sound {memory : Session} (faithful : Faithful disk memory)
    (findings : List Finding) :
    Sound index disk memory.base srcDir findings (start findings memory) := by
  refine ⟨faithful,rfl,?_,?_⟩
  · rw [start,List.map_map]
    exact List.map_id _
  · intro task member
    obtain ⟨finding,_,rfl⟩ := List.mem_map.mp member
    trivial

theorem forall_mem_replaced {α : Type} {p q : α → Prop} {before after : List α} {old new : α}
    (lasts : ∀ item, p item → q item) (all : ∀ item ∈ before ++ old :: after, p item)
    (own : q new) : ∀ item ∈ before ++ new :: after, q item := by
  simp only [List.forall_mem_append,List.forall_mem_cons] at all ⊢
  obtain ⟨early,_,late⟩ := all
  exact ⟨fun item member => lasts item (early item member),own,
    fun item member => lasts item (late item member)⟩

theorem step_sound (sound : Sound index disk base srcDir findings batch)
    (step : Step index disk srcDir maxWorkers batch later) :
    Sound index disk base srcDir findings later := by
  obtain ⟨faithful,based,same,stages⟩ := sound
  cases step with
  | @begin memory before after finding first free =>
    exact ⟨faithful,based,by simpa using same,forall_mem_replaced (fun _ => id) stages trivial⟩
  | @advance memory memory' before after finding stage stage' next =>
    have own := stages _ (List.mem_append_right _ List.mem_cons_self)
    obtain ⟨faithful',grows,own'⟩ := next_sound faithful own next
    exact ⟨faithful',grows.base.trans based,by simpa using same,
      forall_mem_replaced (fun _ sound => sound.grows grows) stages own'⟩

theorem step_left (step : Step index disk srcDir maxWorkers batch later) :
    later.left < batch.left := by
  cases step with
  | begin first free => simp [left,Stage.left]
  | advance next =>
    have less := Stage.next_left next
    simp only [left,List.map_append,List.map_cons,List.sum_append,List.sum_cons]
    omega

/-- As long as a task waits or is in work, the pool can go on. -/
theorem exists_step (batch : Batch) (workers : 0 < maxWorkers)
    (working : ∃ task ∈ batch.tasks, task.2.outcome? = none) :
    ∃ later, Step index disk srcDir maxWorkers batch later := by
  obtain ⟨memory,tasks⟩ := batch
  by_cases busy : ∃ task ∈ tasks, task.2.isActive = true
  · obtain ⟨⟨finding,stage⟩,member,active⟩ := busy
    obtain ⟨before,after,rfl⟩ := List.append_of_mem member
    cases stage with
    | queued => cases active
    | done outcome => cases active
    | begun => exact ⟨_,.advance rfl⟩
    | resolving line path access => exact ⟨_,.advance rfl⟩
  · -- Nobody is at work, so a task that is not done waits, and a worker is free.
    have idle : ∀ task ∈ tasks, task.2.isActive = false := by
      intro task member
      by_contra active
      exact busy ⟨task,member,by simpa using active⟩
    obtain ⟨task,member,undone⟩ := working
    have waits : task.2.isQueued = true := by
      have inactive := idle task member
      rw [Stage.isActive,undone] at inactive
      simpa using inactive
    cases found : tasks.find? (·.2.isQueued) with
    | none =>
      have none := List.find?_eq_none.mp found task member
      exact absurd waits none
    | some first =>
      obtain ⟨queued,before,after,rfl,others⟩ := List.find?_eq_some_iff_append.mp found
      obtain ⟨finding,stage⟩ := first
      cases stage with
      | queued =>
        refine ⟨_,.begin (fun task member => by simpa using others task member) ?_⟩
        have nobody : active ⟨memory,before ++ (finding,.queued) :: after⟩ = 0 := by
          refine List.countP_eq_zero.mpr ?_
          intro task member active
          rw [idle task member] at active
          cases active
        rw [nobody]
        exact workers
      | begun => cases queued
      | resolving line path access => cases queued
      | done outcome => cases queued

theorem filterMap_outcome? (sound : Sound index disk base srcDir findings batch)
    (done : ∀ task ∈ batch.tasks, task.2.outcome?.isSome = true) :
    batch.tasks.filterMap (·.2.outcome?) = findings.map (Issue.alone index disk base srcDir) := by
  obtain ⟨faithful,rfl,rfl,stages⟩ := sound
  obtain ⟨memory,tasks⟩ := batch
  rw [List.map_map]
  induction tasks with
  | nil => rfl
  | cons task rest ih =>
    have own := stages task List.mem_cons_self
    have ended := done task List.mem_cons_self
    obtain ⟨finding,stage⟩ := task
    cases stage with
    | queued => cases ended
    | begun => cases ended
    | resolving line path access => cases ended
    | done outcome =>
      have rest := ih (fun task member => done task (List.mem_cons_of_mem _ member)) faithful
        (fun task member => stages task (List.mem_cons_of_mem _ member))
      rw [List.filterMap_cons,List.map_cons,← rest,own]
      rfl

/-- Every run of a pool that has a worker ends in the issues that the findings get alone. -/
theorem surely_of_sound (workers : 0 < maxWorkers)
    (sound : Sound index disk base srcDir findings batch) :
    Surely index disk srcDir maxWorkers
      ((findings.map (Issue.alone index disk base srcDir)).mapM id) batch := by
  induction length : batch.left using Nat.strongRecOn generalizing batch with
  | ind n ih =>
    by_cases done : ∀ task ∈ batch.tasks, task.2.outcome?.isSome = true
    · refine .ended ?_
      rw [result?,if_pos (List.all_eq_true.mpr done),filterMap_outcome? sound done]
    · refine .working (exists_step batch workers ?_) ?_
      · by_contra idle
        refine done (fun task member => ?_)
        rw [Option.isSome_iff_ne_none]
        exact fun undone => idle ⟨task,member,undone⟩
      · intro later step
        exact ih later.left (length ▸ step_left step) (step_sound sound step) rfl

theorem result?_eq_some {result : Except Text.NumeralError (List Issue)}
    (done : batch.result? = some result) :
    (∀ task ∈ batch.tasks, task.2.outcome?.isSome = true) ∧
      (batch.tasks.filterMap (·.2.outcome?)).mapM id = result := by
  rw [result?] at done
  split at done
  · next all =>
    cases done
    exact ⟨List.all_eq_true.mp all,rfl⟩
  · cases done

theorem not_step_of_result? {result : Except Text.NumeralError (List Issue)}
    (done : batch.result? = some result) : ¬ Step index disk srcDir maxWorkers batch later := by
  intro step
  obtain ⟨all,_⟩ := result?_eq_some done
  cases step with
  | begin => cases all _ (List.mem_append_right _ List.mem_cons_self)
  | @advance _ _ _ _ _ stage _ next =>
    have ended := all _ (List.mem_append_right _ List.mem_cons_self)
    cases stage with
    | queued => cases next
    | begun => cases ended
    | resolving line path access => cases ended
    | done outcome => cases next

theorem Surely.exists_run {result : Except Text.NumeralError (List Issue)}
    (surely : Surely index disk srcDir maxWorkers result batch) :
    ∃ last, Relation.ReflTransGen (Step index disk srcDir maxWorkers) batch last ∧
      last.result? = some result := by
  induction surely with
  | ended done => exact ⟨_,.refl,done⟩
  | working goes _ ih =>
    obtain ⟨later,step⟩ := goes
    obtain ⟨last,run,done⟩ := ih later step
    exact ⟨last,.head step run,done⟩

theorem Surely.result_of_run {result other : Except Text.NumeralError (List Issue)} {last : Batch}
    (surely : Surely index disk srcDir maxWorkers result batch)
    (run : Relation.ReflTransGen (Step index disk srcDir maxWorkers) batch last)
    (done : last.result? = some other) : other = result := by
  induction surely with
  | @ended batch first =>
    rcases run.cases_head with rfl | ⟨later,step,_⟩
    · exact Option.some.inj (done.symm.trans first)
    · exact absurd step (not_step_of_result? first)
  | @working batch goes _ ih =>
    rcases run.cases_head with rfl | ⟨later,step,rest⟩
    · obtain ⟨later,step⟩ := goes
      exact absurd step (not_step_of_result? done)
    · exact ih later step rest

end Batch
end AbapAtlas

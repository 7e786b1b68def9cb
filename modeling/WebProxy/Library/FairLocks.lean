import Mathlib.Logic.Function.Basic
import WebProxy.Library.Machine
import WebProxy.Library.Slots
import WebProxy.Library.Weights

/-! Tasks that share fair locks. A lock has a capacity and a guard takes an amount of it: a mutex has
capacity one, a semaphore its permits, and of a readers-writer lock a reader takes one and a writer all.
Who has to wait is served in the order of arrival, and nobody overtakes a waiting task. -/

namespace FairLocks

open Weights

/-- What a task has left to do, as far as other tasks notice. `attempt` takes the lock if it is free at
once and goes on without it otherwise; `outside` waits for something that is not a task; `spawn` starts a
task and gives it some of the guards, `fork` starts one that the set of this task has, and `join` waits
until one task of the set is through, if the set has any. -/
inductive Script (L : Type) where
  | done
  | acquire (lock : L) (amount : Nat) (next : Script L)
  | attempt (lock : L) (amount : Nat) (taken missed : Script L)
  | release (lock : L) (next : Script L)
  | outside (next : Script L)
  | spawn (carried : List L) (task next : Script L)
  | fork (task next : Script L)
  | join (next : Script L)

/-- `owner` is the task in whose set a task is, until it is collected from there. -/
structure Task (L : Type) where
  rest : Script L
  held : List (L × Nat)
  queued : Bool
  owner : Option Nat

structure State (L : Type) where
  tasks : List (Task L)
  queue : L → List Nat

/-- What can happen: a task comes in, does its next step, collects another one from its set, is given the
lock it is the first to wait for, or is dropped. -/
inductive Event (L : Type) where
  | enter (script : Script L)
  | advance (task : Nat)
  | collect (task other : Nat)
  | grant (lock : L)
  | drop (task : Nat)

/-- The order of the locks. A task that joins holds locks up to `bar` at most and the tasks in its set wait
for locks above it; a task that waits for the outside holds locks up to `calm` at most. -/
structure Ranks (L : Type) where
  capacity : L → Nat
  level : L → Nat
  bar : Nat
  calm : Nat
  bar_le : bar ≤ calm

variable {L : Type} [DecidableEq L]

namespace Task

def locks (task : Task L) : List L :=
  task.held.map Prod.fst

def holding (task : Task L) (lock : L) : Nat :=
  weight (fun guard => if guard.1 = lock then guard.2 else 0) task.held

def goOn (task : Task L) (next : Script L) : Task L :=
  { task with rest := next }

def take (task : Task L) (lock : L) (amount : Nat) (next : Script L) : Task L :=
  { task with rest := next, held := (lock, amount) :: task.held, queued := false }

def giveBack (task : Task L) (lock : L) (next : Script L) : Task L :=
  { task with rest := next, held := task.held.filter (fun guard => guard.1 ≠ lock) }

def wait (task : Task L) : Task L :=
  { task with queued := true }

def quit (task : Task L) : Task L :=
  ⟨.done, [], false, task.owner⟩

def handOver (task : Task L) (carried : List L) (next : Script L) : Task L :=
  { task with rest := next, held := task.held.filter (fun guard => guard.1 ∉ carried) }

def heir (task : Task L) (carried : List L) (script : Script L) : Task L :=
  ⟨script, task.held.filter (fun guard => guard.1 ∈ carried), false, none⟩

def WaitsFor (task : Task L) (lock : L) : Prop :=
  task.queued = true ∧ ∃ amount next, task.rest = .acquire lock amount next

end Task

def fresh (script : Script L) (owner : Option Nat) : Task L :=
  ⟨script, [], false, owner⟩

namespace State

def empty : State L :=
  ⟨[], fun _ => []⟩

def used (state : State L) (lock : L) : Nat :=
  weight (fun task => task.holding lock) state.tasks

def put (state : State L) (index : Nat) (task : Task L) : State L :=
  { state with tasks := state.tasks.set index task }

def push (state : State L) (task : Task L) : State L :=
  { state with tasks := state.tasks ++ [task] }

def collect (state : State L) (index other : Nat) (task child : Task L) : Option (State L) :=
  match task.rest, child.rest with
  | .join next, .done =>
      if child.owner = some index ∧ other ≠ index then
        some ((state.put index (task.goOn next)).put other { child with owner := none })
      else none
  | _, _ => none

def drop (state : State L) (index : Nat) (task : Task L) : Option (State L) :=
  match task.rest with
  | .done => none
  | _ => some
      { state.put index task.quit with
        queue := fun lock => (state.queue lock).filter (fun other => other ≠ index) }

end State

namespace Ranks

variable (ranks : Ranks L)

/-- Whether a task that asks now gets the lock at once. -/
def free (state : State L) (lock : L) (amount : Nat) : Bool :=
  (state.queue lock).isEmpty && decide (state.used lock + amount ≤ ranks.capacity lock)

def advance (state : State L) (index : Nat) (task : Task L) : Option (State L) :=
  match task.rest with
  | .done => none
  | .acquire lock amount next =>
      if task.queued then none
      else if ranks.free state lock amount then some (state.put index (task.take lock amount next))
      else some
        { state.put index task.wait with
          queue := Function.update state.queue lock (state.queue lock ++ [index]) }
  | .attempt lock amount taken missed =>
      if ranks.free state lock amount then some (state.put index (task.take lock amount taken))
      else some (state.put index (task.goOn missed))
  | .release lock next => some (state.put index (task.giveBack lock next))
  | .outside next => some (state.put index (task.goOn next))
  | .spawn carried other next =>
      some ((state.put index (task.handOver carried next)).push (task.heir carried other))
  | .fork other next => some ((state.put index (task.goOn next)).push (fresh other (some index)))
  | .join next =>
      if state.tasks.any (fun other => other.owner = some index) then none
      else some (state.put index (task.goOn next))

def grant (state : State L) (lock : L) : Option (State L) :=
  match state.queue lock with
  | [] => none
  | index :: later =>
      match state.tasks[index]? with
      | none => none
      | some task =>
          match task.rest with
          | .acquire wanted amount next =>
              if wanted = lock ∧ state.used lock + amount ≤ ranks.capacity lock then
                some { state.put index (task.take lock amount next) with
                  queue := Function.update state.queue lock later }
              else none
          | _ => none

def step (state : State L) : Event L → Option (State L)
  | .enter script => some (state.push (fresh script none))
  | .advance index => state.tasks[index]?.bind (ranks.advance state index)
  | .collect index other =>
      state.tasks[index]?.bind (fun task => state.tasks[other]?.bind (state.collect index other task))
  | .grant lock => ranks.grant state lock
  | .drop index => state.tasks[index]?.bind (state.drop index)

def Deep : Script L → Prop
  | .done => True
  | .acquire lock _ next => ranks.bar < ranks.level lock ∧ Deep next
  | .attempt _ _ taken missed => Deep taken ∧ Deep missed
  | .release _ next | .outside next | .spawn _ _ next | .fork _ next | .join next => Deep next

/-- A script keeps to the order, from the locks its task holds: it waits only for locks above all of them,
joins and waits for the outside only with what it may hold there, and has no guard left at its end. -/
def Orderly : List L → Script L → Prop
  | held, .done => held = []
  | held, .acquire lock amount next =>
      amount ≤ ranks.capacity lock ∧ (∀ other ∈ held, ranks.level other < ranks.level lock) ∧
        Orderly (lock :: held) next
  | held, .attempt lock _ taken missed => Orderly (lock :: held) taken ∧ Orderly held missed
  | held, .release lock next => Orderly (held.filter (fun other => other ≠ lock)) next
  | held, .outside next => (∀ other ∈ held, ranks.level other ≤ ranks.calm) ∧ Orderly held next
  | held, .spawn carried task next =>
      Orderly (held.filter (fun other => other ∈ carried)) task ∧
        Orderly (held.filter (fun other => other ∉ carried)) next
  | held, .fork task next => ranks.Deep task ∧ Orderly [] task ∧ Orderly held next
  | held, .join next => (∀ other ∈ held, ranks.level other ≤ ranks.bar) ∧ Orderly held next

end Ranks

inductive Turn (task : Task L) : Task L → Prop where
  | take {lock amount next} (head : task.rest = .acquire lock amount next) (here : task.queued = false) :
      Turn task (task.take lock amount next)
  | taken {lock amount taken missed} (head : task.rest = .attempt lock amount taken missed) :
      Turn task (task.take lock amount taken)
  | missed {lock amount taken missed} (head : task.rest = .attempt lock amount taken missed) :
      Turn task (task.goOn missed)
  | release {lock next} (head : task.rest = .release lock next) : Turn task (task.giveBack lock next)
  | outside {next} (head : task.rest = .outside next) : Turn task (task.goOn next)
  | passed {next} (head : task.rest = .join next) : Turn task (task.goOn next)

inductive Move (state : State L) : Event L → State L → Prop where
  | enter (script : Script L) : Move state (.enter script) (state.push (fresh script none))
  | turn {index task after} (found : state.tasks[index]? = some task) (turn : Turn task after) :
      Move state (.advance index) (state.put index after)
  | wait {index task lock amount next} (found : state.tasks[index]? = some task)
      (head : task.rest = .acquire lock amount next) (here : task.queued = false) :
      Move state (.advance index)
        { state.put index task.wait with
          queue := Function.update state.queue lock (state.queue lock ++ [index]) }
  | spawn {index task carried other next} (found : state.tasks[index]? = some task)
      (head : task.rest = .spawn carried other next) :
      Move state (.advance index) ((state.put index (task.handOver carried next)).push (task.heir carried other))
  | fork {index task other next} (found : state.tasks[index]? = some task)
      (head : task.rest = .fork other next) :
      Move state (.advance index) ((state.put index (task.goOn next)).push (fresh other (some index)))
  | collect {index other task child next} (found : state.tasks[index]? = some task)
      (present : state.tasks[other]? = some child) (head : task.rest = .join next)
      (through : child.rest = .done) (mine : child.owner = some index) (apart : other ≠ index) :
      Move state (.collect index other)
        ((state.put index (task.goOn next)).put other { child with owner := none })
  | grant {lock index later task amount next} (first : state.queue lock = index :: later)
      (found : state.tasks[index]? = some task) (head : task.rest = .acquire lock amount next) :
      Move state (.grant lock)
        { state.put index (task.take lock amount next) with queue := Function.update state.queue lock later }
  | drop {index task} (found : state.tasks[index]? = some task) (busy : task.rest ≠ .done) :
      Move state (.drop index)
        { state.put index task.quit with
          queue := fun lock => (state.queue lock).filter (fun other => other ≠ index) }

section Steps

variable {ranks : Ranks L}

theorem advance_cases {state next : State L} {index : Nat} {task : Task L}
    (found : state.tasks[index]? = some task) (taken : ranks.advance state index task = some next) :
    Move state (.advance index) next := by
  unfold Ranks.advance at taken
  cases head : task.rest with
  | done => simp [head] at taken
  | acquire lock amount rest =>
      simp only [head] at taken
      split at taken
      · cases taken
      case isFalse here =>
        rw [Bool.not_eq_true] at here
        split at taken
        · cases taken
          exact .turn found (.take head here)
        · cases taken
          exact .wait found head here
  | attempt lock amount yes no =>
      simp only [head] at taken
      split at taken
      · cases taken
        exact .turn found (.taken head)
      · cases taken
        exact .turn found (.missed head)
  | release lock rest =>
      simp only [head, Option.some.injEq] at taken
      subst taken
      exact .turn found (.release head)
  | outside rest =>
      simp only [head, Option.some.injEq] at taken
      subst taken
      exact .turn found (.outside head)
  | spawn carried other rest =>
      simp only [head, Option.some.injEq] at taken
      subst taken
      exact .spawn found head
  | fork other rest =>
      simp only [head, Option.some.injEq] at taken
      subst taken
      exact .fork found head
  | join rest =>
      simp only [head] at taken
      split at taken
      · cases taken
      · cases taken
        exact .turn found (.passed head)

theorem step_cases {state next : State L} {event : Event L} (taken : ranks.step state event = some next) :
    Move state event next := by
  cases event with
  | enter script =>
      cases taken
      exact .enter script
  | advance index =>
      obtain ⟨task, found, moved⟩ := Option.bind_eq_some_iff.mp taken
      exact advance_cases found moved
  | collect index other =>
      obtain ⟨task, found, moved⟩ := Option.bind_eq_some_iff.mp taken
      obtain ⟨child, present, moved⟩ := Option.bind_eq_some_iff.mp moved
      unfold State.collect at moved
      split at moved
      · rename_i rest head through
        split at moved
        · rename_i fits
          cases moved
          exact .collect found present head through fits.1 fits.2
        · cases moved
      · cases moved
  | grant lock =>
      change ranks.grant state lock = some next at taken
      unfold Ranks.grant at taken
      split at taken
      · cases taken
      · rename_i index later first
        split at taken
        · cases taken
        · rename_i task found
          split at taken
          · rename_i wanted amount rest head
            split at taken
            · rename_i fits
              obtain ⟨rfl, _⟩ := fits
              cases taken
              exact .grant first found head
            · cases taken
          · cases taken
  | drop index =>
      obtain ⟨task, found, moved⟩ := Option.bind_eq_some_iff.mp taken
      unfold State.drop at moved
      split at moved
      · cases moved
      · rename_i busy
        cases moved
        exact .drop found busy

theorem locks_giveBack (task : Task L) (lock : L) (next : Script L) :
    (task.giveBack lock next).locks = task.locks.filter (fun other => other ≠ lock) := by
  unfold Task.locks Task.giveBack
  rw [List.filter_map]
  rfl

theorem locks_handOver (task : Task L) (carried : List L) (next : Script L) :
    (task.handOver carried next).locks = task.locks.filter (fun other => other ∉ carried) := by
  unfold Task.locks Task.handOver
  rw [List.filter_map]
  rfl

theorem locks_heir (task : Task L) (carried : List L) (script : Script L) :
    (task.heir carried script).locks = task.locks.filter (fun other => other ∈ carried) := by
  unfold Task.locks Task.heir
  rw [List.filter_map]
  rfl

theorem Turn.orderly {task after : Task L} (turn : Turn task after)
    (orderly : ranks.Orderly task.locks task.rest) : ranks.Orderly after.locks after.rest := by
  cases turn with
  | take head here =>
      rw [head] at orderly
      exact orderly.2.2
  | taken head =>
      rw [head] at orderly
      exact orderly.1
  | missed head =>
      rw [head] at orderly
      exact orderly.2
  | release head =>
      rw [head] at orderly
      rw [locks_giveBack]
      exact orderly
  | outside head =>
      rw [head] at orderly
      exact orderly.2
  | passed head =>
      rw [head] at orderly
      exact orderly.2

theorem Turn.deep {task after : Task L} (turn : Turn task after) (deep : ranks.Deep task.rest) :
    ranks.Deep after.rest := by
  cases turn with
  | take head here =>
      rw [head] at deep
      exact deep.2
  | taken head =>
      rw [head] at deep
      exact deep.1
  | missed head =>
      rw [head] at deep
      exact deep.2
  | release head | outside head | passed head =>
      rw [head] at deep
      exact deep

theorem Turn.owner {task after : Task L} (turn : Turn task after) : after.owner = task.owner := by
  cases turn <;> rfl

theorem Turn.idle {task after : Task L} (turn : Turn task after)
    (waiting : task.queued = true → ∃ lock, task.WaitsFor lock) :
    task.queued = false ∧ after.queued = false := by
  have elsewhere : (∀ lock amount next, task.rest ≠ .acquire lock amount next) → task.queued = false := by
    intro other
    by_contra queued
    obtain ⟨lock, _, amount, next, head⟩ := waiting (by simpa using queued)
    exact other lock amount next head
  cases turn with
  | take head here => exact ⟨here, rfl⟩
  | taken head => exact ⟨elsewhere (by simp [head]), rfl⟩
  | missed head | release head | outside head | passed head =>
      have here := elsewhere (by simp [head])
      exact ⟨here, here⟩

end Steps

/-- What holds in every state of a run: the tasks keep to the order, the tasks of a set come after the
task that has it, and the queues hold the tasks that wait, each once. -/
structure Sound (ranks : Ranks L) (state : State L) : Prop where
  orderly : ∀ task ∈ state.tasks, ranks.Orderly task.locks task.rest
  owned : ∀ (index : Nat) (task : Task L) (owner : Nat), state.tasks[index]? = some task →
    task.owner = some owner → owner < index ∧ ranks.Deep task.rest
  listed : ∀ lock index, index ∈ state.queue lock ↔
    ∃ task, state.tasks[index]? = some task ∧ task.WaitsFor lock
  distinct : ∀ lock, (state.queue lock).Nodup
  waiting : ∀ task ∈ state.tasks, task.queued = true → ∃ lock, task.WaitsFor lock

section Safety

variable {ranks : Ranks L} {state : State L}

theorem sound_empty : Sound ranks (State.empty : State L) := by
  constructor
  · intro task member
    cases member
  · intro index task owner found
    cases found
  · intro lock index
    constructor
    · intro member
      cases member
    · intro found
      obtain ⟨task, present, _⟩ := found
      cases present
  · intro lock
    exact List.nodup_nil
  · intro task member
    cases member

/-- One task and the queues change: the other tasks keep their places, and the changed one is in the
queues it waits in. -/
theorem sound_replace (sound : Sound ranks state) {index : Nat} {task after : Task L}
    (found : state.tasks[index]? = some task) {queue : L → List Nat}
    (orderly : ranks.Orderly after.locks after.rest)
    (owner : ∀ owner, after.owner = some owner → task.owner = some owner)
    (deep : ranks.Deep task.rest → ranks.Deep after.rest)
    (waiting : after.queued = true → ∃ lock, after.WaitsFor lock)
    (distinct : ∀ lock, (queue lock).Nodup)
    (others : ∀ lock other, other ≠ index → (other ∈ queue lock ↔ other ∈ state.queue lock))
    (own : ∀ lock, index ∈ queue lock ↔ after.WaitsFor lock) :
    Sound ranks ⟨state.tasks.set index after, queue⟩ := by
  constructor
  · intro other member
    rcases List.mem_or_eq_of_mem_set member with old | rfl
    · exact sound.orderly other old
    · exact orderly
  · intro place other boss present belongs
    rcases Slots.get_set_cases present with ⟨rfl, rfl⟩ | ⟨_, old⟩
    · obtain ⟨before, low⟩ := sound.owned place task boss found (owner boss belongs)
      exact ⟨before, deep low⟩
    · exact sound.owned place other boss old belongs
  · intro lock place
    by_cases same : place = index
    · subst same
      rw [own lock]
      constructor
      · intro waits
        exact ⟨after, Slots.get_set_self after found, waits⟩
      · intro there
        obtain ⟨other, present, waits⟩ := there
        rw [Slots.get_set_self after found] at present
        cases present
        exact waits
    · rw [others lock place same, sound.listed lock place]
      dsimp only
      rw [List.getElem?_set_ne (Ne.symm same)]
  · exact distinct
  · intro other member queued
    rcases List.mem_or_eq_of_mem_set member with old | rfl
    · exact sound.waiting other old queued
    · exact waiting queued

theorem sound_put (sound : Sound ranks state) {index : Nat} {task after : Task L}
    (found : state.tasks[index]? = some task) (idle : task.queued = false) (still : after.queued = false)
    (orderly : ranks.Orderly after.locks after.rest)
    (owner : ∀ owner, after.owner = some owner → task.owner = some owner)
    (deep : ranks.Deep task.rest → ranks.Deep after.rest) : Sound ranks (state.put index after) := by
  apply sound_replace sound found orderly owner deep
  · intro queued
    rw [still] at queued
    cases queued
  · exact sound.distinct
  · intro lock other _
    exact Iff.rfl
  · intro lock
    constructor
    · intro member
      obtain ⟨other, present, queued, _⟩ := (sound.listed lock index).mp member
      rw [found] at present
      cases present
      rw [idle] at queued
      cases queued
    · intro waits
      have queued := waits.1
      rw [still] at queued
      cases queued

theorem sound_push (sound : Sound ranks state) {task : Task L} (idle : task.queued = false)
    (orderly : ranks.Orderly task.locks task.rest)
    (owner : ∀ owner, task.owner = some owner → owner < state.tasks.length ∧ ranks.Deep task.rest) :
    Sound ranks (state.push task) := by
  constructor
  · intro other member
    rcases List.mem_append.mp member with old | last
    · exact sound.orderly other old
    · cases List.mem_singleton.mp last
      exact orderly
  · intro index other boss present belongs
    rcases Slots.get_snoc_cases present with old | ⟨rfl, rfl⟩
    · exact sound.owned index other boss old belongs
    · exact owner boss belongs
  · intro lock index
    change index ∈ state.queue lock ↔ _
    rw [sound.listed lock index]
    constructor
    · intro there
      obtain ⟨other, present, waits⟩ := there
      exact ⟨other, Slots.get_snoc task present, waits⟩
    · intro there
      obtain ⟨other, present, waits⟩ := there
      rcases Slots.get_snoc_cases present with old | ⟨_, rfl⟩
      · exact ⟨other, old, waits⟩
      · have queued := waits.1
        rw [idle] at queued
        cases queued
  · exact sound.distinct
  · intro other member queued
    rcases List.mem_append.mp member with old | last
    · exact sound.waiting other old queued
    · cases List.mem_singleton.mp last
      rw [idle] at queued
      cases queued

theorem sound_idle (sound : Sound ranks state) {index : Nat} {task : Task L}
    (found : state.tasks[index]? = some task) (idle : task.queued = false) (lock : L) :
    index ∉ state.queue lock := by
  intro member
  obtain ⟨other, present, queued, _⟩ := (sound.listed lock index).mp member
  rw [found] at present
  cases present
  rw [idle] at queued
  cases queued

theorem sound_wait (sound : Sound ranks state) {index : Nat} {task : Task L} {lock : L} {amount : Nat}
    {next : Script L} (found : state.tasks[index]? = some task)
    (head : task.rest = .acquire lock amount next) (here : task.queued = false) :
    Sound ranks { state.put index task.wait with
      queue := Function.update state.queue lock (state.queue lock ++ [index]) } := by
  have absent := sound_idle sound found here
  have waits : ∀ other, task.wait.WaitsFor other ↔ other = lock := by
    intro other
    constructor
    · intro waiting
      obtain ⟨_, wanted, rest, asked⟩ := waiting
      rw [show task.wait.rest = task.rest from rfl, head] at asked
      cases asked
      rfl
    · intro same
      subst same
      exact ⟨rfl, amount, next, head⟩
  apply sound_replace sound found
  · exact sound.orderly task (List.mem_of_getElem? found)
  · intro owner belongs
    exact belongs
  · intro deep
    exact deep
  · intro _
    exact ⟨lock, (waits lock).mpr rfl⟩
  · intro other
    by_cases same : other = lock
    · subst same
      rw [Function.update_self]
      exact List.nodup_append.mpr ⟨sound.distinct other, List.nodup_singleton index, by
        intro place member last same
        cases List.mem_singleton.mp same
        intro equal
        subst equal
        exact absent other member⟩
    · rw [Function.update_of_ne same]
      exact sound.distinct other
  · intro other place apart
    by_cases same : other = lock
    · subst same
      simp [apart]
    · rw [Function.update_of_ne same]
  · intro other
    rw [waits other]
    by_cases same : other = lock
    · subst same
      simp
    · rw [Function.update_of_ne same]
      constructor
      · intro member
        exact absurd member (absent other)
      · intro equal
        exact absurd equal same

theorem sound_grant (sound : Sound ranks state) {index : Nat} {later : List Nat} {task : Task L} {lock : L}
    {amount : Nat} {next : Script L} (first : state.queue lock = index :: later)
    (found : state.tasks[index]? = some task) (head : task.rest = .acquire lock amount next) :
    Sound ranks { state.put index (task.take lock amount next) with
      queue := Function.update state.queue lock later } := by
  have orderly := sound.orderly task (List.mem_of_getElem? found)
  have distinct := sound.distinct lock
  rw [first] at distinct
  rw [head] at orderly
  apply sound_replace sound found
  · exact orderly.2.2
  · intro owner belongs
    exact belongs
  · intro deep
    rw [head] at deep
    exact deep.2
  · intro queued
    cases queued
  · intro other
    by_cases same : other = lock
    · subst same
      rw [Function.update_self]
      exact (List.nodup_cons.mp distinct).2
    · rw [Function.update_of_ne same]
      exact sound.distinct other
  · intro other place apart
    by_cases same : other = lock
    · subst same
      rw [Function.update_self, first, List.mem_cons]
      exact ⟨Or.inr, fun member => member.resolve_left apart⟩
    · rw [Function.update_of_ne same]
  · intro other
    constructor
    · intro member
      by_cases same : other = lock
      · subst same
        rw [Function.update_self] at member
        exact absurd member (List.nodup_cons.mp distinct).1
      · rw [Function.update_of_ne same] at member
        obtain ⟨held, present, _, wanted, rest, asked⟩ := (sound.listed other index).mp member
        rw [found] at present
        cases present
        rw [head] at asked
        cases asked
        exact absurd rfl same
    · intro waits
      cases waits.1

theorem sound_drop (sound : Sound ranks state) {index : Nat} {task : Task L}
    (found : state.tasks[index]? = some task) :
    Sound ranks { state.put index task.quit with
      queue := fun lock => (state.queue lock).filter (fun other => other ≠ index) } := by
  apply sound_replace sound found
  · rfl
  · intro owner belongs
    exact belongs
  · intro _
    trivial
  · intro queued
    cases queued
  · intro lock
    exact (sound.distinct lock).filter _
  · intro lock other apart
    simp [apart]
  · intro lock
    constructor
    · intro member
      simp at member
    · intro waits
      cases waits.1

def Admits (ranks : Ranks L) : Event L → Prop
  | .enter script => ranks.Orderly [] script
  | _ => True

theorem sound_step {event : Event L} {next : State L} (sound : Sound ranks state)
    (admitted : Admits ranks event) (taken : ranks.step state event = some next) : Sound ranks next := by
  have apart : ∀ {index : Nat} {task : Task L}, state.tasks[index]? = some task →
      (∀ lock amount rest, task.rest ≠ .acquire lock amount rest) → task.queued = false := by
    intro index task found other
    by_contra queued
    obtain ⟨lock, _, amount, rest, head⟩ :=
      sound.waiting task (List.mem_of_getElem? found) (by simpa using queued)
    exact other lock amount rest head
  cases step_cases taken with
  | enter script =>
      have orderly : ranks.Orderly (fresh script none).locks (fresh script none).rest := admitted
      apply sound_push sound rfl orderly
      intro owner belongs
      cases belongs
  | turn found turn =>
      have member := List.mem_of_getElem? found
      obtain ⟨idle, still⟩ := turn.idle (sound.waiting _ member)
      apply sound_put sound found idle still (turn.orderly (sound.orderly _ member))
      · intro owner belongs
        rw [turn.owner] at belongs
        exact belongs
      · exact turn.deep
  | wait found head here => exact sound_wait sound found head here
  | @spawn index task carried other rest found head =>
      have orderly := sound.orderly _ (List.mem_of_getElem? found)
      have idle := apart found (by simp [head])
      rw [head] at orderly
      have still : (task.handOver carried rest).queued = false := idle
      have parent : Sound ranks (state.put index (task.handOver carried rest)) := by
        apply sound_put sound found idle still
        · rw [locks_handOver]
          exact orderly.2
        · intro owner belongs
          exact belongs
        · intro deep
          rw [head] at deep
          exact deep
      apply sound_push parent rfl
      · rw [locks_heir]
        exact orderly.1
      · intro owner belongs
        cases belongs
  | @fork index task other rest found head =>
      have orderly := sound.orderly _ (List.mem_of_getElem? found)
      have idle := apart found (by simp [head])
      rw [head] at orderly
      have still : (task.goOn rest).queued = false := idle
      have parent : Sound ranks (state.put index (task.goOn rest)) := by
        apply sound_put sound found idle still orderly.2.2
        · intro owner belongs
          exact belongs
        · intro deep
          rw [head] at deep
          exact deep
      have child : ranks.Orderly (fresh other (some index)).locks (fresh other (some index)).rest := orderly.2.1
      apply sound_push parent rfl child
      intro owner belongs
      cases belongs
      exact ⟨by simpa [State.put] using Slots.lt_of_get found, orderly.1⟩
  | @collect index other task child rest found present head through mine differs =>
      have orderly := sound.orderly _ (List.mem_of_getElem? found)
      have idle := apart found (by simp [head])
      have finished := apart present (by simp [through])
      rw [head] at orderly
      have still : (task.goOn rest).queued = false := idle
      have parent : Sound ranks (state.put index (task.goOn rest)) := by
        apply sound_put sound found idle still orderly.2
        · intro owner belongs
          exact belongs
        · intro deep
          rw [head] at deep
          exact deep
      have left : ({ child with owner := none } : Task L).queued = false := finished
      apply sound_put parent ((List.getElem?_set_ne (Ne.symm differs)).trans present) finished left
      · exact sound.orderly child (List.mem_of_getElem? present)
      · intro owner belongs
        cases belongs
      · intro deep
        exact deep
  | grant first found head => exact sound_grant sound first found head
  | drop found busy => exact sound_drop sound found

theorem sound_run {events : List (Event L)} {final : State L} (sound : Sound ranks state)
    (admitted : ∀ event ∈ events, Admits ranks event)
    (ran : Machine.run ranks.step state events = some final) : Sound ranks final := by
  induction events generalizing state with
  | nil =>
      cases ran
      exact sound
  | cons event events ih =>
      obtain ⟨next, taken, rest⟩ := Machine.run_cons_some ran
      have first := sound_step sound (admitted event List.mem_cons_self) taken
      exact ih first (fun later member => admitted later (List.mem_cons_of_mem event member)) rest

end Safety

end FairLocks

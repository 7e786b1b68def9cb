import Mathlib.Data.Finset.Lattice.Fold
import Mathlib.Logic.Relation
import WebProxy.Library.FairLocks

/-! Why tasks that take their locks in an order do not wait for each other in a ring: where nothing moves,
every chain of waiting ends outside. -/

namespace FairLocks

open Weights

variable {L : Type} [DecidableEq L]

/-- The first task can only go on after the second: it waits for a lock the second holds a guard of, or the
second is in its set and not through. -/
inductive Waits (state : State L) : Nat → Nat → Prop where
  | lock {index other task holder lock} (found : state.tasks[index]? = some task)
      (waits : task.WaitsFor lock) (present : state.tasks[other]? = some holder)
      (holds : lock ∈ holder.locks) : Waits state index other
  | join {index other task child next} (found : state.tasks[index]? = some task)
      (head : task.rest = .join next) (present : state.tasks[other]? = some child)
      (mine : child.owner = some index) (busy : child.rest ≠ .done) : Waits state index other

def Busy (state : State L) (index : Nat) : Prop :=
  ∃ task, state.tasks[index]? = some task ∧ task.rest ≠ .done

def AtOutside (state : State L) (index : Nat) : Prop :=
  ∃ task next, state.tasks[index]? = some task ∧ task.rest = .outside next

def Inner (state : State L) : Event L → Prop
  | .enter _ | .drop _ => False
  | .advance index => ¬ AtOutside state index
  | .collect _ _ | .grant _ => True

/-- The tasks have come as far as they can by themselves. -/
def Quiet (ranks : Ranks L) (state : State L) : Prop :=
  ∀ event, Inner state event → ranks.step state event = none

section Progress

variable {ranks : Ranks L} {state : State L}

inductive Standing (state : State L) (index : Nat) (task : Task L) : Prop where
  | outside (there : AtOutside state index)
  | queued {lock} (waits : task.WaitsFor lock)
  | joining {next} (head : task.rest = .join next)

theorem quiet_standing (quiet : Quiet ranks state) {index : Nat} {task : Task L}
    (found : state.tasks[index]? = some task) (busy : task.rest ≠ .done) : Standing state index task := by
  have still : ¬ AtOutside state index → ranks.advance state index task = none := by
    intro inner
    have stuck := quiet (.advance index) inner
    change state.tasks[index]?.bind (ranks.advance state index) = none at stuck
    rw [found] at stuck
    exact stuck
  by_cases there : AtOutside state index
  · exact .outside there
  · have stuck := still there
    unfold Ranks.advance at stuck
    cases head : task.rest with
    | done => exact absurd head busy
    | acquire lock amount next =>
        cases queued : task.queued with
        | true => exact .queued ⟨queued, amount, next, head⟩
        | false =>
            simp only [head, queued, Bool.false_eq_true, if_false] at stuck
            split at stuck <;> cases stuck
    | attempt lock amount taken missed =>
        simp only [head] at stuck
        split at stuck <;> cases stuck
    | release lock next | spawn carried other next | fork other next =>
        simp [head] at stuck
    | outside next => exact absurd ⟨task, next, found, head⟩ there
    | join next => exact .joining head

theorem holding_zero {task : Task L} {lock : L} (absent : lock ∉ task.locks) : task.holding lock = 0 := by
  apply weight_zero
  intro guard member
  have differs : guard.1 ≠ lock := by
    intro same
    subst same
    exact absent (List.mem_map_of_mem member)
  rw [if_neg differs]

theorem quiet_holder (sound : Sound ranks state) (quiet : Quiet ranks state) {index : Nat} {task : Task L}
    {lock : L} (found : state.tasks[index]? = some task) (waits : task.WaitsFor lock) :
    ∃ other, Waits state index other := by
  have member := (sound.listed lock index).mpr ⟨task, found, waits⟩
  obtain ⟨front, later, first⟩ := List.exists_cons_of_ne_nil (List.ne_nil_of_mem member)
  obtain ⟨leader, present, _, amount, next, head⟩ :=
    (sound.listed lock front).mp (by rw [first]; exact List.mem_cons_self)
  have orderly := sound.orderly leader (List.mem_of_getElem? present)
  rw [head] at orderly
  have stuck : ranks.grant state lock = none := quiet (.grant lock) trivial
  have short : ranks.capacity lock < state.used lock + amount := by
    unfold Ranks.grant at stuck
    rw [first] at stuck
    simp only [present, head, true_and] at stuck
    split at stuck
    · cases stuck
    · omega
  have taken : state.used lock ≠ 0 := by
    have fits := orderly.1
    omega
  by_contra nobody
  apply taken
  apply weight_zero
  intro holder there
  apply holding_zero
  intro holds
  obtain ⟨other, place⟩ := List.getElem?_of_mem there
  exact nobody ⟨other, .lock found waits place holds⟩

theorem quiet_child (sound : Sound ranks state) (quiet : Quiet ranks state) {index : Nat} {task : Task L}
    {next : Script L} (found : state.tasks[index]? = some task) (head : task.rest = .join next) :
    ∃ other, Waits state index other := by
  have inner : ¬ AtOutside state index := by
    intro there
    obtain ⟨other, rest, present, outside⟩ := there
    rw [found] at present
    cases present
    rw [head] at outside
    cases outside
  have stuck := quiet (.advance index) inner
  change state.tasks[index]?.bind (ranks.advance state index) = none at stuck
  rw [found, Option.bind_some] at stuck
  simp only [Ranks.advance, head] at stuck
  split at stuck
  case isFalse => cases stuck
  case isTrue some_child =>
    obtain ⟨child, member, mine⟩ := List.any_eq_true.mp some_child
    obtain ⟨other, present⟩ := List.getElem?_of_mem member
    have mine : child.owner = some index := by simpa using mine
    have after := (sound.owned other child index present mine).1
    refine ⟨other, .join found head present mine ?_⟩
    intro through
    have free := quiet (.collect index other) trivial
    change state.tasks[index]?.bind
      (fun task => state.tasks[other]?.bind (state.collect index other task)) = none at free
    rw [found, Option.bind_some, present, Option.bind_some] at free
    simp only [State.collect, head, through] at free
    rw [if_pos ⟨mine, by omega⟩] at free
    cases free

theorem waits_busy (sound : Sound ranks state) {index other : Nat} (waits : Waits state index other) :
    Busy state other := by
  cases waits with
  | join found head present mine busy => exact ⟨_, present, busy⟩
  | lock found waits present holds =>
      refine ⟨_, present, ?_⟩
      intro through
      have orderly := sound.orderly _ (List.mem_of_getElem? present)
      rw [through] at orderly
      have none_held : Task.locks _ = [] := orderly
      rw [none_held] at holds
      cases holds

/-- How far up the order a task waits: a task that joins stands between the bar and the locks above. -/
def climb (ranks : Ranks L) (state : State L) (index : Nat) : Nat :=
  match state.tasks[index]?.map Task.rest with
  | some (.acquire lock _ _) => 2 * ranks.level lock * (state.tasks.length + 1)
  | some (.join _) => (2 * ranks.bar + 1) * (state.tasks.length + 1) + index
  | _ => 0

omit [DecidableEq L] in
theorem climb_queued {index : Nat} {task : Task L} {lock : L} (found : state.tasks[index]? = some task)
    (waits : task.WaitsFor lock) :
    climb ranks state index = 2 * ranks.level lock * (state.tasks.length + 1) := by
  obtain ⟨_, amount, next, head⟩ := waits
  simp [climb, found, head]

omit [DecidableEq L] in
theorem climb_joining {index : Nat} {task : Task L} {next : Script L}
    (found : state.tasks[index]? = some task) (head : task.rest = .join next) :
    climb ranks state index = (2 * ranks.bar + 1) * (state.tasks.length + 1) + index := by
  simp [climb, found, head]

theorem climb_lt (sound : Sound ranks state) (quiet : Quiet ranks state) {index other : Nat}
    (waits : Waits state index other) (inner : ¬ AtOutside state other) :
    climb ranks state index < climb ranks state other := by
  cases waits with
  | @lock task holder lock found waits present holds =>
      obtain ⟨_, there, busy⟩ := waits_busy sound (.lock found waits present holds)
      rw [present] at there
      cases there
      have orderly := sound.orderly holder (List.mem_of_getElem? present)
      rw [climb_queued found waits]
      cases quiet_standing quiet present busy with
      | outside outside => exact absurd outside inner
      | @queued higher queued =>
          rw [climb_queued present queued]
          obtain ⟨_, amount, next, head⟩ := queued
          rw [head] at orderly
          have below := orderly.2.1 lock holds
          apply Nat.mul_lt_mul_of_pos_right
          · omega
          · omega
      | joining head =>
          rw [climb_joining present head]
          rw [head] at orderly
          have below := orderly.1 lock holds
          have step : 2 * ranks.level lock * (state.tasks.length + 1) ≤
              2 * ranks.bar * (state.tasks.length + 1) := by
            apply Nat.mul_le_mul_right
            omega
          rw [Nat.add_mul]
          omega
  | @join task child next found head present mine busy =>
      obtain ⟨before, deep⟩ := sound.owned other child index present mine
      have inside := Slots.lt_of_get found
      rw [climb_joining found head]
      cases quiet_standing quiet present busy with
      | outside outside => exact absurd outside inner
      | @queued higher queued =>
          rw [climb_queued present queued]
          obtain ⟨_, amount, rest, asks⟩ := queued
          rw [asks] at deep
          have above := deep.1
          have step : (2 * ranks.bar + 2) * (state.tasks.length + 1) ≤
              2 * ranks.level higher * (state.tasks.length + 1) := by
            apply Nat.mul_le_mul_right
            omega
          rw [Nat.add_mul] at step ⊢
          omega
      | joining joins =>
          rw [climb_joining present joins]
          omega

omit [DecidableEq L] in
theorem climb_bounded (ranks : Ranks L) (state : State L) :
    ∃ top, ∀ index, climb ranks state index ≤ top := by
  refine ⟨(Finset.range state.tasks.length).sup (climb ranks state), ?_⟩
  intro index
  by_cases inside : index < state.tasks.length
  · exact Finset.le_sup (f := climb ranks state) (Finset.mem_range.mpr inside)
  · have absent : state.tasks[index]? = none := List.getElem?_eq_none (by omega)
    simp [climb, absent]

theorem quiet_outside (sound : Sound ranks state) (quiet : Quiet ranks state) {index : Nat}
    (busy : Busy state index) : ∃ last, Relation.ReflTransGen (Waits state) index last ∧ AtOutside state last := by
  obtain ⟨top, bounded⟩ := climb_bounded ranks state
  induction gap : top - climb ranks state index using Nat.strong_induction_on generalizing index with
  | _ size ih =>
    have onward : (∃ other, Waits state index other) →
        ∃ last, Relation.ReflTransGen (Waits state) index last ∧ AtOutside state last := by
      intro blocked
      obtain ⟨other, waits⟩ := blocked
      by_cases there : AtOutside state other
      · exact ⟨other, .single waits, there⟩
      · have higher := climb_lt sound quiet waits there
        have below := bounded other
        obtain ⟨last, chain, outside⟩ :=
          ih (top - climb ranks state other) (by omega) (waits_busy sound waits) rfl
        exact ⟨last, .head waits chain, outside⟩
    obtain ⟨task, found, working⟩ := busy
    cases quiet_standing quiet found working with
    | outside there => exact ⟨index, .refl, there⟩
    | queued waits => exact onward (quiet_holder sound quiet found waits)
    | joining head => exact onward (quiet_child sound quiet found head)

def WaitsHigh (ranks : Ranks L) (state : State L) (index : Nat) : Prop :=
  ∃ task lock, state.tasks[index]? = some task ∧ task.WaitsFor lock ∧ ranks.calm < ranks.level lock

theorem waits_high (sound : Sound ranks state) (quiet : Quiet ranks state) {index other : Nat}
    (waits : Waits state index other) (high : WaitsHigh ranks state index) : WaitsHigh ranks state other := by
  obtain ⟨task, lock, found, queued, above⟩ := high
  obtain ⟨_, wanted, next, asked⟩ := queued
  obtain ⟨_, there, busy⟩ := waits_busy sound waits
  cases waits with
  | join same head _ _ _ =>
      rw [found] at same
      cases same
      rw [head] at asked
      cases asked
  | @lock waiter holder guarded same waiting present holds =>
      rw [found] at same
      cases same
      obtain ⟨_, amount, rest, head⟩ := waiting
      rw [asked] at head
      cases head
      have one := Option.some.inj (present.symm.trans there)
      subst one
      have orderly := sound.orderly holder (List.mem_of_getElem? present)
      cases quiet_standing quiet present busy with
      | outside outside =>
          obtain ⟨_, later, again, away⟩ := outside
          rw [present] at again
          cases again
          rw [away] at orderly
          have calm := orderly.1 lock holds
          omega
      | @queued higher queued =>
          obtain ⟨full, share, later, asks⟩ := queued
          rw [asks] at orderly
          have below := orderly.2.1 lock holds
          exact ⟨holder, higher, present, ⟨full, share, later, asks⟩, by omega⟩
      | joining head =>
          rw [head] at orderly
          have low := orderly.1 lock holds
          have calm := ranks.bar_le
          omega

theorem quiet_low (sound : Sound ranks state) (quiet : Quiet ranks state) {index : Nat} {task : Task L}
    {lock : L} (found : state.tasks[index]? = some task) (waits : task.WaitsFor lock) :
    ranks.level lock ≤ ranks.calm := by
  by_contra above
  have busy : Busy state index := by
    obtain ⟨_, amount, next, head⟩ := waits
    exact ⟨task, found, by simp [head]⟩
  obtain ⟨last, chain, there⟩ := quiet_outside sound quiet busy
  have high : WaitsHigh ranks state last := by
    clear there
    induction chain with
    | refl => exact ⟨task, lock, found, waits, by omega⟩
    | tail _ edge ih => exact waits_high sound quiet edge ih
  obtain ⟨waiter, wanted, present, ⟨_, amount, next, head⟩, _⟩ := high
  obtain ⟨_, rest, same, outside⟩ := there
  rw [present] at same
  cases same
  rw [head] at outside
  cases outside

end Progress

/-- A script that neither joins nor waits for the outside, and waits only for locks above those that may be
held while the outside is waited for. -/
def Aloof (ranks : Ranks L) : Script L → Prop
  | .done => True
  | .acquire lock _ next => ranks.calm < ranks.level lock ∧ Aloof ranks next
  | .attempt _ _ taken missed => Aloof ranks taken ∧ Aloof ranks missed
  | .release _ next | .spawn _ _ next | .fork _ next => Aloof ranks next
  | .outside _ | .join _ => False

section Aloof

variable {ranks : Ranks L} {state : State L}

theorem Turn.aloof {task after : Task L} (turn : Turn task after) (aloof : Aloof ranks task.rest) :
    Aloof ranks after.rest := by
  cases turn with
  | take head here =>
      rw [head] at aloof
      exact aloof.2
  | taken head =>
      rw [head] at aloof
      exact aloof.1
  | missed head =>
      rw [head] at aloof
      exact aloof.2
  | release head =>
      rw [head] at aloof
      exact aloof
  | outside head | passed head =>
      rw [head] at aloof
      cases aloof

def StaysAloof (ranks : Ranks L) (index : Nat) (state : State L) : Prop :=
  ∃ task, state.tasks[index]? = some task ∧ Aloof ranks task.rest

omit [DecidableEq L] in
theorem aloof_put {index place : Nat} {task after : Task L} (found : state.tasks[index]? = some task)
    (keeps : Aloof ranks task.rest → Aloof ranks after.rest)
    (aloof : StaysAloof ranks place state) : StaysAloof ranks place (state.put index after) := by
  have kept : ∃ held, (state.tasks.set index after)[place]? = some held ∧
      (fun task : Task L => Aloof ranks task.rest) held := Slots.set_keeps found keeps aloof
  exact kept

omit [DecidableEq L] in
theorem aloof_push {place : Nat} (task : Task L) (aloof : StaysAloof ranks place state) :
    StaysAloof ranks place (state.push task) := by
  obtain ⟨held, found, good⟩ := aloof
  exact ⟨held, Slots.get_snoc task found, good⟩

theorem aloof_step {event : Event L} {next : State L} {place : Nat}
    (aloof : StaysAloof ranks place state) (taken : ranks.step state event = some next) :
    StaysAloof ranks place next := by
  cases step_cases taken with
  | enter script => exact aloof_push _ aloof
  | turn found turn => exact aloof_put found turn.aloof aloof
  | wait found head here => exact aloof_put found id aloof
  | spawn found head | fork found head =>
      apply aloof_push
      apply aloof_put found _ aloof
      intro good
      rw [head] at good
      exact good
  | @collect index other task child rest found present head through mine differs =>
      have parent : StaysAloof ranks place (state.put index (task.goOn rest)) := by
        apply aloof_put found _ aloof
        intro good
        rw [head] at good
        cases good
      exact aloof_put ((List.getElem?_set_ne (Ne.symm differs)).trans present) id parent
  | grant first found head =>
      apply aloof_put found _ aloof
      intro good
      rw [head] at good
      exact good.2
  | drop found busy =>
      apply aloof_put found _ aloof
      intro _
      trivial

theorem aloof_quiet (sound : Sound ranks state) (quiet : Quiet ranks state) {index : Nat} {task : Task L}
    (found : state.tasks[index]? = some task) (aloof : Aloof ranks task.rest) : task.rest = .done := by
  by_contra busy
  cases quiet_standing quiet found busy with
  | outside there =>
      obtain ⟨other, next, present, head⟩ := there
      rw [found] at present
      cases present
      rw [head] at aloof
      cases aloof
  | queued waits =>
      have low := quiet_low sound quiet found waits
      obtain ⟨_, amount, next, head⟩ := waits
      rw [head] at aloof
      have high := aloof.1
      omega
  | joining head =>
      rw [head] at aloof
      cases aloof

end Aloof

namespace Script

def cost : Script L → Nat
  | .done => 0
  | .acquire _ _ next => cost next + 2
  | .attempt _ _ taken missed => max (cost taken) (cost missed) + 1
  | .release _ next | .outside next | .join next => cost next + 1
  | .spawn _ task next | .fork task next => cost task + cost next + 2

end Script

def Task.work (task : Task L) : Nat :=
  task.rest.cost + if task.queued then 0 else 1

def State.work (state : State L) : Nat :=
  weight Task.work state.tasks

section Bound

variable {ranks : Ranks L} {state : State L}

omit [DecidableEq L] in
theorem work_put {index : Nat} {task : Task L} (after : Task L) (found : state.tasks[index]? = some task) :
    (state.put index after).work + task.work = state.work + after.work :=
  weight_set Task.work after found

omit [DecidableEq L] in
theorem work_push (task : Task L) : (state.push task).work = state.work + task.work := by
  unfold State.work State.push
  rw [weight_append]
  rfl

omit [DecidableEq L] in
theorem work_le {task after : Task L} (same : after.queued = task.queued) {spared : Nat}
    (shorter : after.rest.cost + spared ≤ task.rest.cost) : after.work + spared ≤ task.work := by
  unfold Task.work
  rw [same]
  omega

theorem Turn.work_lt {task after : Task L} (turn : Turn task after)
    (waiting : task.queued = true → ∃ lock, task.WaitsFor lock) : after.work < task.work := by
  obtain ⟨idle, still⟩ := turn.idle waiting
  have shorter : after.rest.cost < task.rest.cost := by
    cases turn with
    | take head here => simp [head, Task.take, Script.cost]
    | taken head =>
        rw [head]
        exact Nat.lt_succ_of_le (Nat.le_max_left _ _)
    | missed head =>
        rw [head]
        exact Nat.lt_succ_of_le (Nat.le_max_right _ _)
    | release head => simp [head, Task.giveBack, Script.cost]
    | outside head => simp [head, Task.goOn, Script.cost]
    | passed head => simp [head, Task.goOn, Script.cost]
  unfold Task.work
  rw [idle, still]
  omega

theorem work_step {event : Event L} {next : State L} (sound : Sound ranks state)
    (taken : ranks.step state event = some next) (inside : ∀ script, event ≠ .enter script) :
    next.work < state.work := by
  cases step_cases taken with
  | enter script => exact absurd rfl (inside script)
  | @turn index task after found turn =>
      have less := turn.work_lt (sound.waiting task (List.mem_of_getElem? found))
      have moved := work_put after found
      omega
  | @wait index task lock amount rest found head here =>
      have moved := work_put task.wait found
      have less : task.wait.work < task.work := by simp [Task.work, Task.wait, here]
      change (state.put index task.wait).work < state.work
      omega
  | @spawn index task carried other rest found head =>
      have moved := work_put (task.handOver carried rest) found
      have pushed : ((state.put index (task.handOver carried rest)).push (task.heir carried other)).work =
          (state.put index (task.handOver carried rest)).work + (task.heir carried other).work := work_push _
      have less : (task.handOver carried rest).work + (other.cost + 2) ≤ task.work := by
        apply work_le
        · rfl
        · rw [head]
          simp only [Task.handOver, Script.cost]
          omega
      have started : (task.heir carried other).work = other.cost + 1 := rfl
      omega
  | @fork index task other rest found head =>
      have moved := work_put (task.goOn rest) found
      have pushed : ((state.put index (task.goOn rest)).push (fresh other (some index))).work =
          (state.put index (task.goOn rest)).work + (fresh other (some index)).work := work_push _
      have less : (task.goOn rest).work + (other.cost + 2) ≤ task.work := by
        apply work_le
        · rfl
        · rw [head]
          simp only [Task.goOn, Script.cost]
          omega
      have started : (fresh other (some index)).work = other.cost + 1 := rfl
      omega
  | @collect index other task child rest found present head through mine differs =>
      have moved := work_put (task.goOn rest) found
      have kept : (state.put index (task.goOn rest)).tasks[other]? = some child :=
        (List.getElem?_set_ne (Ne.symm differs)).trans present
      have again := work_put ({ child with owner := none } : Task L) kept
      have same : ({ child with owner := none } : Task L).work = child.work := rfl
      have less : (task.goOn rest).work + 1 ≤ task.work := by
        apply work_le
        · rfl
        · rw [head]
          exact Nat.le_refl _
      omega
  | @grant lock index later task amount rest first found head =>
      have moved := work_put (task.take lock amount rest) found
      have less : (task.take lock amount rest).work < task.work := by
        simp only [Task.work, Task.take, head, Script.cost, Bool.false_eq_true, if_false]
        omega
      change (state.put index (task.take lock amount rest)).work < state.work
      omega
  | @drop index task found busy =>
      have moved := work_put task.quit found
      have less : task.quit.work < task.work := by
        have large : 2 ≤ task.work := by
          unfold Task.work
          cases queued : task.queued with
          | true =>
              obtain ⟨lock, _, amount, rest, head⟩ := sound.waiting task (List.mem_of_getElem? found) queued
              simp [head, Script.cost]
          | false =>
              cases head : task.rest with
              | done => exact absurd head busy
              | acquire _ _ _ | attempt _ _ _ _ | release _ _ | outside _ | spawn _ _ _ | fork _ _ | join _ =>
                  simp [Script.cost]
                  try omega
        exact Nat.lt_of_lt_of_le (Nat.lt_succ_self _) large
      change (state.put index task.quit).work < state.work
      omega

theorem run_bounded {events : List (Event L)} {final : State L} (sound : Sound ranks state)
    (inside : ∀ event ∈ events, ∀ script, event ≠ .enter script)
    (ran : Machine.run ranks.step state events = some final) : events.length + final.work ≤ state.work := by
  induction events generalizing state with
  | nil =>
      cases ran
      simp
  | cons event events ih =>
      obtain ⟨next, taken, rest⟩ := Machine.run_cons_some ran
      have here := inside event List.mem_cons_self
      have admitted : Admits ranks event := by
        cases event with
        | enter script => exact absurd rfl (here script)
        | advance _ | collect _ _ | grant _ | drop _ => trivial
      have later := ih (sound_step sound admitted taken)
        (fun other member => inside other (List.mem_cons_of_mem event member)) rest
      have less := work_step sound taken here
      rw [List.length_cons]
      omega

theorem exists_quiet (sound : Sound ranks state) : ∃ events final,
    Machine.run ranks.step state events = some final ∧
      Machine.Along ranks.step Inner state events ∧ Quiet ranks final := by
  induction left : state.work using Nat.strong_induction_on generalizing state with
  | _ size ih =>
    by_cases quiet : Quiet ranks state
    · exact ⟨[], state, rfl, trivial, quiet⟩
    · obtain ⟨event, moves⟩ := not_forall.mp quiet
      obtain ⟨inner, able⟩ := Classical.not_imp.mp moves
      obtain ⟨next, taken⟩ := Option.ne_none_iff_exists'.mp able
      have inside : ∀ script, event ≠ .enter script := by
        intro script same
        subst same
        cases inner
      have admitted : Admits ranks event := by
        cases event with
        | enter script => exact absurd rfl (inside script)
        | advance _ | collect _ _ | grant _ | drop _ => trivial
      have less := work_step sound taken inside
      obtain ⟨events, final, ran, along, settled⟩ :=
        ih next.work (by omega) (sound_step sound admitted taken) rfl
      refine ⟨event :: events, final, ?_, ⟨inner, ?_⟩, settled⟩
      · rw [Machine.run_cons, taken, Option.bind_some, ran]
      · intro other same
        rw [taken] at same
        cases same
        exact along

end Bound

end FairLocks

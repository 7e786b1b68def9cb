import WebProxy.ChunkPlan
import WebProxy.FetchChunk
import WebProxy.Library.Average
import WebProxy.Library.Machine
import WebProxy.Library.Slots
import WebProxy.WeightedPick

/-! The source pool under any number of concurrent reports, probes and picks. Each takes its locks one
after the other, so others come in between, and a download that fails drops the reports and picks of its
chunk tasks wherever they stand. -/

namespace WebProxy.PoolRuns

open FetchChunk (isSuccess)
open Sources (SourceStats saturatingSucc pickLoop fallback unitValue wrap chunkPlanFor)

structure Slot where
  stats : SourceStats
  throughputBps : Nat
  deriving DecidableEq, Repr

def Slot.default : Slot := ⟨SourceStats.default, 0⟩

inductive Report where
  | failure
  | success
  | throughput (bytes elapsed : Nat)
  deriving DecidableEq, Repr

structure Probe where
  status : Nat
  acceptRanges : Option String
  deriving DecidableEq, Repr

def ewmaMs (previous sample : Nat) : Nat :=
  if previous = 0 then sample else (previous * 7 + sample) / 8

def sampleBps (bytes elapsed : Nat) : Nat := wrap (bytes * 1000000 / max (elapsed / 1000) 1)

def ewmaBps (previous sample : Nat) : Nat :=
  if previous = 0 then sample else wrap (wrap (previous * 7) + wrap (sample * 3)) / 10

def Report.apply (report : Report) (slot : Slot) : Slot :=
  match report with
  | .failure =>
      { slot with stats := { slot.stats with failure := saturatingSucc slot.stats.failure, seen := true } }
  | .success =>
      { slot with
        stats := { slot.stats with success := saturatingSucc slot.stats.success, rangeOk := true, seen := true } }
  | .throughput bytes elapsed =>
      if bytes = 0 ∨ elapsed = 0 then slot
      else
        { slot with
          throughputBps := ewmaBps slot.throughputBps (sampleBps bytes elapsed)
          stats := { slot.stats with seen := true } }

def reachable (status : Nat) : Bool := isSuccess status || status = 401 || status = 405

def Slot.probe (slot : Slot) (answer : Option Probe) (elapsedMs : Nat) : Slot :=
  match answer with
  | some probe =>
      if reachable probe.status then
        { slot with
          stats :=
            { slot.stats with
              success := saturatingSucc slot.stats.success
              rangeOk := slot.stats.rangeOk || probe.acceptRanges.any (fun value =>
                Text.toAsciiLowercase value = "bytes")
              p50Ms := ewmaMs slot.stats.p50Ms (elapsedMs % 2 ^ 32)
              seen := true } }
      else
        { slot with stats := { slot.stats with failure := saturatingSucc slot.stats.failure, seen := true } }
  | none =>
      { slot with stats := { slot.stats with failure := saturatingSucc slot.stats.failure, seen := true } }

/-- Where a call stands: before its lock of the statistics, before `recompute_weights`, and at its end. A
probe of all sources waits for those of single ones; a pick has cloned the weights before it draws, and
reads the statistics where the draw gives nothing. -/
inductive Task where
  | reporting (index : Nat) (report : Report)
  | probing (pending : List Nat)
  | recomputing
  | recomputed
  | measured
  | picking
  | drawing (weights : List ℚ)
  | falling (count : Nat)
  | picked (index : Option Nat)
  | dropped
  deriving DecidableEq

/-- No code reads the last two fields. `begun` says whether the weights were ever computed, `stale` whether
a report was dropped between its two locks since they last were. -/
structure State where
  slots : List Slot
  weights : List ℚ
  seq : UInt64
  tasks : List Task
  begun : Bool
  stale : Bool
  deriving DecidableEq

/-- `SourcePool::new`; its first probe is a call like the others. -/
def start (count : Nat) : State :=
  ⟨List.replicate count Slot.default, List.replicate count 1, 0, [], false, false⟩

inductive Event where
  | call (task : Task)
  | write (pid : Nat)
  | probe (pid index : Nat) (answer : Option Probe) (elapsedMs : Nat)
  | skip (pid index : Nat)
  | recompute (pid : Nat)
  | readWeights (pid : Nat)
  | draw (pid now : Nat)
  | readStats (pid : Nat)
  | drop (pid : Nat)
  deriving DecidableEq

def Task.entry (count : Nat) : Task → Bool
  | .reporting _ _ | .picking => true
  | .probing pending => pending = List.range count
  | _ => false

def afterReport : Report → Task
  | .throughput _ _ => .measured
  | _ => .recomputing

/-- What a chunk task waits in before a lock has been taken; probes run on their own. -/
def Task.droppable : Task → Bool
  | .reporting _ _ | .picking | .drawing _ | .falling _ => true
  | _ => false

def State.setTask (state : State) (pid : Nat) (task : Task) : State :=
  { state with tasks := state.tasks.set pid task }

def scores (slots : List Slot) : List ℚ := slots.map (fun slot => slot.stats.score)

def State.recompute (state : State) : State :=
  { state with
    weights := Sources.recomputeWeights (state.slots.map Slot.stats) state.weights
    begun := true
    stale := false }

def State.draw (state : State) (pid now : Nat) (weights : List ℚ) : State :=
  if weights = [] then state.setTask pid (.picked (some 0))
  else if 0 < weights.sum then
    match pickLoop 0 weights (unitValue now state.seq * weights.sum) with
    | some index => { state.setTask pid (.picked (some index)) with seq := state.seq + 1 }
    | none => { state.setTask pid (.falling weights.length) with seq := state.seq + 1 }
  else state.setTask pid (.falling weights.length)

def step (state : State) : Event → Option State
  | .call task =>
      if task.entry state.slots.length then some { state with tasks := state.tasks ++ [task] } else none
  | .write pid =>
      match state.tasks[pid]? with
      | some (.reporting index report) =>
          some { state.setTask pid (afterReport report) with slots := state.slots.modify index report.apply }
      | _ => none
  | .probe pid index answer elapsedMs =>
      match state.tasks[pid]? with
      | some (.probing pending) =>
          if index ∈ pending then
            some { state.setTask pid (.probing (pending.erase index)) with
              slots := state.slots.modify index (Slot.probe · answer elapsedMs) }
          else none
      | _ => none
  | .skip pid index =>
      match state.tasks[pid]? with
      | some (.probing pending) =>
          if index ∈ pending then some (state.setTask pid (.probing (pending.erase index))) else none
      | _ => none
  | .recompute pid =>
      match state.tasks[pid]? with
      | some .recomputing => some (state.recompute.setTask pid .recomputed)
      | some (.probing []) => some (state.recompute.setTask pid .recomputed)
      | _ => none
  | .readWeights pid =>
      match state.tasks[pid]? with
      | some .picking => some (state.setTask pid (.drawing state.weights))
      | _ => none
  | .draw pid now =>
      match state.tasks[pid]? with
      | some (.drawing weights) => some (state.draw pid now weights)
      | _ => none
  | .readStats pid =>
      match state.tasks[pid]? with
      | some (.falling count) =>
          some { state.setTask pid (.picked (fallback (state.slots.map Slot.stats) count state.seq)) with
            seq := state.seq + 1 }
      | _ => none
  | .drop pid =>
      match state.tasks[pid]? with
      | some .recomputing => some { state.setTask pid .dropped with stale := true }
      | some task => if task.droppable then some (state.setTask pid .dropped) else none
      | none => none

/-- `chunk_plan`: the throughputs are summed in `u64`. -/
def State.chunkPlan (state : State) : Nat × Nat :=
  chunkPlanFor (wrap (state.slots.map Slot.throughputBps).sum)

def Task.unsettled : Task → Bool
  | .probing _ | .recomputing => true
  | _ => false

def Unsettled (state : State) : Prop :=
  ∃ (pid : Nat) (task : Task), state.tasks[pid]? = some task ∧ task.unsettled = true

/-- No report of a result and no probe is in progress, one has ended, and none was dropped between its
locks since the weights were computed. -/
structure Settled (state : State) : Prop where
  idle : ∀ task ∈ state.tasks, task.unsettled = false
  ended : Task.recomputed ∈ state.tasks
  current : state.stale = false

def Task.Sound (count : Nat) : Task → Prop
  | .drawing weights => weights.length = count
  | .falling sources => sources = count
  | .picked index => ∃ source, index = some source ∧ source < count
  | _ => True

structure Consistent (count : Nat) (state : State) : Prop where
  slots : state.slots.length = count
  weights : state.weights.length = count
  fresh : state.begun = true → state.stale = false → state.weights = scores state.slots ∨ Unsettled state
  unbegun : state.begun = false → state.weights = List.replicate count 1
  computed : ∀ pid : Nat, state.tasks[pid]? = some .recomputed → state.begun = true
  tasks : ∀ (pid : Nat) (task : Task), state.tasks[pid]? = some task → task.Sound count

theorem recomputeWeights_eq {stats : List SourceStats} {weights : List ℚ}
    (paired : weights.length = stats.length) :
    Sources.recomputeWeights stats weights = stats.map SourceStats.score := by
  apply List.ext_getElem
  · rw [Sources.recomputeWeights, List.length_map, List.length_range, List.length_map, paired]
  · intro index first second
    rw [List.length_map] at second
    simp [Sources.recomputeWeights, List.getElem?_eq_getElem second]

theorem pickLoop_lt {weights : List ℚ} {index source : Nat} {target : ℚ}
    (chosen : pickLoop index weights target = some source) : source < index + weights.length := by
  induction weights generalizing index target with
  | nil => cases chosen
  | cons weight rest ih =>
      rw [pickLoop] at chosen
      rw [List.length_cons]
      split at chosen
      · cases chosen
        omega
      · have inside := ih chosen
        omega

theorem draw_cases (state : State) (pid now : Nat) {weights : List ℚ} {count : Nat}
    (some_source : 0 < count) (paired : weights.length = count) :
    ∃ task seq, state.draw pid now weights = { state.setTask pid task with seq := seq } ∧
      task.Sound count ∧ task.unsettled = false ∧ task ≠ .recomputed := by
  unfold State.draw
  split
  · rename_i empty
    rw [empty, List.length_nil] at paired
    omega
  · split
    · split
      · rename_i index chosen
        refine ⟨_, _, rfl, ⟨index, rfl, ?_⟩, rfl, by simp⟩
        have inside := pickLoop_lt chosen
        omega
      · exact ⟨_, _, rfl, paired, rfl, by simp⟩
    · exact ⟨_, state.seq, rfl, paired, rfl, by simp⟩

def Slot.SameScore (change : Slot → Slot) : Prop := ∀ slot, (change slot).stats.score = slot.stats.score

inductive Move (count : Nat) (state : State) : State → Prop where
  | enter {task : Task} (sound : task.Sound count) (unfinished : task ≠ .recomputed) :
      Move count state { state with tasks := state.tasks ++ [task] }
  | change {pid index : Nat} {before after : Task} (found : state.tasks[pid]? = some before)
      (unsettled : after.unsettled = true) (change : Slot → Slot) :
      Move count state { state.setTask pid after with slots := state.slots.modify index change }
  | measure {pid index : Nat} {before : Task} {change : Slot → Slot}
      (found : state.tasks[pid]? = some before) (settled : before.unsettled = false)
      (same : Slot.SameScore change) :
      Move count state { state.setTask pid .measured with slots := state.slots.modify index change }
  | go {pid : Nat} {before after : Task} (seq : UInt64) (found : state.tasks[pid]? = some before)
      (sound : after.Sound count) (kept : before.unsettled = true → after.unsettled = true)
      (unfinished : after ≠ .recomputed) : Move count state { state.setTask pid after with seq := seq }
  | compute {pid : Nat} {before : Task} (found : state.tasks[pid]? = some before) :
      Move count state (state.recompute.setTask pid .recomputed)
  | drop {pid : Nat} (found : state.tasks[pid]? = some .recomputing) :
      Move count state { state.setTask pid .dropped with stale := true }

theorem throughput_sameScore (bytes elapsed : Nat) : Slot.SameScore (Report.throughput bytes elapsed).apply := by
  intro slot
  rw [Report.apply]
  split
  · rfl
  · rfl

theorem unsettled_sound {task : Task} (unsettled : task.unsettled = true) (count : Nat) :
    task.Sound count ∧ task ≠ .recomputed := by
  cases task with
  | probing | recomputing => exact ⟨trivial, by simp⟩
  | reporting | recomputed | measured | picking | drawing | falling | picked | dropped => cases unsettled

theorem entry_sound {task : Task} {count : Nat} (entry : task.entry count = true) :
    task.Sound count ∧ task ≠ .recomputed := by
  cases task with
  | reporting | probing | picking => exact ⟨trivial, by simp⟩
  | recomputing | recomputed | measured | drawing | falling | picked | dropped => cases entry

theorem droppable_settled {task : Task} (droppable : task.droppable = true) : task.unsettled = false := by
  cases task with
  | reporting | picking | drawing | falling => rfl
  | probing | recomputing | recomputed | measured | picked | dropped => cases droppable

theorem write_cases {count : Nat} {state : State} {pid index : Nat} {report : Report}
    (found : state.tasks[pid]? = some (.reporting index report)) :
    Move count state
      { state.setTask pid (afterReport report) with slots := state.slots.modify index report.apply } := by
  cases report with
  | failure => exact .change found rfl _
  | success => exact .change found rfl _
  | throughput bytes elapsed => exact .measure found rfl (throughput_sameScore bytes elapsed)

theorem step_cases {count : Nat} (some_source : 0 < count) {state next : State} {event : Event}
    (consistent : Consistent count state) (taken : step state event = some next) :
    Move count state next := by
  cases event with
  | call task =>
      rw [step] at taken
      split at taken
      · rename_i entry
        cases taken
        obtain ⟨sound, unfinished⟩ := entry_sound entry
        exact .enter (by rwa [consistent.slots] at sound) unfinished
      · cases taken
  | write pid =>
      rw [step] at taken
      split at taken
      · rename_i index report found
        cases taken
        exact write_cases found
      · cases taken
  | probe pid index answer elapsedMs =>
      rw [step] at taken
      split at taken
      · rename_i pending found
        split at taken
        · cases taken
          exact .change found rfl _
        · cases taken
      · cases taken
  | skip pid index =>
      rw [step] at taken
      split at taken
      · rename_i pending found
        split at taken
        · cases taken
          exact .go state.seq found trivial (fun _ => rfl) (by simp)
        · cases taken
      · cases taken
  | recompute pid =>
      rw [step] at taken
      split at taken
      · rename_i found
        cases taken
        exact .compute found
      · rename_i found
        cases taken
        exact .compute found
      · cases taken
  | readWeights pid =>
      rw [step] at taken
      split at taken
      · rename_i found
        cases taken
        exact .go state.seq found consistent.weights (fun old => by cases old) (by simp)
      · cases taken
  | draw pid now =>
      rw [step] at taken
      split at taken
      · rename_i weights found
        cases taken
        obtain ⟨task, seq, drawn, sound, _, unfinished⟩ :=
          draw_cases state pid now some_source (consistent.tasks pid _ found)
        rw [drawn]
        exact .go seq found sound (fun old => by cases old) unfinished
      · cases taken
  | readStats pid =>
      rw [step] at taken
      split at taken
      · rename_i sources found
        cases taken
        have counted : sources = count := consistent.tasks pid _ found
        obtain ⟨source, member, taken⟩ := @Sources.fallback_mem (state.slots.map Slot.stats) sources
          (counted.symm ▸ some_source) state.seq
        refine .go _ found ⟨source, taken, ?_⟩ (fun old => by cases old) (by simp)
        rw [Sources.candidates] at member
        split at member
        · exact (List.mem_range.mp member).trans_eq counted
        · obtain ⟨slot, held, _⟩ := Sources.mem_eligible.mp member
          have inside := (List.getElem?_eq_some_iff.mp held).1
          rwa [List.length_map, consistent.slots] at inside
      · cases taken
  | drop pid =>
      rw [step] at taken
      split at taken
      · rename_i found
        cases taken
        exact .drop found
      · rename_i task _ found
        split at taken
        · rename_i droppable
          cases taken
          refine .go state.seq found trivial ?_ (by simp)
          intro busy
          rw [droppable_settled droppable] at busy
          cases busy
        · cases taken
      · cases taken

theorem scores_modify {slots : List Slot} {change : Slot → Slot} (same : Slot.SameScore change)
    (index : Nat) : scores (slots.modify index change) = scores slots := by
  apply List.ext_getElem?
  intro other
  rw [scores, scores, List.getElem?_map, List.getElem?_map, List.getElem?_modify]
  cases slots[other]? with
  | none => rfl
  | some slot =>
      by_cases here : index = other
      · simp [here, same slot]
      · simp [here]

theorem unsettled_set {state next : State} {pid : Nat} {before after : Task}
    (found : state.tasks[pid]? = some before)
    (kept : before.unsettled = true → after.unsettled = true) (tasks : next.tasks = state.tasks.set pid after)
    (unsettled : Unsettled state) : Unsettled next := by
  obtain ⟨other, holds⟩ := unsettled
  refine ⟨other, ?_⟩
  rw [tasks]
  exact Slots.set_keeps found kept holds

theorem recompute_weights {count : Nat} {state : State} (consistent : Consistent count state) :
    state.recompute.weights = scores state.slots := by
  rw [State.recompute, scores]
  simp only
  rw [recomputeWeights_eq (by rw [List.length_map, consistent.weights, consistent.slots]), List.map_map]
  rfl

theorem consistent_move {count : Nat} {state next : State} (consistent : Consistent count state)
    (move : Move count state next) : Consistent count next := by
  cases move with
  | enter sound unfinished =>
      refine { consistent with fresh := ?_, computed := ?_, tasks := ?_ }
      · intro begun current
        rcases consistent.fresh begun current with same | ⟨other, task, held, unsettled⟩
        · exact Or.inl same
        · exact Or.inr ⟨other, task, Slots.get_snoc _ held, unsettled⟩
      · intro other held
        rcases Slots.get_snoc_cases held with old | ⟨_, new⟩
        · exact consistent.computed other old
        · exact absurd new.symm unfinished
      · intro other task held
        rcases Slots.get_snoc_cases held with old | ⟨_, rfl⟩
        · exact consistent.tasks other task old
        · exact sound
  | @change pid index before after found unsettled change =>
      refine { consistent with slots := ?_, fresh := ?_, computed := ?_, tasks := ?_ }
      · rw [← consistent.slots]
        exact List.length_modify _ _ _
      · intro _ _
        exact Or.inr ⟨pid, after, Slots.get_set_self _ found, unsettled⟩
      · intro other held
        rcases Slots.get_set_cases held with ⟨_, same⟩ | ⟨_, old⟩
        · exact absurd same.symm (unsettled_sound unsettled count).2
        · exact consistent.computed other old
      · intro other task held
        rcases Slots.get_set_cases held with ⟨_, rfl⟩ | ⟨_, old⟩
        · exact (unsettled_sound unsettled count).1
        · exact consistent.tasks other task old
  | @measure pid index before change found settled same =>
      refine { consistent with slots := ?_, fresh := ?_, computed := ?_, tasks := ?_ }
      · rw [← consistent.slots]
        exact List.length_modify _ _ _
      · intro begun current
        rcases consistent.fresh begun current with equal | unsettled
        · exact Or.inl (equal.trans (scores_modify same index).symm)
        · refine Or.inr (unsettled_set found ?_ rfl unsettled)
          intro busy
          rw [settled] at busy
          cases busy
      · intro other held
        rcases Slots.get_set_cases held with ⟨_, wrong⟩ | ⟨_, old⟩
        · cases wrong
        · exact consistent.computed other old
      · intro other task held
        rcases Slots.get_set_cases held with ⟨_, rfl⟩ | ⟨_, old⟩
        · trivial
        · exact consistent.tasks other task old
  | go seq found sound kept unfinished =>
      refine { consistent with fresh := ?_, computed := ?_, tasks := ?_ }
      · intro begun current
        rcases consistent.fresh begun current with same | unsettled
        · exact Or.inl same
        · exact Or.inr (unsettled_set found kept rfl unsettled)
      · intro other held
        rcases Slots.get_set_cases held with ⟨_, wrong⟩ | ⟨_, old⟩
        · exact absurd wrong.symm unfinished
        · exact consistent.computed other old
      · intro other task held
        rcases Slots.get_set_cases held with ⟨_, rfl⟩ | ⟨_, old⟩
        · exact sound
        · exact consistent.tasks other task old
  | compute found =>
      have equal := recompute_weights consistent
      refine ⟨consistent.slots, ?_, fun _ _ => Or.inl equal,
        fun unbegun => absurd unbegun (show ¬ true = false by decide), fun _ _ => rfl, ?_⟩
      · change state.recompute.weights.length = count
        rw [equal, scores, List.length_map, consistent.slots]
      · intro other task held
        rcases Slots.get_set_cases held with ⟨_, rfl⟩ | ⟨_, old⟩
        · trivial
        · exact consistent.tasks other task old
  | drop found =>
      refine { consistent with fresh := ?_, computed := ?_, tasks := ?_ }
      · intro _ current
        cases current
      · intro other held
        rcases Slots.get_set_cases held with ⟨_, wrong⟩ | ⟨_, old⟩
        · cases wrong
        · exact consistent.computed other old
      · intro other task held
        rcases Slots.get_set_cases held with ⟨_, rfl⟩ | ⟨_, old⟩
        · trivial
        · exact consistent.tasks other task old

theorem consistent_start (count : Nat) : Consistent count (start count) where
  slots := List.length_replicate
  weights := List.length_replicate
  fresh := fun begun _ => by cases begun
  unbegun := fun _ => rfl
  computed := fun _ held => by cases held
  tasks := fun _ _ held => by cases held

theorem consistent_run {count : Nat} (some_source : 0 < count) {events : List Event} {final : State}
    (ran : Machine.run step (start count) events = some final) : Consistent count final :=
  Machine.run_invariant (Consistent count)
    (fun _ _ _ consistent taken => consistent_move consistent (step_cases some_source consistent taken))
    (consistent_start count) ran

theorem settled_weights {count : Nat} {state : State} (consistent : Consistent count state)
    (settled : Settled state) : state.weights = scores state.slots := by
  obtain ⟨pid, held⟩ := List.mem_iff_getElem?.mp settled.ended
  rcases consistent.fresh (consistent.computed pid held) settled.current with same | ⟨other, task, there, busy⟩
  · exact same
  · rw [settled.idle task (List.mem_of_getElem? there)] at busy
    cases busy

theorem weights_step {count : Nat} {state next : State} (consistent : Consistent count state)
    (move : Move count state next) : next.weights = state.weights ∧ next.begun = state.begun ∨
      next.weights = scores state.slots ∧ next.begun = true := by
  cases move with
  | compute found => exact Or.inr ⟨recompute_weights consistent, rfl⟩
  | _ => exact Or.inl ⟨rfl, rfl⟩

theorem recompute_mends {count : Nat} {state next : State} {pid : Nat} (consistent : Consistent count state)
    (taken : step state (.recompute pid) = some next) :
    next.weights = scores next.slots ∧ next.stale = false := by
  rw [step] at taken
  split at taken
  · cases taken
    exact ⟨recompute_weights consistent, rfl⟩
  · cases taken
    exact ⟨recompute_weights consistent, rfl⟩
  · cases taken

/-- Whatever reports, probes and picks come in between one another and wherever they are dropped: every
pick ends with a source of the pool; when no report of a result and no probe is in progress, one has ended
and none was dropped between its locks since, the weight of every source is the score of its statistics;
and the next of them that computes the weights makes them so again after a drop. -/
theorem weights_settle (count : Nat) (some_source : 0 < count) (events : List Event) (final : State)
    (ran : Machine.run step (start count) events = some final) :
    (∀ index, Task.picked index ∈ final.tasks → ∃ source, index = some source ∧ source < count) ∧
      (Settled final → final.weights = scores final.slots) ∧
      (∀ (pid : Nat) (next : State), step final (.recompute pid) = some next →
        next.weights = scores next.slots ∧ next.stale = false) ∧
      final.weights.length = count := by
  have consistent := consistent_run some_source ran
  refine ⟨?_, settled_weights consistent, fun _ _ taken => recompute_mends consistent taken, consistent.weights⟩
  intro index member
  obtain ⟨pid, held⟩ := List.mem_iff_getElem?.mp member
  exact consistent.tasks pid _ held

def sampleEvents : List Event :=
  [.call (.reporting 1 .success), .call .picking, .write 0, .readWeights 1, .recompute 0, .draw 1 0]

theorem weights_settle_sample : ∃ final, Machine.run step (start 2) sampleEvents = some final ∧
    final.weights = scores final.slots ∧ final.weights = [0, 11 / 10] ∧
      ∃ source, Task.picked (some source) ∈ final.tasks ∧ source < 2 := by
  have ended : (Machine.run step (start 2) sampleEvents).map (fun final => (final.tasks, final.weights)) =
      some ([.recomputed, .picked (some 0)], [0, 11 / 10]) := by decide +kernel
  have unbroken : (Machine.run step (start 2) sampleEvents).map State.stale = some false := by decide +kernel
  obtain ⟨final, ran, same⟩ := Option.map_eq_some_iff.mp ended
  obtain ⟨tasks, weights⟩ := Prod.mk.inj same
  rw [ran, Option.map_some, Option.some.injEq] at unbroken
  obtain ⟨picks, settled, _⟩ := weights_settle 2 (by decide) sampleEvents final ran
  have some_pick : Task.picked (some 0) ∈ final.tasks := by simp [tasks]
  obtain ⟨source, equal, inside⟩ := picks _ some_pick
  cases equal
  have quiet : Settled final := ⟨by simp [tasks, Task.unsettled], by simp [tasks], unbroken⟩
  exact ⟨final, ran, settled quiet, weights, 0, some_pick, inside⟩

/-- The success of a source whose download fails before the weights are computed: its weight stays zero. -/
example : (Machine.run step (start 2) [.call (.reporting 0 .failure), .write 0, .recompute 0,
    .call (.reporting 1 .success), .write 1, .drop 1]).map (fun final =>
      (final.weights, final.stale, final.slots[1]?.map (·.stats.success))) = some ([0, 0], true, some 1) := by
  decide +kernel

inductive Change (state : State) : Event → Nat → (Slot → Slot) → Prop where
  | report {pid index : Nat} {report : Report} (found : state.tasks[pid]? = some (.reporting index report)) :
      Change state (.write pid) index report.apply
  | probe (pid index : Nat) (answer : Option Probe) (elapsedMs : Nat) :
      Change state (.probe pid index answer elapsedMs) index (Slot.probe · answer elapsedMs)

theorem slots_step {state next : State} {event : Event} (taken : step state event = some next) :
    next.slots = state.slots ∨
      ∃ index change, Change state event index change ∧ next.slots = state.slots.modify index change := by
  cases event with
  | call task =>
      rw [step] at taken
      split at taken <;> cases taken
      exact Or.inl rfl
  | write pid =>
      rw [step] at taken
      split at taken <;> cases taken
      rename_i index report found
      exact Or.inr ⟨index, _, .report found, rfl⟩
  | probe pid index answer elapsedMs =>
      rw [step] at taken
      split at taken
      · split at taken <;> cases taken
        exact Or.inr ⟨index, _, .probe pid index answer elapsedMs, rfl⟩
      · cases taken
  | skip pid index =>
      rw [step] at taken
      split at taken
      · split at taken <;> cases taken
        exact Or.inl rfl
      · cases taken
  | recompute pid =>
      rw [step] at taken
      split at taken <;> cases taken <;> exact Or.inl rfl
  | readWeights pid =>
      rw [step] at taken
      split at taken <;> cases taken
      exact Or.inl rfl
  | draw pid now =>
      rw [step] at taken
      split at taken <;> cases taken
      left
      unfold State.draw
      split
      · rfl
      · split
        · split <;> rfl
        · rfl
  | readStats pid =>
      rw [step] at taken
      split at taken <;> cases taken
      exact Or.inl rfl
  | drop pid =>
      rw [step] at taken
      split at taken
      · cases taken
        exact Or.inl rfl
      · split at taken <;> cases taken
        exact Or.inl rfl
      · cases taken

theorem slots_length {state next : State} {event : Event} (taken : step state event = some next) :
    next.slots.length = state.slots.length := by
  rcases slots_step taken with same | ⟨index, change, _, same⟩
  · rw [same]
  · rw [same, List.length_modify]

theorem slot_step {property : Slot → Prop} {state next : State} {event : Event}
    (kept : ∀ index change slot, Change state event index change → property slot → property (change slot))
    (taken : step state event = some next) {index : Nat} {slot : Slot}
    (found : state.slots[index]? = some slot) (holds : property slot) :
    ∃ after, next.slots[index]? = some after ∧ property after := by
  rcases slots_step taken with same | ⟨other, change, changed, same⟩
  · rw [same]
    exact ⟨slot, found, holds⟩
  · rw [same, List.getElem?_modify, found]
    by_cases here : other = index
    · exact ⟨change slot, by simp [here], kept other change slot changed holds⟩
    · exact ⟨slot, by simp [here], holds⟩

theorem slots_forall {property later : Slot → Prop} {state next : State} {event : Event}
    (kept : ∀ slot, property slot → later slot)
    (changes : ∀ index change slot, Change state event index change → property slot → later (change slot))
    (taken : step state event = some next) (all : ∀ slot ∈ state.slots, property slot) :
    ∀ slot ∈ next.slots, later slot := by
  intro slot member
  rcases slots_step taken with same | ⟨index, change, changed, same⟩
  · rw [same] at member
    exact kept slot (all slot member)
  · rw [same] at member
    obtain ⟨other, held⟩ := List.mem_iff_getElem?.mp member
    rw [List.getElem?_modify] at held
    obtain ⟨before, there, equal⟩ := Option.map_eq_some_iff.mp held
    have holds := all before (List.mem_of_getElem? there)
    split at equal
    · subst equal
      exact changes index change before changed holds
    · subst equal
      exact kept before holds

theorem saturatingSucc_pos (count : Nat) : 0 < saturatingSucc count := by
  rw [saturatingSucc]
  omega

theorem served_change {state : State} {event : Event} (index : Nat) (change : Slot → Slot) (slot : Slot)
    (changed : Change state event index change) (served : 0 < slot.stats.success) :
    0 < (change slot).stats.success := by
  cases changed with
  | @report pid index report found =>
      cases report with
      | failure => exact served
      | success => exact saturatingSucc_pos _
      | throughput bytes elapsed =>
          rw [Report.apply]
          split
          · exact served
          · exact served
  | probe pid index answer elapsedMs =>
      cases answer with
      | none => exact served
      | some probe =>
          simp only [Slot.probe]
          split
          · exact saturatingSucc_pos _
          · exact served

theorem served_run {state final : State} {events : List Event}
    (ran : Machine.run step state events = some final) {index : Nat} {slot : Slot}
    (found : state.slots[index]? = some slot) (served : 0 < slot.stats.success) :
    ∃ after, final.slots[index]? = some after ∧ 0 < after.stats.success := by
  refine Machine.run_invariant
    (fun state => ∃ slot, state.slots[index]? = some slot ∧ 0 < slot.stats.success) ?_
    ⟨slot, found, served⟩ ran
  rintro before event next ⟨held, there, still⟩ taken
  exact slot_step (fun _ _ _ changed => served_change _ _ _ changed) taken there still

theorem score_pos_iff (stats : SourceStats) : 0 < stats.score ↔ 0 < stats.success ∧ stats.total ≠ 0 := by
  have slow : (0 : ℚ) < 1 + (stats.p50Ms : ℚ) / 1000 := by positivity
  have slowed : 0 < stats.rate / (1 + (stats.p50Ms : ℚ) / 1000) ↔ 0 < stats.success ∧ stats.total ≠ 0 := by
    rw [div_pos_iff_of_pos_right slow, SourceStats.rate]
    split
    · rename_i none
      simp [none]
    · rename_i some_request
      have total : (0 : ℚ) < (stats.total : ℚ) := by
        exact_mod_cast Nat.pos_of_ne_zero some_request
      rw [div_pos_iff_of_pos_right total, and_iff_left some_request]
      exact_mod_cast Iff.rfl
  rw [← slowed]
  unfold SourceStats.score
  dsimp only
  split
  · exact mul_pos_iff_of_pos_right (by norm_num)
  · exact Iff.rfl

structure Slot.Counted (requests : Nat) (slot : Slot) : Prop where
  success : slot.stats.success < 2 ^ 64
  failure : slot.stats.failure < 2 ^ 64
  few : slot.stats.success + slot.stats.failure ≤ requests

theorem saturatingSucc_le (count : Nat) : saturatingSucc count ≤ count + 1 ∧ saturatingSucc count < 2 ^ 64 := by
  rw [saturatingSucc]
  omega

theorem counted_change {state : State} {event : Event} {requests : Nat} (index : Nat) (change : Slot → Slot)
    (slot : Slot) (changed : Change state event index change) (counted : slot.Counted requests) :
    (change slot).Counted (requests + 1) := by
  obtain ⟨success, failure, few⟩ := counted
  have more := saturatingSucc_le slot.stats.success
  have worse := saturatingSucc_le slot.stats.failure
  have same : slot.Counted (requests + 1) := ⟨success, failure, by omega⟩
  have good : saturatingSucc slot.stats.success + slot.stats.failure ≤ requests + 1 := by omega
  have bad : slot.stats.success + saturatingSucc slot.stats.failure ≤ requests + 1 := by omega
  cases changed with
  | @report pid index report found =>
      cases report with
      | failure => exact ⟨success, worse.2, bad⟩
      | success => exact ⟨more.2, failure, good⟩
      | throughput bytes elapsed =>
          rw [Report.apply]
          split
          · exact same
          · exact ⟨success, failure, same.few⟩
  | probe pid index answer elapsedMs =>
      cases answer with
      | none => exact ⟨success, worse.2, bad⟩
      | some probe =>
          simp only [Slot.probe]
          split
          · exact ⟨more.2, failure, good⟩
          · exact ⟨success, worse.2, bad⟩

theorem counted_run {count : Nat} {events : List Event} {final : State}
    (ran : Machine.run step (start count) events = some final) :
    ∀ slot ∈ final.slots, slot.Counted events.length := by
  refine Machine.run_history (fun events state => ∀ slot ∈ state.slots, slot.Counted events.length) ?_ ?_ ran
  · intro slot member
    rw [List.eq_of_mem_replicate member]
    exact ⟨by decide, by decide, Nat.zero_le _⟩
  · intro front state event next counted taken
    rw [List.length_append, List.length_singleton]
    exact slots_forall (fun slot held => ⟨held.success, held.failure, held.few.trans (Nat.le_succ _)⟩)
      counted_change taken counted

theorem score_zero_iff {slot : Slot} {requests : Nat} (counted : slot.Counted requests) :
    slot.stats.score = 0 ↔ slot.stats.success = 0 ∨ slot.stats.success + slot.stats.failure = 2 ^ 64 := by
  have total : slot.stats.total = 0 ↔
      slot.stats.success + slot.stats.failure = 0 ∨ slot.stats.success + slot.stats.failure = 2 ^ 64 := by
    have success := counted.success
    have failure := counted.failure
    rw [SourceStats.total, wrap]
    omega
  have positive : slot.stats.score ≠ 0 ↔ 0 < slot.stats.success ∧ slot.stats.total ≠ 0 := by
    rw [← score_pos_iff]
    exact ⟨fun other => lt_of_le_of_ne (Sources.score_nonneg _) other.symm, ne_of_gt⟩
  rw [← not_iff_not, ← Ne, positive, Ne, total]
  omega

def Earned (state : State) : Prop :=
  state.begun = true → ∀ (index : Nat) (weight : ℚ), state.weights[index]? = some weight → 0 < weight →
    ∃ slot, state.slots[index]? = some slot ∧ 0 < slot.stats.success

theorem earned_step {count : Nat} {state next : State} {event : Event} (earned : Earned state)
    (consistent : Consistent count state) (move : Move count state next)
    (taken : step state event = some next) : Earned next := by
  intro begun index weight held positive
  obtain ⟨slot, found, served⟩ : ∃ slot, state.slots[index]? = some slot ∧ 0 < slot.stats.success := by
    rcases weights_step consistent move with ⟨same, still⟩ | ⟨same, _⟩
    · rw [same] at held
      rw [still] at begun
      exact earned begun index weight held positive
    · rw [same, scores, List.getElem?_map] at held
      obtain ⟨slot, found, rfl⟩ := Option.map_eq_some_iff.mp held
      exact ⟨slot, found, ((score_pos_iff _).mp positive).1⟩
  exact slot_step (fun _ _ _ changed => served_change _ _ _ changed) taken found served

theorem earned_run {count : Nat} (some_source : 0 < count) {events : List Event} {final : State}
    (ran : Machine.run step (start count) events = some final) : Earned final := by
  have both := Machine.run_invariant (fun state => Consistent count state ∧ Earned state)
    (fun _ _ _ before taken =>
      have move := step_cases some_source before.1 taken
      ⟨consistent_move before.1 move, earned_step before.2 before.1 move taken⟩)
    ⟨consistent_start count, fun begun => by cases begun⟩ ran
  exact both.2

theorem weight_stays {count : Nat} (some_source : 0 < count) {events later : List Event} {middle final : State}
    (ran : Machine.run step (start count) events = some middle)
    (more : Machine.run step middle later = some final) (few : events.length + later.length < 2 ^ 64)
    (begun : middle.begun = true) {index : Nat} {before : ℚ} (held : middle.weights[index]? = some before)
    (positive : 0 < before) : ∃ weight, final.weights[index]? = some weight ∧ 0 < weight := by
  induction later generalizing events middle before with
  | nil =>
      rw [Machine.run_nil] at more
      cases more
      exact ⟨before, held, positive⟩
  | cons event later ih =>
      obtain ⟨next, taken, rest⟩ := Machine.run_cons_some more
      have consistent := consistent_run some_source ran
      have reached : Machine.run step (start count) (events ++ [event]) = some next := Machine.run_snoc ran taken
      have short : (events ++ [event]).length + later.length < 2 ^ 64 := by
        rw [List.length_append, List.length_singleton]
        rw [List.length_cons] at few
        omega
      obtain ⟨slot, found, served⟩ := earned_run some_source ran begun index before held positive
      rcases weights_step consistent (step_cases some_source consistent taken) with ⟨same, still⟩ | ⟨same, now⟩
      · exact ih reached rest short (still.trans begun) (same ▸ held) positive
      · have counted := counted_run ran slot (List.mem_of_getElem? found)
        have score : 0 < slot.stats.score := by
          refine (score_pos_iff _).mpr ⟨served, ?_⟩
          have bound := counted.few
          rw [SourceStats.total, wrap]
          omega
        refine ih reached rest short now ?_ score
        rw [same, scores, List.getElem?_map, found, Option.map_some]

/-- No number of failures, failed probes or measurements takes a success away; when everything has settled
a weight is zero exactly for a source that never was successful, or whose counters together reach `2 ^ 64`;
and in a run with fewer requests the weight of a source that was successful once is positive when everything
has settled, and one that is positive stays so in every later state, whatever is dropped. -/
theorem served_source_stays (count : Nat) (some_source : 0 < count) (events later : List Event)
    (middle final : State) (ran : Machine.run step (start count) events = some middle)
    (more : Machine.run step middle later = some final) (index : Nat) (slot : Slot)
    (found : middle.slots[index]? = some slot) :
    ∃ weight after, final.weights[index]? = some weight ∧ final.slots[index]? = some after ∧
      (0 < slot.stats.success → 0 < after.stats.success) ∧
      (Settled final → (weight = 0 ↔
        after.stats.success = 0 ∨ after.stats.success + after.stats.failure = 2 ^ 64)) ∧
      (events.length + later.length < 2 ^ 64 →
        after.stats.success + after.stats.failure < 2 ^ 64 ∧
        (Settled final → 0 < slot.stats.success → 0 < weight) ∧
        ∀ before, middle.begun = true → middle.weights[index]? = some before → 0 < before → 0 < weight) := by
  have whole : Machine.run step (start count) (events ++ later) = some final := Machine.run_through ran more
  have consistent := consistent_run some_source whole
  have inside : index < count := (Slots.lt_of_get found).trans_eq (consistent_run some_source ran).slots
  obtain ⟨after, there⟩ : ∃ after, final.slots[index]? = some after :=
    ⟨_, List.getElem?_eq_getElem (inside.trans_eq consistent.slots.symm)⟩
  obtain ⟨weight, shown⟩ : ∃ weight, final.weights[index]? = some weight :=
    ⟨_, List.getElem?_eq_getElem (inside.trans_eq consistent.weights.symm)⟩
  have counted := counted_run whole after (List.mem_of_getElem? there)
  have settles : Settled final → weight = after.stats.score := by
    intro settled
    rw [settled_weights consistent settled, scores, List.getElem?_map, there, Option.map_some] at shown
    exact (Option.some.inj shown).symm
  have serves : 0 < slot.stats.success → 0 < after.stats.success := by
    intro served
    obtain ⟨other, held, still⟩ := served_run more found served
    rw [there, Option.some.injEq] at held
    exact held ▸ still
  refine ⟨weight, after, shown, there, serves, ?_, ?_⟩
  · intro settled
    rw [settles settled]
    exact score_zero_iff counted
  · intro few
    have small : after.stats.success + after.stats.failure < 2 ^ 64 := by
      have bound := counted.few
      rw [List.length_append] at bound
      omega
    refine ⟨small, ?_, ?_⟩
    · intro settled served
      rw [settles settled, score_pos_iff, SourceStats.total, wrap, Nat.mod_eq_of_lt small]
      have still := serves served
      omega
    · intro before begun held positive
      obtain ⟨later_weight, same, still⟩ := weight_stays some_source ran more few begun held positive
      rw [shown, Option.some.injEq] at same
      exact same ▸ still

/-- A success of the second of two sources, then a failure of it. -/
theorem served_source_stays_sample : ∃ final weight,
    Machine.run step (start 2)
      (sampleEvents ++ [.call (.reporting 1 .failure), .write 2, .recompute 2]) = some final ∧
      final.weights[1]? = some weight ∧ 0 < weight := by
  have first : (Machine.run step (start 2) sampleEvents).isSome = true := by decide +kernel
  obtain ⟨middle, ran⟩ := Option.isSome_iff_exists.mp first
  have stats : (Machine.run step (start 2) sampleEvents).map (fun state => state.slots[1]?) =
      some (some ⟨⟨1, 0, 0, true, true⟩, 0⟩) := by decide +kernel
  have ended : (Machine.run step (start 2)
      (sampleEvents ++ [.call (.reporting 1 .failure), .write 2, .recompute 2])).map State.tasks =
        some [.recomputed, .picked (some 0), .recomputed] := by decide +kernel
  obtain ⟨final, whole, tasks⟩ := Option.map_eq_some_iff.mp ended
  have more : Machine.run step middle [.call (.reporting 1 .failure), .write 2, .recompute 2] = some final :=
    Machine.run_rest whole ran
  rw [ran, Option.map_some, Option.some.injEq] at stats
  have unbroken : (Machine.run step (start 2)
      (sampleEvents ++ [.call (.reporting 1 .failure), .write 2, .recompute 2])).map State.stale =
        some false := by decide +kernel
  rw [whole, Option.map_some, Option.some.injEq] at unbroken
  have settled : Settled final := ⟨by simp [tasks, Task.unsettled], by simp [tasks], unbroken⟩
  obtain ⟨weight, _, held, _, _, _, few⟩ := served_source_stays 2 (by decide) sampleEvents _ middle final
    ran more 1 _ stats
  exact ⟨final, weight, whole, held, (few (by decide)).2.1 settled (by decide)⟩

def exactBps (bytes elapsed : Nat) : Nat := bytes * 1000000 / max (elapsed / 1000) 1

def Report.Sampled (low high : Nat) : Report → Prop
  | .throughput bytes elapsed =>
      bytes = 0 ∨ elapsed = 0 ∨ low ≤ exactBps bytes elapsed ∧ exactBps bytes elapsed ≤ high
  | _ => True

def Task.Sampled (low high : Nat) : Task → Prop
  | .reporting _ report => report.Sampled low high
  | _ => True

/-- What comes from outside: the measurements that are reported, and the time of a probe. -/
def Event.Sampled (low high slow : Nat) : Event → Prop
  | .call task => task.Sampled low high
  | .probe _ _ _ elapsedMs => elapsedMs % 2 ^ 32 ≤ slow
  | _ => True

/-- The averages lie where the samples do, or nothing is measured yet. -/
structure Slot.Within (low high slow : Nat) (slot : Slot) : Prop where
  measured : slot.throughputBps = 0 ∨ low ≤ slot.throughputBps
  fast : slot.throughputBps ≤ high
  latency : slot.stats.p50Ms ≤ slow

structure Measured (low high slow : Nat) (state : State) : Prop where
  slots : ∀ slot ∈ state.slots, slot.Within low high slow
  tasks : ∀ task ∈ state.tasks, task.Sampled low high

theorem ewmaMs_eq (previous sample : Nat) : ewmaMs previous sample = Average.moving 7 1 previous sample := by
  rw [ewmaMs, Average.moving, Average.mean, Nat.mul_one]

theorem ewmaBps_eq {previous sample high : Nat} (before : previous ≤ high) (now : sample ≤ high)
    (small : 10 * high < 2 ^ 64) : ewmaBps previous sample = Average.moving 7 3 previous sample := by
  rw [ewmaBps, Average.moving, Average.mean]
  congr 2
  rw [wrap, wrap, wrap, Nat.mod_eq_of_lt (by omega : previous * 7 < 2 ^ 64),
    Nat.mod_eq_of_lt (by omega : sample * 3 < 2 ^ 64), Nat.mod_eq_of_lt (by omega)]

theorem sampleBps_eq {bytes elapsed high : Nat} (now : exactBps bytes elapsed ≤ high)
    (small : 10 * high < 2 ^ 64) : sampleBps bytes elapsed = exactBps bytes elapsed := by
  rw [sampleBps, ← exactBps, wrap, Nat.mod_eq_of_lt (by omega)]

theorem within_report {low high slow : Nat} (small : 10 * high < 2 ^ 64) {report : Report} {slot : Slot}
    (sampled : report.Sampled low high) (within : slot.Within low high slow) :
    (report.apply slot).Within low high slow := by
  cases report with
  | failure => exact ⟨within.measured, within.fast, within.latency⟩
  | success => exact ⟨within.measured, within.fast, within.latency⟩
  | throughput bytes elapsed =>
      rw [Report.apply]
      split
      · exact within
      · rename_i measured
        obtain ⟨some_bytes, some_time⟩ := not_or.mp measured
        obtain ⟨above, below⟩ := (sampled.resolve_left some_bytes).resolve_left some_time
        rw [← sampleBps_eq below small] at above below
        have average := ewmaBps_eq within.fast below small
        refine ⟨Or.inr ?_, ?_, within.latency⟩
        · exact (Average.le_moving (by decide) within.measured above).trans_eq average.symm
        · exact average.trans_le (Average.moving_le within.fast below)

theorem within_probe {low high slow : Nat} {slot : Slot} {answer : Option Probe} {elapsedMs : Nat}
    (timed : elapsedMs % 2 ^ 32 ≤ slow) (within : slot.Within low high slow) :
    (slot.probe answer elapsedMs).Within low high slow := by
  cases answer with
  | none => exact ⟨within.measured, within.fast, within.latency⟩
  | some probe =>
      simp only [Slot.probe]
      split
      · exact ⟨within.measured, within.fast,
          (ewmaMs_eq _ _).trans_le (Average.moving_le within.latency timed)⟩
      · exact ⟨within.measured, within.fast, within.latency⟩

/-- The tasks after a step: the ones before, the one that was called, and ones with nothing to report. -/
theorem tasks_step {low high : Nat} {state next : State} {event : Event}
    (taken : step state event = some next) {task : Task} (member : task ∈ next.tasks) :
    task ∈ state.tasks ∨ event = .call task ∨ task.Sampled low high := by
  have replaced : ∀ {pid : Nat} {after : Task}, task ∈ state.tasks.set pid after →
      after.Sampled low high → task ∈ state.tasks ∨ event = .call task ∨ task.Sampled low high := by
    intro pid after held free
    rcases List.mem_or_eq_of_mem_set held with old | rfl
    · exact Or.inl old
    · exact Or.inr (Or.inr free)
  cases event with
  | call other =>
      rw [step] at taken
      split at taken <;> cases taken
      rcases List.mem_append.mp member with old | new
      · exact Or.inl old
      · rw [List.mem_singleton.mp new]
        exact Or.inr (Or.inl rfl)
  | write pid =>
      rw [step] at taken
      split at taken <;> cases taken
      rename_i index report found
      cases report <;> exact replaced member trivial
  | probe pid index answer elapsedMs =>
      rw [step] at taken
      split at taken
      · split at taken <;> cases taken
        exact replaced member trivial
      · cases taken
  | skip pid index =>
      rw [step] at taken
      split at taken
      · split at taken <;> cases taken
        exact replaced member trivial
      · cases taken
  | recompute pid =>
      rw [step] at taken
      split at taken <;> cases taken <;> exact replaced member trivial
  | readWeights pid =>
      rw [step] at taken
      split at taken <;> cases taken
      exact replaced member trivial
  | draw pid now =>
      rw [step] at taken
      split at taken <;> cases taken
      unfold State.draw at member
      split at member
      · exact replaced member trivial
      · split at member
        · split at member <;> exact replaced member trivial
        · exact replaced member trivial
  | readStats pid =>
      rw [step] at taken
      split at taken <;> cases taken
      exact replaced member trivial
  | drop pid =>
      rw [step] at taken
      split at taken
      · cases taken
        exact replaced member trivial
      · split at taken <;> cases taken
        exact replaced member trivial
      · cases taken

theorem measured_step {low high slow : Nat} (small : 10 * high < 2 ^ 64) {state next : State}
    {event : Event} (measured : Measured low high slow state) (sampled : event.Sampled low high slow)
    (taken : step state event = some next) : Measured low high slow next := by
  refine ⟨?_, ?_⟩
  · refine slots_forall (fun _ within => within) ?_ taken measured.slots
    intro index change slot changed within
    cases changed with
    | report found => exact within_report small (measured.tasks _ (List.mem_of_getElem? found)) within
    | probe => exact within_probe sampled within
  · intro task member
    rcases tasks_step taken member with old | rfl | free
    · exact measured.tasks task old
    · exact sampled
    · exact free

theorem measured_run {count low high slow : Nat} (small : 10 * high < 2 ^ 64) {events : List Event}
    {final : State} (ran : Machine.run step (start count) events = some final)
    (sampled : ∀ event ∈ events, event.Sampled low high slow) : Measured low high slow final := by
  refine Machine.along_invariant (Measured low high slow)
    (fun _ _ _ before met taken => measured_step small before met taken) ⟨?_, ?_⟩ ?_ ran
  · intro slot member
    rw [List.eq_of_mem_replicate member]
    exact ⟨Or.inl rfl, Nat.zero_le _, Nat.zero_le _⟩
  · intro task member
    cases member
  · rw [Machine.along_iff]
    intro front event back _ split _
    exact sampled event (split ▸ List.mem_append_right front List.mem_cons_self)

/-- No value of a report's average leaves the range of a `u64`: the sample, the two products, their sum. -/
structure Unwrapped (slot : Slot) (bytes elapsed : Nat) : Prop where
  sample : exactBps bytes elapsed < 2 ^ 64
  previous : slot.throughputBps * 7 < 2 ^ 64
  newest : exactBps bytes elapsed * 3 < 2 ^ 64
  sum : slot.throughputBps * 7 + exactBps bytes elapsed * 3 < 2 ^ 64

/-- As long as every measured throughput lies between two bounds, the upper one below a tenth of the range,
no average wraps, and that of every source lies between the bounds too, in every order of the reports;
and where what all sources reach together fits, the plan of the next download is sound: it reads the
sum without a wrap. -/
theorem plans_stay_sound (count low high slow : Nat) (small : 10 * high < 2 ^ 64) (events : List Event)
    (final : State) (ran : Machine.run step (start count) events = some final)
    (sampled : ∀ event ∈ events, event.Sampled low high slow) :
    (∀ slot ∈ final.slots, slot.Within low high slow) ∧
      (∀ (front back : List Event) (pid index bytes elapsed : Nat) (middle : State) (slot : Slot),
        events = front ++ .write pid :: back → Machine.run step (start count) front = some middle →
        middle.tasks[pid]? = some (.reporting index (.throughput bytes elapsed)) →
        middle.slots[index]? = some slot → bytes ≠ 0 → elapsed ≠ 0 → Unwrapped slot bytes elapsed) ∧
      (2 * (count * high) + 32 * Sources.mib < 2 ^ 64 →
        (final.slots.map Slot.throughputBps).sum < 2 ^ 64 ∧
        final.chunkPlan = chunkPlanFor (final.slots.map Slot.throughputBps).sum ∧
        Sources.PlanSound (final.slots.map Slot.throughputBps).sum) := by
  have measured := measured_run small ran sampled
  refine ⟨measured.slots, ?_, ?_⟩
  · intro front back pid index bytes elapsed middle slot split reached writing found some_bytes some_time
    have before := measured_run small reached (by
      intro event member
      exact sampled event (split ▸ List.mem_append_left _ member))
    have fast := (before.slots slot (List.mem_of_getElem? found)).fast
    have held := before.tasks _ (List.mem_of_getElem? writing)
    have below := ((held.resolve_left some_bytes).resolve_left some_time).2
    exact ⟨by omega, by omega, by omega, by omega⟩
  · intro fits
    have counted : final.slots.length = count :=
      Machine.run_invariant (fun state => state.slots.length = count)
        (fun _ _ _ before taken => (slots_length taken).trans before) List.length_replicate ran
    have total : (final.slots.map Slot.throughputBps).sum ≤ count * high := by
      have bound := List.sum_le_card_nsmul (final.slots.map Slot.throughputBps) high (by
        intro rate member
        obtain ⟨slot, held, rfl⟩ := List.mem_map.mp member
        exact (measured.slots slot held).fast)
      rwa [List.length_map, counted, nsmul_eq_mul, Nat.cast_id] at bound
    refine ⟨by omega, ?_, Sources.planSound_of_fits (by omega)⟩
    rw [State.chunkPlan, wrap, Nat.mod_eq_of_lt (by omega)]

/-- Eight mebibytes in a tenth of a second from one source, then in half a second from the other. -/
theorem plans_stay_sound_pair : ∃ final,
    Machine.run step (start 2)
      [.call (.reporting 0 (.throughput (8 * Sources.mib) 100000000)),
        .call (.reporting 1 (.throughput (8 * Sources.mib) 500000000)), .write 1, .write 0] = some final ∧
      final.slots.map Slot.throughputBps = [83886080, 16777216] ∧
      final.chunkPlan = chunkPlanFor 100663296 ∧ Sources.PlanSound 100663296 := by
  have ended : (Machine.run step (start 2)
      [.call (.reporting 0 (.throughput (8 * Sources.mib) 100000000)),
        .call (.reporting 1 (.throughput (8 * Sources.mib) 500000000)), .write 1, .write 0]).map
        (fun final => final.slots.map Slot.throughputBps) = some [83886080, 16777216] := by decide +kernel
  obtain ⟨final, ran, rates⟩ := Option.map_eq_some_iff.mp ended
  obtain ⟨_, _, fits⟩ := plans_stay_sound 2 16777216 83886080 0 (by decide) _ final ran (by
    intro event member
    simp only [List.mem_cons, List.not_mem_nil, or_false] at member
    rcases member with rfl | rfl | rfl | rfl
    · exact Or.inr (Or.inr (by decide))
    · exact Or.inr (Or.inr (by decide))
    · trivial
    · trivial)
  obtain ⟨_, plan, sound⟩ := fits (by decide)
  rw [rates] at plan sound
  exact ⟨final, ran, rates, plan, sound⟩

end WebProxy.PoolRuns

import WebProxy.Collected

/-! The progress counters of a download that the dashboard shows: `chunks_done`, which starts at
the number of resumed chunks, and `bytes_done`, which starts at zero. Both grow in the emission
loop. -/

namespace WebProxy.Download

open ByteFile (Bytes)
open Bitmap (Plan)
open FetchChunk (Writer)
open Machine (run)

structure Counted (plan : Plan) (state : Attempt) : Prop where
  chunks : state.chunksDone = plan.flags.count true + state.emitted.length
  bytes : state.bytesDone = state.nextOffset

theorem counted_start (plan : Plan) (file : Bytes) (connected : Bool) :
    Counted plan (start plan file connected) := ⟨rfl, rfl⟩

theorem counted_step {plan : Plan} (state : Attempt) (event : Event) (next : Attempt)
    (both : Inv plan state ∧ Counted plan state) (taken : step plan state event = some next) :
    Inv plan next ∧ Counted plan next := by
  obtain ⟨inv, counted⟩ := both
  refine ⟨inv_step state event next inv taken, ?_⟩
  rcases (step_cases taken).2 with moved | moved
  · obtain ⟨index, before, after, file, permits, held, move, rfl⟩ := taskStep_cases moved
    exact ⟨counted.chunks, counted.bytes⟩
  · cases collectorStep_cases inv moved with
    | @emitted bytes emitting inside ready read delivered =>
        constructor
        · have chunks := counted.chunks
          simp only [Attempt.emitChunk, List.length_append, List.length_singleton]
          omega
        · have sum := counted.bytes
          simp only [Attempt.emitChunk]
          omega
    | cached | fetched | exhausted | saved | unread | round | left =>
        exact ⟨counted.chunks, counted.bytes⟩

theorem counters_grow {plan : Plan} (state : Attempt) (event : Event) (next : Attempt)
    (inv : Inv plan state) (taken : step plan state event = some next) :
    state.chunksDone ≤ next.chunksDone ∧ state.bytesDone ≤ next.bytesDone := by
  rcases (step_cases taken).2 with moved | moved
  · obtain ⟨index, before, after, file, permits, held, move, rfl⟩ := taskStep_cases moved
    exact ⟨le_rfl, le_rfl⟩
  · cases collectorStep_cases inv moved with
    | emitted => exact ⟨Nat.le_succ _, Nat.le_add_right _ _⟩
    | cached | fetched | exhausted | saved | unread | round | left => exact ⟨le_rfl, le_rfl⟩

/-- The counters of a run: never beyond the whole, never falling, and the whole at its end. -/
structure ProgressSound (plan : Plan) (file : Bytes) (connected : Bool) (events : List Event) :
    Prop where
  bounded : ∀ (front : List Event) (state : Attempt), front <+: events →
    run (step plan) (start plan file connected) front = some state →
    state.chunksDone ≤ plan.chunks.length ∧ state.bytesDone ≤ plan.total
  growing : ∀ (front middle : List Event) (state later : Attempt), front ++ middle <+: events →
    run (step plan) (start plan file connected) front = some state →
    run (step plan) state middle = some later →
    state.chunksDone ≤ later.chunksDone ∧ state.bytesDone ≤ later.bytesDone
  complete : ∀ (front : List Event) (state : Attempt), front <+: events →
    run (step plan) (start plan file connected) front = some state → state.phase = .collected →
    state.chunksDone = plan.chunks.length ∧ state.bytesDone = plan.total

theorem progress_sound_of_fresh {plan : Plan} (fresh : true ∉ plan.flags) (file : Bytes)
    (connected : Bool) (events : List Event) : ProgressSound plan file connected events := by
  have none : plan.flags.count true = 0 := List.count_eq_zero.mpr fresh
  have known : ∀ (front : List Event) (state : Attempt),
      run (step plan) (start plan file connected) front = some state →
      Inv plan state ∧ Counted plan state := by
    intro front state ran
    exact Machine.run_invariant (fun state => Inv plan state ∧ Counted plan state) counted_step
      ⟨inv_start plan file connected, counted_start plan file connected⟩ ran
  constructor
  · intro front state _ ran
    obtain ⟨inv, counted⟩ := known front state ran
    rw [counted.chunks, counted.bytes, none, Nat.zero_add]
    exact ⟨inv.emitted_le, inv.nextOffset_le⟩
  · intro front middle state later _ ran rest
    obtain ⟨inv, _⟩ := known front state ran
    exact Machine.run_relation (Inv plan)
      (fun first last => first.chunksDone ≤ last.chunksDone ∧ first.bytesDone ≤ last.bytesDone)
      inv_step (fun _ => ⟨le_rfl, le_rfl⟩)
      (fun _ _ _ front back => ⟨front.1.trans back.1, front.2.trans back.2⟩) counters_grow inv rest
  · intro front state _ ran ended
    obtain ⟨inv, counted⟩ := known front state ran
    obtain ⟨whole, order⟩ := inv.collected ended
    rw [counted.chunks, counted.bytes, none, Nat.zero_add, whole, order, List.length_range]
    exact ⟨rfl, rfl⟩

/-! A run that gets through: every chunk that is not on disk arrives in one piece. -/

def landEvents (index length : Nat) (flag : Bool) : List Event :=
  if flag then [.poll index]
  else [.poll index, .accept index, .piece index (List.replicate length 0), .finishBody index]

theorem run_landEvents {plan : Plan} {state : Attempt} {index : Nat} {chunk : Chunks.Chunk}
    {flag : Bool} (joining : state.phase = .joining) (permits : 0 < state.permits)
    (waiting : state.tasks[index]? = some .waiting) (found : plan.chunks[index]? = some chunk)
    (flagged : plan.flags[index]? = some flag) :
    ∃ next, run (step plan) state (landEvents index chunk.length flag) = some next ∧
      next.phase = .joining ∧ next.permits = state.permits ∧
      next.tasks = state.tasks.set index (.returned flag) := by
  have live : state.phase.live = true := by rw [joining]; rfl
  have bound := Slots.lt_of_get waiting
  cases flag with
  | true =>
      refine ⟨state.setTask index (.returned true), ?_, joining, rfl, rfl⟩
      have moved : taskStep plan state (.poll index) = some (state.setTask index (.returned true)) := by
        simp only [taskStep, waiting, flagged]
      rw [landEvents, if_pos rfl, Machine.run_cons, step_task live moved]
      rfl
  | false =>
      let taken : Attempt := { state.setTask index (.attempting 0) with permits := state.permits - 1 }
      let writer := Writer.open chunk.offset
      let opened := taken.setTask index (.writing 0 writer)
      let data : Bytes := List.replicate chunk.length 0
      let written : Attempt :=
        { opened.setTask index (.writing 0 (writer.write opened.file data).1) with
          file := (writer.write opened.file data).2 }
      have asked : taskStep plan state (.poll index) = some taken := by
        simp only [taskStep, waiting, flagged, if_neg (Nat.pos_iff_ne_zero.mp permits), taken]
      have attempting : taken.tasks[index]? = some (.attempting 0) := List.getElem?_set_self bound
      have accepted : taskStep plan taken (.accept index) = some opened := by
        simp only [taskStep, attempting, found]
        rfl
      have writing : opened.tasks[index]? = some (.writing 0 writer) :=
        Slots.get_set_self _ attempting
      have arrived : taskStep plan opened (.piece index data) = some written := by
        simp only [taskStep, writing]
        rfl
      have holding : written.tasks[index]? = some (.writing 0 (writer.write opened.file data).1) :=
        Slots.get_set_self _ writing
      have whole : (writer.write opened.file data).1.close chunk.offset chunk.length = .ok chunk.length := by
        simp [FetchChunk.Writer.write, FetchChunk.Writer.close, writer, data, FetchChunk.Writer.open]
      have ended : taskStep plan written (.finishBody index) =
          some { written.setTask index (.returned false) with permits := written.permits + 1 } := by
        simp only [taskStep, holding, found, whole]
      refine ⟨{ written.setTask index (.returned false) with permits := written.permits + 1 }, ?_,
        joining, Nat.sub_add_cancel permits, ?_⟩
      · have second : step plan taken (.accept index) = some opened := step_task live accepted
        have third : step plan opened (.piece index data) = some written := step_task live arrived
        have last := step_task (show written.phase.live = true from live) ended
        rw [landEvents, if_neg (by simp), Machine.run_cons, step_task live asked, Option.bind_some,
          Machine.run_cons, second, Option.bind_some, Machine.run_cons, third, Option.bind_some,
          Machine.run_cons, last]
        rfl
      · simp [Attempt.setTask, written, opened, taken]

theorem exists_landed {plan : Plan} (concurrent : 0 < plan.maxConcurrent) (file : Bytes) (count : Nat)
    (inside : count ≤ plan.chunks.length) :
    ∃ events state, run (step plan) (start plan file true) events = some state ∧
      state.phase = .joining ∧ state.permits = plan.maxConcurrent ∧
      (∀ (index : Nat) (task : Task), index < count → state.tasks[index]? = some task →
        task.landed = true) ∧
      ∀ index : Nat, count ≤ index → index < plan.chunks.length →
        state.tasks[index]? = some .waiting := by
  induction count with
  | zero =>
      refine ⟨[], start plan file true, rfl, rfl, rfl, by omega, ?_⟩
      intro index _ bound
      rw [start, List.getElem?_replicate, if_pos bound]
  | succ count ih =>
      obtain ⟨events, state, ran, joining, permits, landed, waiting⟩ := ih (by omega)
      have found := List.getElem?_eq_getElem (Nat.lt_of_succ_le inside)
      have sized : count < plan.flags.length := by
        rw [plan.sized]
        exact Nat.lt_of_succ_le inside
      have flagged := List.getElem?_eq_getElem sized
      obtain ⟨next, rest, phase, kept, tasks⟩ := run_landEvents joining (by omega)
        (waiting count le_rfl (by omega)) found flagged
      refine ⟨events ++ landEvents count plan.chunks[count].length plan.flags[count], next, ?_, phase,
        kept.trans permits, ?_, ?_⟩
      · exact Machine.run_through ran rest
      · intro index task before held
        rw [tasks] at held
        rcases Slots.get_set_cases held with ⟨_, rfl⟩ | ⟨other, old⟩
        · rfl
        · exact landed index task (by omega) old
      · intro index after bound
        rw [tasks, List.getElem?_set_ne (by omega)]
        exact waiting index (by omega) bound

theorem Landing.collects {plan : Plan} {state : Attempt} (landing : Landing plan state) :
    ∃ events final, run (step plan) state events = some final ∧ final.phase = .collected := by
  induction left : work plan state using Nat.strong_induction_on generalizing state with
  | _ left ih =>
      rcases landing.progress with ended | ⟨event, next, taken⟩
      · exact ⟨[], state, rfl, ended⟩
      · have lower := landing_lower state event next landing taken
        obtain ⟨events, final, ran, ended⟩ := ih (work plan next) (by omega)
          (landing_step state event next landing taken) rfl
        refine ⟨event :: events, final, ?_, ended⟩
        rw [Machine.run_cons, taken, Option.bind_some, ran]

theorem exists_collected {plan : Plan} (concurrent : 0 < plan.maxConcurrent) :
    ∃ file events final, run (step plan) (start plan file true) events = some final ∧
      final.phase = .collected := by
  let file : Bytes := List.replicate plan.total 0
  obtain ⟨front, state, ran, joining, _, landed, _⟩ :=
    exists_landed concurrent file plan.chunks.length le_rfl
  have flagged : ∀ index : Nat, plan.flags[index]? = some true → reach plan index ≤ file.length := by
    intro index _
    rw [List.length_replicate]
    exact Nat.min_le_right _ _
  obtain ⟨inv, covered⟩ := Machine.run_invariant (fun state => Inv plan state ∧ Covered plan state)
    covered_step ⟨inv_start plan file true, covered_start true flagged⟩ ran
  have landing : Landing plan state := by
    refine ⟨inv, covered, ?_, by simp [joining]⟩
    intro index task held
    exact landed index task (inv.task_bound held) held
  obtain ⟨back, final, rest, ended⟩ := landing.collects
  refine ⟨file, front ++ back, final, ?_, ended⟩
  exact Machine.run_through ran rest

/-- The published counters are sound in every run of a download exactly when it resumes no chunk. -/
theorem download_progress_iff_fresh (plan : Plan) (concurrent : 0 < plan.maxConcurrent) :
    (∀ (file : Bytes) (connected : Bool) (events : List Event),
      ProgressSound plan file connected events) ↔ true ∉ plan.flags := by
  constructor
  · intro sound resumed
    obtain ⟨file, events, final, ran, ended⟩ := exists_collected concurrent
    obtain ⟨inv, counted⟩ := Machine.run_invariant (fun state => Inv plan state ∧ Counted plan state)
      counted_step ⟨inv_start plan file true, counted_start plan file true⟩ ran
    have whole := ((sound file true events).complete events final List.prefix_rfl ran ended).1
    have chunks := counted.chunks
    rw [(inv.collected ended).2, List.length_range, whole] at chunks
    have some_flag : 0 < plan.flags.count true := List.count_pos_iff.mpr resumed
    omega
  · intro fresh file connected events
    exact progress_sound_of_fresh fresh file connected events

def freshPlan : Plan := { resumedPlan with flags := [false, false], sized := by decide }

theorem download_progress_iff_fresh_plan :
    0 < freshPlan.maxConcurrent ∧
      ∀ (file : Bytes) (connected : Bool) (events : List Event),
        ProgressSound freshPlan file connected events :=
  ⟨by decide, (download_progress_iff_fresh freshPlan (by decide)).mpr (by decide)⟩

/-- With one of two chunks resumed the counter shows three. -/
theorem resumed_progress_exceeds_whole :
    (run (step resumedPlan) (start resumedPlan [6] true) resumedEvents).map
      (fun state => (state.phase, state.chunksDone, resumedPlan.chunks.length)) =
        some (Phase.collected, 3, 2) ∧
      ¬ ProgressSound resumedPlan [6] true resumedEvents := by
  have shown : (run (step resumedPlan) (start resumedPlan [6] true) resumedEvents).map
      (fun state => (state.phase, state.chunksDone, resumedPlan.chunks.length)) =
        some (Phase.collected, 3, 2) := by
    decide +kernel
  refine ⟨shown, ?_⟩
  intro sound
  obtain ⟨final, ran, same⟩ := Option.map_eq_some_iff.mp shown
  obtain ⟨_, three, two⟩ := Prod.mk.inj same |>.imp_right Prod.mk.inj
  have bound := (sound.bounded resumedEvents final List.prefix_rfl ran).1
  omega

end WebProxy.Download

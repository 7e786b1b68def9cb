import WebProxy.Collector

/-! Where a chunked download ends: what was hashed never changes, no read fails when the
resumed chunks lie inside the part file, and the collector ends once its tasks did. -/

namespace WebProxy.Download

open ByteFile (Bytes readExact)
open Bitmap (Plan)
open FetchChunk (Writer)
open Machine (run)

def reach (plan : Plan) (index : Nat) : Nat := min ((index + 1) * plan.chunkBytes) plan.total

/-- The task ended with its chunk on disk, joined or not. -/
def Task.landed : Task → Bool
  | .returned _ | .joined => true
  | _ => false

structure Covered (plan : Plan) (state : Attempt) : Prop where
  flagged : ∀ index : Nat, plan.flags[index]? = some true → reach plan index ≤ state.file.length
  landed : (∀ error, state.phase ≠ .failed error) → ∀ (index : Nat) (task : Task),
    state.tasks[index]? = some task → task.landed = true → reach plan index ≤ state.file.length
  writing : ∀ (index attempt : Nat) (writer : Writer),
    state.tasks[index]? = some (.writing attempt writer) →
      writer.cursor = index * plan.chunkBytes + writer.received ∧
        (writer.received = 0 ∨ writer.cursor ≤ state.file.length)
  readable : ∀ index, state.phase ≠ .failed (.read index)

theorem covered_start {plan : Plan} {file : Bytes} (connected : Bool)
    (flagged : ∀ index : Nat, plan.flags[index]? = some true → reach plan index ≤ file.length) :
    Covered plan (start plan file connected) where
  flagged := flagged
  landed := by
    intro _ index task held landed
    simp only [start, List.getElem?_replicate] at held
    split at held
    · cases held
      cases landed
    · cases held
  writing := by
    intro index attempt writer held
    simp only [start, List.getElem?_replicate] at held
    split at held <;> cases held
  readable := by simp [start]

section TaskMoves

variable {plan : Plan} {state : Attempt} {event : Event} {index : Nat} {before after : Task}
  {written : Bytes}

theorem TaskMove.writing (covered : Covered plan state)
    (move : TaskMove plan state index event before after written)
    (held : state.tasks[index]? = some before) {attempt : Nat} {writer : Writer}
    (same : after = .writing attempt writer) :
    writer.cursor = index * plan.chunkBytes + writer.received ∧
      (writer.received = 0 ∨ writer.cursor ≤ written.length) := by
  cases move with
  | resume | permit | again | giveUp | land => cases same
  | accept found =>
      cases same
      obtain ⟨_, rfl⟩ := Chunks.splitWith_get plan.positive found
      exact ⟨rfl, Or.inl rfl⟩
  | @piece _ writer data =>
      cases same
      obtain ⟨place, inside⟩ := covered.writing index _ _ held
      refine ⟨?_, ?_⟩
      · simp only [Writer.write, place]
        omega
      · by_cases empty : data = []
        · simpa [Writer.write, empty] using inside
        · exact Or.inr (ByteFile.end_le_writeAt_length _ _ _ empty)

theorem TaskMove.landed (covered : Covered plan state)
    (move : TaskMove plan state index event before after written)
    (held : state.tasks[index]? = some before) (landed : after.landed = true) :
    reach plan index ≤ state.file.length := by
  cases move with
  | resume flag => exact covered.flagged index flag
  | permit | again | giveUp | accept | piece => cases landed
  | land found whole =>
      obtain ⟨within, rfl⟩ := Chunks.splitWith_get plan.positive found
      obtain ⟨place, inside⟩ := covered.writing index _ _ held
      have positive := Chunks.chunkAt_length_pos plan.total plan.chunkBytes index plan.positive within
      have ending := Chunks.chunkAt_end plan.total plan.chunkBytes index within
      have offset : (Chunks.chunkAt plan.total plan.chunkBytes index).offset =
          index * plan.chunkBytes := rfl
      unfold reach
      omega

theorem TaskMove.before_unlanded (move : TaskMove plan state index event before after written) :
    before.landed = false := by
  cases move with
  | again was => rcases was with rfl | ⟨writer, rfl⟩ <;> rfl
  | giveUp was => rcases was with rfl | ⟨writer, rfl⟩ <;> rfl
  | resume | permit | accept | piece | land => rfl

theorem covered_taskMove (inv : Inv plan state) (covered : Covered plan state) (permits : Nat)
    (move : TaskMove plan state index event before after written)
    (held : state.tasks[index]? = some before) :
    Covered plan { state with
      tasks := state.tasks.set index after
      file := written
      permits := permits } := by
  have grown := (move.file inv held).2
  exact
    { flagged := fun other flag => Nat.le_trans (covered.flagged other flag) grown
      landed := by
        intro sound other task found landed
        apply Nat.le_trans _ grown
        rcases Slots.get_set_cases found with ⟨rfl, rfl⟩ | ⟨_, found⟩
        · exact move.landed covered held landed
        · exact covered.landed sound other task found landed
      writing := by
        intro other attempt writer found
        rcases Slots.get_set_cases found with ⟨rfl, same⟩ | ⟨_, found⟩
        · exact move.writing covered held same.symm
        · obtain ⟨place, inside⟩ := covered.writing other attempt writer found
          exact ⟨place, inside.imp id (fun below => Nat.le_trans below grown)⟩
      readable := covered.readable }

end TaskMoves

theorem covered_joined {plan : Plan} {state : Attempt} (covered : Covered plan state) {index : Nat}
    {task : Task} (joining : state.phase = .joining) (held : state.tasks[index]? = some task)
    (done bitmap : List Bool) {phase : Phase}
    (after : task.landed = true ∧ (∀ error, phase ≠ .failed error) ∨
      phase = .failed .exhaustedRetries) :
    Covered plan { state with
      tasks := state.tasks.set index .joined
      done := done
      bitmap := bitmap
      phase := phase } :=
  { flagged := covered.flagged
    landed := by
      intro sound other moved found landed
      rcases after with ⟨here, _⟩ | rfl
      · rcases Slots.get_set_cases found with ⟨rfl, _⟩ | ⟨_, found⟩
        · exact covered.landed (by simp [joining]) other task held here
        · exact covered.landed (by simp [joining]) other moved found landed
      · exact absurd rfl (sound _)
    writing := by
      intro other attempt writer found
      rcases Slots.get_set_cases found with ⟨_, same⟩ | ⟨_, found⟩
      · cases same
      · exact covered.writing other attempt writer found
    readable := by
      intro other failed
      rcases after with ⟨_, calm⟩ | rfl
      · exact calm _ failed
      · cases failed }

theorem Covered.done {plan : Plan} {state : Attempt} (covered : Covered plan state)
    (inv : Inv plan state) (sound : ∀ error, state.phase ≠ .failed error) {index : Nat}
    (marked : state.done[index]? = some true) : reach plan index ≤ state.file.length := by
  rcases inv.doneOnly index marked with flag | joined
  · exact covered.flagged index flag
  · exact covered.landed sound index _ joined rfl

theorem covered_collectorMove {plan : Plan} {state next : Attempt} (inv : Inv plan state)
    (covered : Covered plan state) (move : CollectorMove plan state next) : Covered plan next := by
  cases move with
  | cached joining held => exact covered_joined covered joining held _ _ (Or.inl ⟨rfl, by simp⟩)
  | fetched joining held => exact covered_joined covered joining held _ _ (Or.inl ⟨rfl, by simp⟩)
  | exhausted joining held => exact covered_joined covered joining held _ _ (Or.inr rfl)
  | saved saving =>
      exact ⟨covered.flagged, fun _ => covered.landed (by simp [saving]), covered.writing, by simp⟩
  | emitted emitting inside ready read delivered =>
      exact ⟨covered.flagged, covered.landed, covered.writing, covered.readable⟩
  | unread emitting inside ready short =>
      have within := covered.done inv (by simp [emitting]) ready
      have start : state.nextOffset = state.emitted.length * plan.chunkBytes := by
        rw [inv.offset]
        exact Nat.min_eq_left (Nat.le_of_lt inside)
      have ending := Chunks.chunkAt_end plan.total plan.chunkBytes _ inside
      rw [ByteFile.readExact_of_le] at short
      · cases short
      · rw [start]
        exact Nat.le_trans (Nat.le_of_eq ending) within
  | round emitting settled =>
      exact ⟨covered.flagged, fun _ => covered.landed (by simp [emitting]), covered.writing,
        by simp [Attempt.endRound]⟩
  | left joining finished =>
      exact ⟨covered.flagged, fun _ => covered.landed (by simp [joining]), covered.writing, by simp⟩

theorem covered_step {plan : Plan} (state : Attempt) (event : Event) (next : Attempt)
    (sound : Inv plan state ∧ Covered plan state) (taken : step plan state event = some next) :
    Inv plan next ∧ Covered plan next := by
  obtain ⟨inv, covered⟩ := sound
  refine ⟨inv_step state event next inv taken, ?_⟩
  rcases (step_cases taken).2 with moved | moved
  · obtain ⟨index, before, after, file, permits, held, move, rfl⟩ := taskStep_cases moved
    exact covered_taskMove inv covered permits move held
  · exact covered_collectorMove inv covered (collectorStep_cases inv moved)

theorem hashed_step {plan : Plan} (state : Attempt) (event : Event) (next : Attempt)
    (inv : Inv plan state) (taken : step plan state event = some next) :
    state.hashed <+: next.hashed := by
  rcases (step_cases taken).2 with moved | moved
  · obtain ⟨index, before, after, file, permits, held, move, rfl⟩ := taskStep_cases moved
    exact List.prefix_refl _
  · cases collectorStep_cases inv moved with
    | emitted => exact List.prefix_append _ _
    | cached | fetched | exhausted | saved | unread | round | left => exact List.prefix_refl _

theorem Inv.hashed_length {plan : Plan} {state : Attempt} (inv : Inv plan state) :
    state.hashed.length = state.nextOffset := by
  rw [inv.hashed, List.length_take]
  exact Nat.min_eq_left inv.inside

theorem hashed_kept {plan : Plan} {state final : Attempt} {events : List Event}
    (inv : Inv plan state) (ran : run (step plan) state events = some final) :
    state.hashed <+: final.hashed ∧ final.file.take state.nextOffset = state.hashed := by
  have grown : state.hashed <+: final.hashed :=
    Machine.run_relation (Inv plan) (fun first last => first.hashed <+: last.hashed)
      inv_step (fun _ => List.prefix_refl _) (fun _ _ _ front back => front.trans back)
      hashed_step inv ran
  have ended := Machine.run_invariant (Inv plan) inv_step inv ran
  refine ⟨grown, ?_⟩
  have size := inv.hashed_length
  have order := grown.length_le
  rw [size, ended.hashed_length] at order
  calc
    final.file.take state.nextOffset = (final.file.take final.nextOffset).take state.nextOffset := by
      rw [List.take_take, Nat.min_eq_left order]
    _ = final.hashed.take state.hashed.length := by rw [← ended.hashed, size]
    _ = state.hashed := (List.prefix_iff_eq_take.mp grown).symm

theorem Inv.collected {plan : Plan} {state : Attempt} (inv : Inv plan state)
    (ended : state.phase = .collected) :
    state.nextOffset = plan.total ∧ state.emitted = List.range plan.chunks.length := by
  have empty : state.tasks.countP Task.pending = 0 := by
    have total := inv.count
    rw [inv.closed ended] at total
    omega
  have joined : ∀ task ∈ state.tasks, task = .joined := by
    intro task member
    simpa [Task.pending] using List.countP_eq_zero.mp empty task member
  have offset : state.nextOffset = plan.total := by
    rcases inv.settled (Or.inr ended) with fresh | whole | ⟨index, waiting⟩
    · -- no chunk at all: the blob is empty
      have none : ¬ 0 < plan.chunks.length := by
        rw [← fresh, inv.closed ended]
        exact Nat.lt_irrefl 0
      rw [Plan.chunks, Chunks.lt_splitWith_length _ _ _ plan.positive] at none
      have bound := inv.nextOffset_le
      omega
    · exact whole
    · have bound : index < state.tasks.length := by
        rw [inv.tasksSize, ← inv.doneSize]
        exact Slots.lt_of_get waiting
      have held : state.tasks[index]? = some .joined := by
        rw [List.getElem?_eq_getElem bound, joined _ (List.getElem_mem bound)]
      have marked := inv.doneJoined (by simp [ended]) index held (by simp [ended])
      rw [waiting] at marked
      cases marked
  refine ⟨offset, ?_⟩
  rw [inv.order]
  congr 1
  apply Nat.le_antisymm
  · exact inv.emitted_le
  · by_contra fewer
    have inside := (Chunks.lt_splitWith_length plan.total plan.chunkBytes state.emitted.length
      plan.positive).mp (Nat.lt_of_not_le fewer)
    have place := inv.offset
    omega

/-- Every task ended with its chunk on disk, and the collector has not failed. -/
structure Landing (plan : Plan) (state : Attempt) : Prop where
  inv : Inv plan state
  covered : Covered plan state
  tasks : ∀ (index : Nat) (task : Task), state.tasks[index]? = some task → task.landed = true
  sound : ∀ error, state.phase ≠ .failed error

def weight : Phase → Nat
  | .joining => 3
  | .saving _ => 2
  | .emitting => 1
  | _ => 0

def work (plan : Plan) (state : Attempt) : Nat :=
  3 * state.remaining + (plan.total - state.nextOffset) + weight state.phase

theorem Landing.collector_moves {plan : Plan} {state next : Attempt} {event : Event}
    (landing : Landing plan state) (taken : step plan state event = some next) :
    CollectorMove plan state next := by
  rcases (step_cases taken).2 with moved | moved
  · obtain ⟨index, before, after, file, permits, held, move, rfl⟩ := taskStep_cases moved
    have landed := landing.tasks index before held
    rw [move.before_unlanded] at landed
    cases landed
  · exact collectorStep_cases landing.inv moved

theorem landing_step {plan : Plan} (state : Attempt) (event : Event) (next : Attempt)
    (landing : Landing plan state) (taken : step plan state event = some next) :
    Landing plan next := by
  obtain ⟨inv, covered⟩ := covered_step state event next ⟨landing.inv, landing.covered⟩ taken
  have set : ∀ (slot index : Nat) (task : Task),
      (state.tasks.set slot .joined)[index]? = some task → task.landed = true := by
    intro slot index task found
    rcases Slots.get_set_cases found with ⟨_, rfl⟩ | ⟨_, found⟩
    · rfl
    · exact landing.tasks index task found
  cases landing.collector_moves taken with
  | cached => exact ⟨inv, covered, set _, by simp⟩
  | fetched => exact ⟨inv, covered, set _, by simp⟩
  | exhausted joining held => exact absurd (landing.tasks _ _ held) (by simp [Task.landed])
  | saved => exact ⟨inv, covered, landing.tasks, by simp⟩
  | emitted => exact ⟨inv, covered, landing.tasks, landing.sound⟩
  | unread => exact absurd rfl (covered.readable _)
  | round => exact ⟨inv, covered, landing.tasks, by simp [Attempt.endRound]⟩
  | left => exact ⟨inv, covered, landing.tasks, by simp⟩

theorem landing_lower {plan : Plan} (state : Attempt) (event : Event) (next : Attempt)
    (landing : Landing plan state) (taken : step plan state event = some next) :
    work plan next < work plan state := by
  cases landing.collector_moves taken with
  | cached joining held => simp [work, weight, joining]
  | fetched joining held => simp [work, weight, joining]
  | exhausted joining held => simp [work, weight, joining]
  | saved saving => simp [work, weight, saving]
  | emitted emitting inside ready read delivered =>
      have size := (ByteFile.readExact_some read).2
      have place := landing.inv.offset
      have positive := plan.positive
      simp only [work, weight, Attempt.emitChunk, size]
      omega
  | unread emitting inside ready short => simp [work, weight, emitting]
  | round emitting settled =>
      have total := landing.inv.count
      rw [emitting] at total
      simp only [owed] at total
      simp only [work, weight, Attempt.endRound, emitting]
      omega
  | left joining finished => simp [work, weight, joining]

theorem step_collector {plan : Plan} {state next : Attempt} (event : Event)
    (live : state.phase.live = true) (idle : taskStep plan state event = none)
    (moved : collectorStep plan state event = some next) :
    ∃ event next, step plan state event = some next := by
  refine ⟨event, next, ?_⟩
  rw [step, if_pos live, idle]
  exact moved

theorem Landing.joins {plan : Plan} {state : Attempt} (landing : Landing plan state)
    (joining : state.phase = .joining) (more : 0 < state.remaining) :
    ∃ event next, step plan state event = some next := by
  have live : state.phase.live = true := by rw [joining]; rfl
  have left : 0 < state.tasks.countP Task.pending := by
    have total := landing.inv.count
    rw [joining] at total
    simp only [owed] at total
    omega
  obtain ⟨task, member, pending⟩ := List.countP_pos_iff.mp left
  obtain ⟨index, held⟩ := List.getElem?_of_mem member
  have landed := landing.tasks index task held
  have bound : index < state.bitmap.length := by
    rw [landing.inv.bitmapSize]
    exact landing.inv.task_bound held
  cases task with
  | returned fromCache =>
      cases fromCache with
      | true =>
          apply step_collector (.join index) live rfl
          simp only [collectorStep, joining, more, and_self, if_true, held]
          rfl
      | false =>
          apply step_collector (.join index) live rfl
          simp only [collectorStep, joining, more, and_self, if_true, held, mark_of_lt bound]
          rfl
  | joined => cases pending
  | waiting | attempting | writing | exhausted => cases landed

theorem Landing.progress {plan : Plan} {state : Attempt} (landing : Landing plan state) :
    state.phase = .collected ∨ ∃ event next, step plan state event = some next := by
  cases phase : state.phase with
  | joining =>
      right
      rcases Nat.eq_zero_or_pos state.remaining with finished | more
      · have moved : collectorStep plan state .leave = some { state with phase := .collected } :=
          if_pos ⟨phase, finished⟩
        exact step_collector _ (by rw [phase]; rfl) rfl moved
      · exact landing.joins phase more
  | saving index =>
      right
      have moved : collectorStep plan state (.save none) = some (state.markDone index) := by
        simp only [collectorStep, phase]
      exact step_collector _ (by rw [phase]; rfl) rfl moved
  | emitting =>
      right
      have moved : collectorStep plan state (.emit true) = some (emitRound plan state true) :=
        if_pos phase
      exact step_collector _ (by rw [phase]; rfl) rfl moved
  | collected => exact Or.inl rfl
  | failed error => exact absurd phase (landing.sound error)
  | panicked => exact absurd phase landing.inv.calm

/-- Once every task has ended well, the collector takes at most `work` more steps, and it can
only stop where it has collected everything. -/
theorem Landing.ends {plan : Plan} {state last : Attempt} {more : List Event}
    (landing : Landing plan state) (ran : run (step plan) state more = some last) :
    more.length ≤ work plan state ∧
      (last.phase = .collected ∨ ∃ event next, step plan last event = some next) := by
  have bound := Machine.run_length_le (Landing plan) (work plan) landing_step landing_lower landing ran
  exact ⟨by omega, (Machine.run_invariant (Landing plan) landing_step landing ran).progress⟩

/-- The collector under any order of completions, writes and reads. -/
theorem collector_correct (plan : Plan) (file : Bytes) (connected : Bool)
    (flagged : ∀ index : Nat, plan.flags[index]? = some true → reach plan index ≤ file.length)
    (events : List Event) (final : Attempt)
    (ran : run (step plan) (start plan file connected) events = some final) :
    final.phase ≠ .panicked ∧ (∀ index, final.phase ≠ .failed (.read index)) ∧
      final.emitted = List.range final.emitted.length ∧
      (∀ front back middle, events = front ++ back →
        run (step plan) (start plan file connected) front = some middle →
          middle.hashed <+: final.hashed ∧ final.file.take middle.nextOffset = middle.hashed) ∧
      (final.phase = .collected →
        final.emitted = List.range plan.chunks.length ∧ final.nextOffset = plan.total ∧
          final.hashed = final.file.take plan.total ∧ final.hashed.length = plan.total ∧
          final.sent <+: final.hashed ∧ (final.connected = true → final.sent = final.hashed)) ∧
      ((∀ task ∈ final.tasks, task.landed = true) → (∀ error, final.phase ≠ .failed error) →
        ∀ more last, run (step plan) final more = some last →
          more.length ≤ work plan final ∧
            (last.phase = .collected ∨ ∃ event next, step plan last event = some next)) := by
  have fresh := inv_start plan file connected
  obtain ⟨inv, covered⟩ := Machine.run_invariant (fun state => Inv plan state ∧ Covered plan state)
    covered_step ⟨fresh, covered_start connected flagged⟩ ran
  refine ⟨inv.calm, covered.readable, inv.order, ?_, ?_, ?_⟩
  · intro front back middle same reached
    subst same
    have before := Machine.run_invariant (Inv plan) inv_step fresh reached
    exact hashed_kept before (Machine.run_rest ran reached)
  · intro ended
    obtain ⟨offset, order⟩ := inv.collected ended
    refine ⟨order, offset, ?_, ?_, inv.sentFront, inv.sent⟩
    · rw [← offset]
      exact inv.hashed
    · rw [← offset]
      exact inv.hashed_length
  · intro landed sound more last rest
    have landing : Landing plan final :=
      ⟨inv, covered, fun index task held => landed task (List.mem_of_getElem? held), sound⟩
    exact landing.ends rest

def resumedPlan : Plan where
  total := 2
  chunkBytes := 1
  maxConcurrent := 4
  flags := [true, false]
  positive := by decide
  fits := by decide
  sized := by decide

/-- The second chunk's first body runs past its range; the client leaves after one chunk. -/
def resumedEvents : List Event :=
  [.poll 0, .poll 1, .accept 1, .join 0, .piece 1 [8, 9], .emit true, .finishBody 1, .accept 1,
   .emit true, .piece 1 [7], .finishBody 1, .join 1, .save (some 10), .emit false, .emit true, .leave]

theorem collector_correct_resumed :
    ∃ final, run (step resumedPlan) (start resumedPlan [6] true) resumedEvents = some final ∧
      final.phase = .collected ∧ final.hashed = final.file.take 2 ∧ final.file = [6, 7, 9] := by
  have flagged : ∀ index : Nat, resumedPlan.flags[index]? = some true →
      reach resumedPlan index ≤ ([6] : Bytes).length := by
    intro index flag
    match index with
    | 0 => decide
    | 1 => cases flag
    | index + 2 => cases flag
  obtain ⟨final, ran⟩ := Option.isSome_iff_exists.mp
    (show (run (step resumedPlan) (start resumedPlan [6] true) resumedEvents).isSome = true by decide)
  have ended : (run (step resumedPlan) (start resumedPlan [6] true) resumedEvents).map
      (fun state => (state.phase, state.file)) = some (Phase.collected, [6, 7, 9]) := by decide
  rw [ran] at ended
  simp only [Option.map_some, Option.some.injEq, Prod.mk.injEq] at ended
  have correct := collector_correct resumedPlan [6] true flagged resumedEvents final ran
  exact ⟨final, ran, ended.1, (correct.2.2.2.2.1 ended.1).2.2.1, ended.2⟩

end WebProxy.Download

import WebProxy.Download

/-! The invariant of a chunked download: whatever the order of completions and writes, the
collector emits the chunks in order and never loses what it has hashed. -/

namespace WebProxy.Download

open ByteFile (Bytes readExact)
open Bitmap (Plan)
open FetchChunk (Writer)

inductive TaskMove (plan : Plan) (state : Attempt) (index : Nat) :
    Event → Task → Task → Bytes → Prop where
  | resume (flag : plan.flags[index]? = some true) :
      TaskMove plan state index (.poll index) .waiting (.returned true) state.file
  | permit (flag : plan.flags[index]? = some false) :
      TaskMove plan state index (.poll index) .waiting (.attempting 0) state.file
  | again {event : Event} {attempt : Nat} {before : Task}
      (was : before = .attempting attempt ∨ ∃ writer, before = .writing attempt writer) :
      TaskMove plan state index event before (.attempting (attempt + 1)) state.file
  | giveUp {event : Event} {attempt : Nat} {before : Task}
      (was : before = .attempting attempt ∨ ∃ writer, before = .writing attempt writer) :
      TaskMove plan state index event before .exhausted state.file
  | accept {attempt : Nat} {chunk : Chunks.Chunk} (found : plan.chunks[index]? = some chunk) :
      TaskMove plan state index (.accept index) (.attempting attempt)
        (.writing attempt (Writer.open chunk.offset)) state.file
  | piece {attempt : Nat} {writer : Writer} (data : Bytes) :
      TaskMove plan state index (.piece index data) (.writing attempt writer)
        (.writing attempt (writer.write state.file data).1) (writer.write state.file data).2
  | land {attempt : Nat} {writer : Writer} {chunk : Chunks.Chunk}
      (found : plan.chunks[index]? = some chunk) (whole : writer.received = chunk.length) :
      TaskMove plan state index (.finishBody index) (.writing attempt writer) (.returned false)
        state.file

theorem retry_move (plan : Plan) (state : Attempt) (index : Nat) (event : Event) {attempt : Nat}
    {before : Task}
    (was : before = .attempting attempt ∨ ∃ writer, before = .writing attempt writer) :
    ∃ after permits, TaskMove plan state index event before after state.file ∧
      state.retry index attempt =
        { state with tasks := state.tasks.set index after, file := state.file, permits := permits } := by
  unfold Attempt.retry
  split
  · exact ⟨.exhausted, state.permits + 1, .giveUp was, rfl⟩
  · exact ⟨.attempting (attempt + 1), state.permits, .again was, rfl⟩

theorem taskStep_cases {plan : Plan} {state next : Attempt} {event : Event}
    (taken : taskStep plan state event = some next) :
    ∃ index before after file permits, state.tasks[index]? = some before ∧
      TaskMove plan state index event before after file ∧
      next = { state with tasks := state.tasks.set index after, file := file, permits := permits } := by
  cases event with
  | poll index =>
      simp only [taskStep] at taken
      split at taken
      · rename_i held flag
        cases taken
        exact ⟨index, _, _, _, _, held, .resume flag, rfl⟩
      · rename_i held flag
        split at taken
        · cases taken
        · cases taken
          exact ⟨index, _, _, _, _, held, .permit flag, rfl⟩
      · cases taken
  | refuse index =>
      simp only [taskStep] at taken
      split at taken
      · rename_i attempt held
        cases taken
        obtain ⟨after, permits, move, same⟩ := retry_move plan state index _
          (Or.inl (rfl : Task.attempting attempt = _))
        exact ⟨index, _, after, _, permits, held, move, same⟩
      · cases taken
  | accept index =>
      simp only [taskStep] at taken
      split at taken
      · rename_i held found
        cases taken
        exact ⟨index, _, _, _, _, held, .accept found, rfl⟩
      · cases taken
  | piece index data =>
      simp only [taskStep] at taken
      split at taken
      · rename_i held
        cases taken
        exact ⟨index, _, _, _, _, held, .piece data, rfl⟩
      · cases taken
  | breakOff index =>
      simp only [taskStep] at taken
      split at taken
      · rename_i attempt writer held
        cases taken
        obtain ⟨after, permits, move, same⟩ := retry_move plan state index _
          (Or.inr ⟨writer, (rfl : Task.writing attempt writer = _)⟩)
        exact ⟨index, _, after, _, permits, held, move, same⟩
      · cases taken
  | finishBody index =>
      simp only [taskStep] at taken
      split at taken
      · rename_i attempt writer chunk held found
        split at taken
        · rename_i closed
          cases taken
          have whole : writer.received = chunk.length := by
            by_contra short
            simp [Writer.close, short] at closed
          exact ⟨index, _, _, _, _, held, .land found whole, rfl⟩
        · cases taken
          obtain ⟨after, permits, move, same⟩ := retry_move plan state index _
            (Or.inr ⟨writer, (rfl : Task.writing attempt writer = _)⟩)
          exact ⟨index, _, after, _, permits, held, move, same⟩
      · cases taken
  | join index => cases taken
  | joinNone => cases taken
  | save written => cases taken
  | emit delivered => cases taken
  | leave => cases taken

def Task.fetching : Task → Bool
  | .attempting _ | .writing _ _ | .returned false | .exhausted => true
  | _ => false

def Task.pending (task : Task) : Bool := task ≠ .joined

def owed : Phase → Nat
  | .saving _ | .emitting | .failed _ => 1
  | _ => 0

structure Inv (plan : Plan) (state : Attempt) : Prop where
  tasksSize : state.tasks.length = plan.chunks.length
  doneSize : state.done.length = plan.chunks.length
  bitmapSize : state.bitmap.length = plan.chunks.length
  calm : state.phase ≠ .panicked
  fetching : ∀ (index : Nat) (task : Task), state.tasks[index]? = some task → task.fetching = true →
    plan.flags[index]? = some false
  cursor : ∀ (index attempt : Nat) (writer : Writer),
    state.tasks[index]? = some (.writing attempt writer) →
    index * plan.chunkBytes ≤ writer.cursor
  doneOnly : ∀ index : Nat, state.done[index]? = some true →
    plan.flags[index]? = some true ∨ state.tasks[index]? = some Task.joined
  doneJoined : (∀ error, state.phase ≠ .failed error) → ∀ index : Nat,
    state.tasks[index]? = some Task.joined → state.phase ≠ .saving index → state.done[index]? = some true
  saving : ∀ index : Nat, state.phase = .saving index → state.tasks[index]? = some Task.joined
  count : state.remaining = state.tasks.countP Task.pending + owed state.phase
  order : state.emitted = List.range state.emitted.length
  offset : state.nextOffset = min (state.emitted.length * plan.chunkBytes) plan.total
  emittedDone : ∀ index : Nat, index < state.emitted.length → state.done[index]? = some true
  hashed : state.hashed = state.file.take state.nextOffset
  inside : state.nextOffset ≤ state.file.length
  settled : state.phase = .joining ∨ state.phase = .collected →
    state.remaining = plan.chunks.length ∨ state.nextOffset = plan.total ∨
      ∃ index : Nat, state.done[index]? = some false
  closed : state.phase = .collected → state.remaining = 0
  sent : state.connected = true → state.sent = state.hashed
  sentFront : state.sent <+: state.hashed

theorem inv_start (plan : Plan) (file : Bytes) (connected : Bool) :
    Inv plan (start plan file connected) where
  tasksSize := List.length_replicate
  doneSize := plan.sized
  bitmapSize := plan.sized
  calm := by simp [start]
  fetching := by
    intro index task held fetching
    simp only [start, List.getElem?_replicate] at held
    split at held
    · cases held
      cases fetching
    · cases held
  cursor := by
    intro index attempt writer held
    simp only [start, List.getElem?_replicate] at held
    split at held <;> cases held
  doneOnly := fun index flag => Or.inl flag
  doneJoined := by
    intro _ index held
    simp only [start, List.getElem?_replicate] at held
    split at held <;> cases held
  saving := by simp [start]
  count := by simp [start, owed, Task.pending, List.countP_replicate]
  order := rfl
  offset := by simp [start]
  emittedDone := by simp [start]
  hashed := by simp [start]
  inside := by simp [start]
  settled := fun _ => Or.inl rfl
  closed := by simp [start]
  sent := fun _ => rfl
  sentFront := List.prefix_refl _

theorem Inv.fetching_unemitted {plan : Plan} {state : Attempt} (inv : Inv plan state) {index : Nat}
    {task : Task} (held : state.tasks[index]? = some task) (fetching : task.fetching = true) :
    state.emitted.length ≤ index := by
  by_contra inside
  have flag := inv.fetching index task held fetching
  rcases inv.doneOnly index (inv.emittedDone index (by omega)) with resumed | joined
  · rw [flag] at resumed
    cases resumed
  · rw [held] at joined
    cases joined
    cases fetching

theorem Inv.cursor_above {plan : Plan} {state : Attempt} (inv : Inv plan state)
    {index attempt : Nat} {writer : Writer}
    (held : state.tasks[index]? = some (.writing attempt writer)) :
    state.nextOffset ≤ writer.cursor := by
  have unemitted := inv.fetching_unemitted held rfl
  calc
    state.nextOffset ≤ state.emitted.length * plan.chunkBytes := by
      rw [inv.offset]
      exact Nat.min_le_left _ _
    _ ≤ index * plan.chunkBytes := Nat.mul_le_mul_right _ unemitted
    _ ≤ writer.cursor := inv.cursor index attempt writer held

section TaskMoves

variable {plan : Plan} {state : Attempt} {event : Event} {index : Nat} {before after : Task}
  {written : Bytes}

theorem TaskMove.before_pending (move : TaskMove plan state index event before after written) :
    before ≠ .joined := by
  cases move with
  | again was => rcases was with rfl | ⟨writer, rfl⟩ <;> simp
  | giveUp was => rcases was with rfl | ⟨writer, rfl⟩ <;> simp
  | resume | permit | accept | piece | land => simp

theorem TaskMove.after_pending (move : TaskMove plan state index event before after written) :
    after ≠ .joined := by
  cases move <;> simp

theorem TaskMove.fetching (move : TaskMove plan state index event before after written)
    (was : before.fetching = true → plan.flags[index]? = some false)
    (fetching : after.fetching = true) : plan.flags[index]? = some false := by
  cases move with
  | resume flag => cases fetching
  | permit flag => exact flag
  | again before => rcases before with rfl | ⟨writer, rfl⟩ <;> exact was rfl
  | giveUp before => rcases before with rfl | ⟨writer, rfl⟩ <;> exact was rfl
  | accept | piece | land => exact was rfl

theorem TaskMove.cursor (inv : Inv plan state)
    (move : TaskMove plan state index event before after written)
    (held : state.tasks[index]? = some before) {attempt : Nat} {writer : Writer}
    (same : after = .writing attempt writer) : index * plan.chunkBytes ≤ writer.cursor := by
  cases move with
  | resume | permit | again | giveUp | land => cases same
  | accept found =>
      cases same
      obtain ⟨_, rfl⟩ := Chunks.splitWith_get plan.positive found
      exact Nat.le_refl _
  | piece data =>
      cases same
      exact Nat.le_trans (inv.cursor index _ _ held) (Nat.le_add_right _ _)

theorem TaskMove.file (inv : Inv plan state)
    (move : TaskMove plan state index event before after written)
    (held : state.tasks[index]? = some before) :
    written.take state.nextOffset = state.file.take state.nextOffset ∧
      state.file.length ≤ written.length := by
  cases move with
  | resume | permit | again | giveUp | accept | land => exact ⟨rfl, Nat.le_refl _⟩
  | piece data =>
      exact ⟨ByteFile.take_writeAt _ _ _ _ (inv.cursor_above held) inv.inside,
        ByteFile.le_writeAt_length _ _ _⟩

theorem TaskMove.joined_kept (move : TaskMove plan state index event before after written)
    (held : state.tasks[index]? = some before) {other : Nat} (joined : state.tasks[other]? = some .joined) :
    (state.tasks.set index after)[other]? = some .joined := by
  have apart : index ≠ other := by
    intro same
    rw [← same, held] at joined
    exact move.before_pending (Option.some.inj joined)
  rw [List.getElem?_set_ne apart]
  exact joined

theorem inv_taskMove (inv : Inv plan state) (permits : Nat)
    (move : TaskMove plan state index event before after written)
    (held : state.tasks[index]? = some before) :
    Inv plan { state with tasks := state.tasks.set index after, file := written, permits := permits } :=
  { inv with
    tasksSize := by simpa using inv.tasksSize
    fetching := by
      intro other task found fetching
      rcases Slots.get_set_cases found with ⟨rfl, rfl⟩ | ⟨_, found⟩
      · exact move.fetching (inv.fetching _ _ held) fetching
      · exact inv.fetching other task found fetching
    cursor := by
      intro other attempt writer found
      rcases Slots.get_set_cases found with ⟨rfl, same⟩ | ⟨_, found⟩
      · exact move.cursor inv held same.symm
      · exact inv.cursor other attempt writer found
    doneOnly := by
      intro other marked
      rcases inv.doneOnly other marked with flag | joined
      · exact Or.inl flag
      · exact Or.inr (move.joined_kept held joined)
    doneJoined := by
      intro sound other joined
      rcases Slots.get_set_cases joined with ⟨_, same⟩ | ⟨_, joined⟩
      · exact absurd same.symm move.after_pending
      · exact inv.doneJoined sound other joined
    saving := by
      intro other phase
      exact move.joined_kept held (inv.saving other phase)
    count := by
      have counted := Slots.countP_set Task.pending after held
      have was : before.pending = true := by simpa [Task.pending] using move.before_pending
      have now : after.pending = true := by simpa [Task.pending] using move.after_pending
      rw [was, now] at counted
      have total := inv.count
      simp only at counted ⊢
      omega
    hashed := by
      rw [(move.file inv held).1]
      exact inv.hashed
    inside := Nat.le_trans inv.inside (move.file inv held).2 }

end TaskMoves

inductive CollectorMove (plan : Plan) (state : Attempt) : Attempt → Prop where
  | cached {index : Nat} (joining : state.phase = .joining)
      (held : state.tasks[index]? = some (.returned true)) :
      CollectorMove plan state
        { state with
          tasks := state.tasks.set index .joined
          done := state.done.set index true
          phase := .emitting }
  | fetched {index : Nat} (joining : state.phase = .joining)
      (held : state.tasks[index]? = some (.returned false)) :
      CollectorMove plan state
        { state with
          tasks := state.tasks.set index .joined
          bitmap := state.bitmap.set index true
          phase := .saving index }
  | exhausted {index : Nat} (joining : state.phase = .joining)
      (held : state.tasks[index]? = some .exhausted) :
      CollectorMove plan state
        { state with tasks := state.tasks.set index .joined, phase := .failed .exhaustedRetries }
  | saved {index : Nat} (saving : state.phase = .saving index) :
      CollectorMove plan state { state with done := state.done.set index true, phase := .emitting }
  | emitted {bytes : Bytes} (emitting : state.phase = .emitting)
      (inside : state.emitted.length * plan.chunkBytes < plan.total)
      (ready : state.done[state.emitted.length]? = some true)
      (read : readExact state.file state.nextOffset
        (min (plan.total - state.nextOffset) plan.chunkBytes) = some bytes)
      (delivered : Bool) :
      CollectorMove plan state (state.emitChunk state.emitted.length bytes delivered)
  | unread (emitting : state.phase = .emitting)
      (inside : state.emitted.length * plan.chunkBytes < plan.total)
      (ready : state.done[state.emitted.length]? = some true)
      (short : readExact state.file state.nextOffset
        (min (plan.total - state.nextOffset) plan.chunkBytes) = none) :
      CollectorMove plan state
        { state with phase := .failed (.read state.emitted.length) }
  | round (emitting : state.phase = .emitting)
      (settled : state.nextOffset = plan.total ∨ ∃ index : Nat, state.done[index]? = some false) :
      CollectorMove plan state state.endRound
  | left (joining : state.phase = .joining) (finished : state.remaining = 0) :
      CollectorMove plan state { state with phase := .collected }

theorem mark_of_lt {flags : List Bool} {index : Nat} (bound : index < flags.length) :
    mark flags index = some (flags.set index true) := if_pos bound

theorem Inv.task_bound {plan : Plan} {state : Attempt} (inv : Inv plan state) {index : Nat}
    {task : Task} (held : state.tasks[index]? = some task) : index < plan.chunks.length := by
  rw [← inv.tasksSize]
  exact Slots.lt_of_get held

theorem Inv.nextOffset_le {plan : Plan} {state : Attempt} (inv : Inv plan state) :
    state.nextOffset ≤ plan.total := by
  rw [inv.offset]
  exact Nat.min_le_right _ _

theorem Inv.emitted_le {plan : Plan} {state : Attempt} (inv : Inv plan state) :
    state.emitted.length ≤ plan.chunks.length := by
  by_contra more
  have extra := inv.emittedDone plan.chunks.length (by omega)
  have bound := Slots.lt_of_get extra
  rw [inv.doneSize] at bound
  exact Nat.lt_irrefl _ bound

theorem emitRound_cases {plan : Plan} {state : Attempt} (inv : Inv plan state)
    (emitting : state.phase = .emitting) (delivered : Bool) :
    CollectorMove plan state (emitRound plan state delivered) := by
  unfold emitRound
  split
  · rename_i more
    rw [inv.offset] at more
    obtain ⟨quotient, inside⟩ := Chunks.boundary_div _ _ _ plan.positive more
    have start : state.nextOffset = state.emitted.length * plan.chunkBytes := by
      rw [inv.offset]
      exact Nat.min_eq_left (Nat.le_of_lt inside)
    have bound : state.emitted.length < plan.chunks.length :=
      (Chunks.lt_splitWith_length _ _ _ plan.positive).mpr inside
    have chunk : plan.chunks[state.emitted.length]? =
        some ⟨state.emitted.length, state.nextOffset,
          min (plan.total - state.nextOffset) plan.chunkBytes⟩ := by
      rw [Plan.chunks, Chunks.splitWith_getElem?_of_pos _ _ _ plan.positive, if_pos inside,
        Chunks.chunkAt, start]
    rw [← inv.offset] at quotient
    simp only [quotient, if_neg (Nat.not_le.mpr bound), chunk]
    rw [← inv.doneSize] at bound
    cases flag : state.done[state.emitted.length] with
    | false =>
        have waiting : state.done[state.emitted.length]? = some false := by
          rw [List.getElem?_eq_getElem bound, flag]
        simp only [waiting]
        exact .round emitting (Or.inr ⟨_, waiting⟩)
    | true =>
        have ready : state.done[state.emitted.length]? = some true := by
          rw [List.getElem?_eq_getElem bound, flag]
        simp only [ready]
        split
        · rename_i read
          exact .emitted emitting inside ready read delivered
        · rename_i short
          exact .unread emitting inside ready short
  · rename_i beyond
    exact .round emitting (Or.inl (Nat.le_antisymm inv.nextOffset_le (Nat.not_lt.mp beyond)))

theorem collectorStep_cases {plan : Plan} {state next : Attempt} {event : Event}
    (inv : Inv plan state) (taken : collectorStep plan state event = some next) :
    CollectorMove plan state next := by
  cases event with
  | join index =>
      simp only [collectorStep] at taken
      split at taken
      · rename_i joining
        split at taken
        · rename_i held
          rw [Attempt.markDone, mark_of_lt (inv.doneSize ▸ inv.task_bound held)] at taken
          cases taken
          exact .cached joining.1 held
        · rename_i held
          rw [mark_of_lt (inv.bitmapSize ▸ inv.task_bound held)] at taken
          cases taken
          exact .fetched joining.1 held
        · rename_i held
          cases taken
          exact .exhausted joining.1 held
        · cases taken
      · cases taken
  | joinNone =>
      simp only [collectorStep] at taken
      split at taken
      · rename_i empty
        obtain ⟨joining, more, all⟩ := empty
        have none : state.tasks.countP Task.pending = 0 := by
          rw [List.countP_eq_zero]
          intro task member
          simp [Task.pending, all task member]
        have total := inv.count
        rw [joining, none] at total
        simp only [owed] at total
        omega
      · cases taken
  | save written =>
      simp only [collectorStep] at taken
      split at taken
      · rename_i index saving
        rw [Attempt.markDone,
          mark_of_lt (inv.doneSize ▸ inv.task_bound (inv.saving index saving))] at taken
        cases taken
        exact .saved saving
      · cases taken
  | emit delivered =>
      simp only [collectorStep] at taken
      split at taken
      · rename_i emitting
        cases taken
        exact emitRound_cases inv emitting delivered
      · cases taken
  | leave =>
      simp only [collectorStep] at taken
      split at taken
      · rename_i finished
        cases taken
        exact .left finished.1 finished.2
      · cases taken
  | poll | refuse | accept | piece | breakOff | finishBody => cases taken

theorem marked_set {flags : List Bool} {other : Nat} (index : Nat)
    (marked : flags[other]? = some true) : (flags.set index true)[other]? = some true := by
  rw [List.getElem?_set]
  split
  · rw [if_pos (by subst index; exact Slots.lt_of_get marked)]
  · exact marked

theorem inv_joined {plan : Plan} {state : Attempt} (inv : Inv plan state) {index : Nat} {task : Task}
    (joining : state.phase = .joining) (held : state.tasks[index]? = some task)
    (pending : task.pending = true) {bitmap : List Bool}
    (size : bitmap.length = plan.chunks.length) {phase : Phase}
    (after : phase = .saving index ∨ ∃ error, phase = .failed error) :
    Inv plan { state with
      tasks := state.tasks.set index .joined
      bitmap := bitmap
      phase := phase } :=
  { inv with
    tasksSize := by simpa using inv.tasksSize
    bitmapSize := size
    calm := by rcases after with rfl | ⟨error, rfl⟩ <;> simp
    fetching := by
      intro other moved found fetching
      rcases Slots.get_set_cases found with ⟨_, rfl⟩ | ⟨_, found⟩
      · cases fetching
      · exact inv.fetching other moved found fetching
    cursor := by
      intro other attempt writer found
      rcases Slots.get_set_cases found with ⟨_, same⟩ | ⟨_, found⟩
      · cases same
      · exact inv.cursor other attempt writer found
    doneOnly := by
      intro other marked
      rcases inv.doneOnly other marked with flag | joined
      · exact Or.inl flag
      · right
        by_cases same : index = other
        · subst same
          exact Slots.get_set_self _ held
        · rw [List.getElem?_set_ne same]
          exact joined
    doneJoined := by
      intro sound other joined unsaved
      rcases after with rfl | ⟨error, rfl⟩
      · rcases Slots.get_set_cases joined with ⟨rfl, _⟩ | ⟨_, joined⟩
        · exact absurd rfl unsaved
        · exact inv.doneJoined (by simp [joining]) other joined (by simp [joining])
      · exact absurd rfl (sound error)
    saving := by
      intro other phase
      rcases after with rfl | ⟨error, rfl⟩
      · cases phase
        exact Slots.get_set_self _ held
      · cases phase
    count := by
      have counted := Slots.countP_set Task.pending .joined held
      have one : owed phase = 1 := by rcases after with rfl | ⟨error, rfl⟩ <;> rfl
      have total := inv.count
      rw [pending] at counted
      simp only [if_true, Task.pending, ne_eq, not_true_eq_false, decide_false,
        Bool.false_eq_true, if_false, joining, owed] at counted total
      simp only [one]
      omega
    settled := by rcases after with rfl | ⟨error, rfl⟩ <;> simp
    closed := by rcases after with rfl | ⟨error, rfl⟩ <;> simp }

theorem inv_saved {plan : Plan} {state : Attempt} (inv : Inv plan state) {index : Nat}
    (saving : state.phase = .saving index) :
    Inv plan { state with done := state.done.set index true, phase := .emitting } :=
  { inv with
    doneSize := by simpa using inv.doneSize
    calm := by simp
    doneOnly := by
      intro other marked
      rcases Slots.get_set_cases marked with ⟨rfl, _⟩ | ⟨_, marked⟩
      · exact Or.inr (inv.saving _ saving)
      · exact inv.doneOnly other marked
    doneJoined := by
      intro _ other joined _
      by_cases same : index = other
      · subst same
        exact List.getElem?_set_self (by rw [inv.doneSize]; exact inv.task_bound joined)
      · rw [List.getElem?_set_ne same]
        exact inv.doneJoined (by simp [saving]) other joined (by simp [saving, same])
    saving := by simp
    count := by
      have total := inv.count
      rw [saving] at total
      exact total
    emittedDone := fun other below => marked_set index (inv.emittedDone other below)
    settled := by simp
    closed := by simp }

theorem inv_emitChunk {plan : Plan} {state : Attempt} (inv : Inv plan state) {bytes : Bytes}
    (inside : state.emitted.length * plan.chunkBytes < plan.total)
    (ready : state.done[state.emitted.length]? = some true)
    (read : readExact state.file state.nextOffset
      (min (plan.total - state.nextOffset) plan.chunkBytes) = some bytes)
    (emitting : state.phase = .emitting) (delivered : Bool) :
    Inv plan (state.emitChunk state.emitted.length bytes delivered) := by
  obtain ⟨extended, reach⟩ := ByteFile.take_append_read read inv.inside
  have size := (ByteFile.readExact_some read).2
  have start : state.nextOffset = state.emitted.length * plan.chunkBytes := by
    rw [inv.offset]
    exact Nat.min_eq_left (Nat.le_of_lt inside)
  exact
    { inv with
      order := by
        simp only [Attempt.emitChunk, List.length_append, List.length_singleton, List.range_succ]
        rw [← inv.order]
      offset := by
        have product : (state.emitted.length + 1) * plan.chunkBytes =
          state.emitted.length * plan.chunkBytes + plan.chunkBytes := by ring
        simp only [Attempt.emitChunk, List.length_append, List.length_singleton, size, product]
        omega
      emittedDone := by
        intro index below
        simp only [Attempt.emitChunk, List.length_append, List.length_singleton] at below ⊢
        rcases Nat.lt_succ_iff_lt_or_eq.mp below with before | rfl
        · exact inv.emittedDone index before
        · exact ready
      hashed := by
        simp only [Attempt.emitChunk]
        rw [inv.hashed, extended, size]
      inside := by
        simp only [Attempt.emitChunk, size]
        exact reach
      settled := by simp [Attempt.emitChunk, emitting]
      sent := by
        intro still
        simp only [Attempt.emitChunk] at still ⊢
        rw [if_pos still, inv.sent (Bool.and_eq_true_iff.mp still).1]
      sentFront := by
        simp only [Attempt.emitChunk]
        split
        · rename_i still
          have same := inv.sent (Bool.and_eq_true_iff.mp still).1
          exact ⟨[], by rw [List.append_nil, same]⟩
        · exact inv.sentFront.trans (List.prefix_append _ _) }

theorem inv_endRound {plan : Plan} {state : Attempt} (inv : Inv plan state)
    (emitting : state.phase = .emitting)
    (settled : state.nextOffset = plan.total ∨ ∃ index : Nat, state.done[index]? = some false) :
    Inv plan state.endRound :=
  { inv with
    calm := by simp [Attempt.endRound]
    doneJoined := by
      intro _ index joined _
      exact inv.doneJoined (by simp [emitting]) index joined (by simp [emitting])
    saving := by simp [Attempt.endRound]
    count := by
      have total := inv.count
      rw [emitting] at total
      simp only [Attempt.endRound, owed] at total ⊢
      omega
    settled := fun _ => Or.inr settled
    closed := by simp [Attempt.endRound] }

theorem inv_collectorMove {plan : Plan} {state next : Attempt} (inv : Inv plan state)
    (move : CollectorMove plan state next) : Inv plan next := by
  cases move with
  | cached joining held =>
      have joined := inv_joined inv joining held rfl inv.bitmapSize (Or.inl rfl)
      exact inv_saved joined rfl
  | fetched joining held =>
      exact inv_joined inv joining held rfl (by simpa using inv.bitmapSize) (Or.inl rfl)
  | exhausted joining held =>
      exact inv_joined inv joining held rfl inv.bitmapSize (Or.inr ⟨_, rfl⟩)
  | saved saving => exact inv_saved inv saving
  | emitted emitting inside ready read delivered =>
      exact inv_emitChunk inv inside ready read emitting delivered
  | unread emitting inside ready short =>
      exact
        { inv with
          calm := by simp
          doneJoined := fun sound => absurd rfl (sound _)
          saving := by simp
          count := by
            have total := inv.count
            rw [emitting] at total
            exact total
          settled := by simp
          closed := by simp }
  | round emitting settled => exact inv_endRound inv emitting settled
  | left joining finished =>
      exact
        { inv with
          calm := by simp
          doneJoined := by
            intro _ index joined _
            exact inv.doneJoined (by simp [joining]) index joined (by simp [joining])
          saving := by simp
          count := by
            have total := inv.count
            rw [joining] at total
            exact total
          settled := fun _ => inv.settled (Or.inl joining)
          closed := fun _ => finished }

theorem step_cases {plan : Plan} {state next : Attempt} {event : Event}
    (taken : step plan state event = some next) :
    state.phase.live = true ∧
      (taskStep plan state event = some next ∨ collectorStep plan state event = some next) := by
  unfold step at taken
  split at taken
  · rename_i live
    split at taken
    · rename_i moved
      cases taken
      exact ⟨live, Or.inl moved⟩
    · exact ⟨live, Or.inr taken⟩
  · cases taken

theorem inv_step {plan : Plan} (state : Attempt) (event : Event) (next : Attempt)
    (inv : Inv plan state) (taken : step plan state event = some next) : Inv plan next := by
  rcases (step_cases taken).2 with moved | moved
  · obtain ⟨index, before, after, file, permits, held, move, rfl⟩ := taskStep_cases moved
    exact inv_taskMove inv permits move held
  · exact inv_collectorMove inv (collectorStep_cases inv moved)

end WebProxy.Download

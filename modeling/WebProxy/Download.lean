import WebProxy.Bitmap
import WebProxy.FetchChunk
import WebProxy.Library.Machine
import WebProxy.Library.Slots

/-! One attempt of `chunks::download`, from the spawned chunk tasks to the end of the
collector loop, as a machine whose events are the atomic steps of the tasks and of the
collector. The part file is behind a mutex, so a seek with its write or read is one step. -/

namespace WebProxy.Download

open ByteFile (Bytes readExact)
open Bitmap (Plan)
open FetchChunk (BodyItem Writer writeBody)

def maxChunkRetries : Nat := 3

inductive Task where
  | waiting
  | attempting (attempt : Nat)
  | writing (attempt : Nat) (writer : Writer)
  | returned (fromCache : Bool)
  | exhausted
  | joined
  deriving DecidableEq, Repr

inductive CollectError where
  | exhaustedRetries
  | read (index : Nat)
  deriving DecidableEq, Repr

/-- Where the collector stands. `panicked` is an index out of bounds or the failed `expect`
on an empty join set. -/
inductive Phase where
  | joining
  | saving (index : Nat)
  | emitting
  | collected
  | failed (error : CollectError)
  | panicked
  deriving DecidableEq, Repr

/-- While the collector runs the tasks do; when it returns, the join set aborts them. -/
def Phase.live : Phase → Bool
  | .joining | .saving _ | .emitting => true
  | _ => false

structure Attempt where
  file : Bytes
  permits : Nat
  tasks : List Task
  done : List Bool
  bitmap : List Bool
  nextOffset : Nat
  remaining : Nat
  hashed : Bytes
  emitted : List Nat
  chunksDone : Nat
  bytesDone : Nat
  connected : Bool
  sent : Bytes
  phase : Phase
  deriving DecidableEq, Repr

/-- The state after the tasks are spawned. `connected` says whether there is a client. -/
def start (plan : Plan) (file : Bytes) (connected : Bool) : Attempt where
  file := file
  permits := plan.maxConcurrent
  tasks := List.replicate plan.chunks.length .waiting
  done := plan.flags
  bitmap := plan.flags
  nextOffset := 0
  remaining := plan.chunks.length
  hashed := []
  emitted := []
  chunksDone := plan.flags.count true
  bytesDone := 0
  connected := connected
  sent := []
  phase := .joining

/-- The atomic steps. `written` is how much of the sidecar reaches the disk, or none when it
cannot be opened; `delivered` says whether the client still takes the bytes. -/
inductive Event where
  | poll (index : Nat)
  | refuse (index : Nat)
  | accept (index : Nat)
  | piece (index : Nat) (data : Bytes)
  | breakOff (index : Nat)
  | finishBody (index : Nat)
  | join (index : Nat)
  | joinNone
  | save (written : Option Nat)
  | emit (delivered : Bool)
  | leave
  deriving DecidableEq, Repr

def Attempt.setTask (state : Attempt) (index : Nat) (task : Task) : Attempt :=
  { state with tasks := state.tasks.set index task }

def Attempt.retry (state : Attempt) (index attempt : Nat) : Attempt :=
  if maxChunkRetries < attempt + 1 then
    { state.setTask index .exhausted with permits := state.permits + 1 }
  else state.setTask index (.attempting (attempt + 1))

def taskStep (plan : Plan) (state : Attempt) : Event → Option Attempt
  | .poll index =>
      match state.tasks[index]?, plan.flags[index]? with
      | some .waiting, some true => some (state.setTask index (.returned true))
      | some .waiting, some false =>
          if state.permits = 0 then none
          else some { state.setTask index (.attempting 0) with permits := state.permits - 1 }
      | _, _ => none
  | .refuse index =>
      match state.tasks[index]? with
      | some (.attempting attempt) => some (state.retry index attempt)
      | _ => none
  | .accept index =>
      match state.tasks[index]?, plan.chunks[index]? with
      | some (.attempting attempt), some chunk =>
          some (state.setTask index (.writing attempt (Writer.open chunk.offset)))
      | _, _ => none
  | .piece index data =>
      match state.tasks[index]? with
      | some (.writing attempt writer) =>
          some { state.setTask index (.writing attempt (writer.write state.file data).1) with
            file := (writer.write state.file data).2 }
      | _ => none
  | .breakOff index =>
      match state.tasks[index]? with
      | some (.writing attempt _) => some (state.retry index attempt)
      | _ => none
  | .finishBody index =>
      match state.tasks[index]?, plan.chunks[index]? with
      | some (.writing attempt writer), some chunk =>
          match writer.close chunk.offset chunk.length with
          | .ok _ => some { state.setTask index (.returned false) with permits := state.permits + 1 }
          | .error _ => some (state.retry index attempt)
      | _, _ => none
  | _ => none

/-- `flags[index] = true`, or nothing when the index is out of bounds. -/
def mark (flags : List Bool) (index : Nat) : Option (List Bool) :=
  if index < flags.length then some (flags.set index true) else none

def Attempt.panic (state : Attempt) : Attempt := { state with phase := .panicked }

def Attempt.markDone (state : Attempt) (index : Nat) : Attempt :=
  match mark state.done index with
  | none => state.panic
  | some done => { state with done := done, phase := .emitting }

def Attempt.endRound (state : Attempt) : Attempt :=
  { state with remaining := state.remaining - 1, phase := .joining }

def Attempt.emitChunk (state : Attempt) (index : Nat) (bytes : Bytes) (delivered : Bool) : Attempt :=
  { state with
    hashed := state.hashed ++ bytes
    nextOffset := state.nextOffset + bytes.length
    emitted := state.emitted ++ [index]
    chunksDone := state.chunksDone + 1
    bytesDone := state.bytesDone + bytes.length
    connected := state.connected && delivered
    sent := if state.connected && delivered then state.sent ++ bytes else state.sent }

def emitRound (plan : Plan) (state : Attempt) (delivered : Bool) : Attempt :=
  if state.nextOffset < plan.total then
    let nextIndex := state.nextOffset / plan.chunkBytes
    if plan.chunks.length ≤ nextIndex then state.endRound
    else
      match state.done[nextIndex]?, plan.chunks[nextIndex]? with
      | some false, _ => state.endRound
      | some true, some chunk =>
          match readExact state.file chunk.offset chunk.length with
          | some bytes => state.emitChunk nextIndex bytes delivered
          | none => { state with phase := .failed (.read nextIndex) }
      | _, _ => state.panic
  else state.endRound

def collectorStep (plan : Plan) (state : Attempt) : Event → Option Attempt
  | .join index =>
      if state.phase = .joining ∧ 0 < state.remaining then
        match state.tasks[index]? with
        | some (.returned true) => some ((state.setTask index .joined).markDone index)
        | some (.returned false) =>
            match mark state.bitmap index with
            | none => some state.panic
            | some bitmap =>
                some { state.setTask index .joined with bitmap := bitmap, phase := .saving index }
        | some .exhausted =>
            some { state.setTask index .joined with phase := .failed .exhaustedRetries }
        | _ => none
      else none
  | .joinNone =>
      if state.phase = .joining ∧ 0 < state.remaining ∧ (∀ task ∈ state.tasks, task = .joined) then
        some state.panic
      else none
  | .save _ =>
      match state.phase with
      | .saving index => some (state.markDone index)
      | _ => none
  | .emit delivered => if state.phase = .emitting then some (emitRound plan state delivered) else none
  | .leave =>
      if state.phase = .joining ∧ state.remaining = 0 then some { state with phase := .collected }
      else none
  | _ => none

def step (plan : Plan) (state : Attempt) (event : Event) : Option Attempt :=
  if state.phase.live then
    match taskStep plan state event with
    | some next => some next
    | none => collectorStep plan state event
  else none

def bodyEvents (index : Nat) : List BodyItem → List Event
  | [] => [.finishBody index]
  | .error :: _ => [.breakOff index]
  | .data piece :: rest => .piece index piece :: bodyEvents index rest

theorem step_task {plan : Plan} {state next : Attempt} {event : Event}
    (live : state.phase.live = true) (moved : taskStep plan state event = some next) :
    step plan state event = some next := by
  rw [step, if_pos live, moved]

theorem retry_file (state : Attempt) (index attempt : Nat) :
    (state.retry index attempt).file = state.file := by
  unfold Attempt.retry
  split <;> rfl

theorem retry_task {state : Attempt} {index attempt : Nat} (bound : index < state.tasks.length) :
    (state.retry index attempt).tasks[index]? ≠ some (.returned false) := by
  unfold Attempt.retry
  split
  · simp [Attempt.setTask, List.getElem?_set_self bound]
  · simp [Attempt.setTask, List.getElem?_set_self bound]

/-- A task that gets a body does to the file what the write loop does, and returns the chunk
exactly when the write loop succeeds. -/
theorem run_bodyEvents {plan : Plan} {index : Nat} {chunk : Chunks.Chunk}
    (found : plan.chunks[index]? = some chunk) (body : List BodyItem) (state : Attempt)
    {attempt : Nat} {writer : Writer} (live : state.phase.live = true)
    (held : state.tasks[index]? = some (.writing attempt writer)) :
    ∃ final, Machine.run (step plan) state (bodyEvents index body) = some final ∧
      final.file = (writeBody chunk.offset chunk.length body writer state.file).1 ∧
      (final.tasks[index]? = some (.returned false) ↔
        ∃ count, (writeBody chunk.offset chunk.length body writer state.file).2 = .ok count) := by
  have bound := Slots.lt_of_get held
  induction body generalizing state writer with
  | nil =>
      cases closed : writer.close chunk.offset chunk.length with
      | ok count =>
          have moved : taskStep plan state (.finishBody index) =
              some { state.setTask index (.returned false) with permits := state.permits + 1 } := by
            simp only [taskStep, held, found, closed]
          refine ⟨{ state.setTask index (.returned false) with permits := state.permits + 1 },
            ?_, rfl, ?_⟩
          · rw [bodyEvents, Machine.run_cons, step_task live moved]
            rfl
          · simp [Attempt.setTask, List.getElem?_set_self bound, writeBody, closed]
      | error error =>
          have moved : taskStep plan state (.finishBody index) = some (state.retry index attempt) := by
            simp only [taskStep, held, found, closed]
          refine ⟨_, ?_, retry_file state index attempt, ?_⟩
          · rw [bodyEvents, Machine.run_cons, step_task live moved]
            rfl
          · simp [retry_task bound, writeBody, closed]
  | cons item rest ih =>
      cases item with
      | error =>
          have moved : taskStep plan state (.breakOff index) = some (state.retry index attempt) := by
            simp only [taskStep, held]
          refine ⟨_, ?_, retry_file state index attempt, ?_⟩
          · rw [bodyEvents, Machine.run_cons, step_task live moved]
            rfl
          · simp [retry_task bound, writeBody]
      | data piece =>
          have moved : taskStep plan state (.piece index piece) =
              some { state.setTask index (.writing attempt (writer.write state.file piece).1) with
                file := (writer.write state.file piece).2 } := by
            simp only [taskStep, held]
          have taken := step_task live moved
          obtain ⟨final, ran, file, ended⟩ := ih
            { state.setTask index (.writing attempt (writer.write state.file piece).1) with
              file := (writer.write state.file piece).2 } live
            (Slots.get_set_self _ held) (by simpa [Attempt.setTask] using bound)
          refine ⟨final, ?_, file, ended⟩
          rw [bodyEvents, Machine.run_cons, taken]
          exact ran

end WebProxy.Download

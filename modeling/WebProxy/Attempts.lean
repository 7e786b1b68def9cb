import WebProxy.Collected
import WebProxy.Digest

/-! Everything that happens on disk to one digest: chunked attempts, single-source attempts,
process kills and removals by eviction, in any order. The single flight of a digest lets one
attempt run at a time. -/

namespace WebProxy.Attempts

open ByteFile (Bytes writeAt)
open Bitmap (Plan saveBitmap)
open Download (Attempt)

structure Blob where
  content : Bytes
  announced : Nat
  deriving DecidableEq, Repr

inductive Job where
  | idle
  | stated (digest : String) (total totalBps partLen : Nat)
  | planned (digest : String) (plan : Plan)
  | chunked (digest : String) (plan : Plan) (attempt : Attempt)
  | verified (total : Nat)
  | renamed
  | rejected
  | unpaired
  | teeing (file hashed : Bytes) (total : Nat)
  | teeVerified (total : Nat)
  | teeFailed

/-- The disk and the running attempt. A job that has the part file open keeps it when the path
is removed, so `part` follows the open file only while the path is there.

`landed` and `current` are not on disk: the ranges `fetch_chunk` has stored in the part file
since it was created or truncated, and the total size the sidecar was last written for since. -/
structure Store where
  part : Option Bytes
  sidecar : Option Bytes
  blob : Option Blob
  job : Job
  landed : List (Nat × Nat)
  current : Option Nat

inductive Event where
  | stat (digest : String) (total totalBps : Nat)
  | load
  | openPart (connected : Bool)
  | attempt (event : Download.Event)
  | giveUp
  | verify
  | rename
  | removePart
  | removeSidecar
  | teeCreate
  | teePiece (data : Bytes)
  | teeBreak
  | teeEnd
  | evictPart
  | evictSidecar
  | evictBlob
  | kill
  deriving DecidableEq, Repr

def rangeAt (total width index : Nat) : Nat × Nat :=
  let chunk := Chunks.chunkAt total width index
  (chunk.offset, chunk.length)

def range (plan : Plan) (index : Nat) : Nat × Nat := rangeAt plan.total plan.chunkBytes index

def Store.follow (state : Store) (digest : String) (plan : Plan) (event : Download.Event)
    (next : Attempt) : Store where
  part := state.part.map (fun _ => next.file)
  sidecar :=
    match event with
    | .save (some written) => some ((saveBitmap plan.chunkBytes next.bitmap).take written)
    | _ => state.sidecar
  blob := state.blob
  job := .chunked digest plan next
  landed :=
    match event with
    | .finishBody index =>
        if next.tasks[index]? = some (.returned false) then range plan index :: state.landed
        else state.landed
    | _ => state.landed
  current :=
    match event with
    | .save (some _) => some plan.total
    | _ => state.current

/-- `OpenOptions::create(true)` without truncation: a missing part file is created empty. -/
def Store.openPart (state : Store) (digest : String) (plan : Plan) (connected : Bool) : Store :=
  match state.part with
  | some file => { state with job := .chunked digest plan (Download.start plan file connected) }
  | none =>
      { state with
        part := some []
        job := .chunked digest plan (Download.start plan [] connected)
        landed := []
        current := none }

/-- `rename(part_path, final_path)`, which fails when the part file is gone. -/
def Store.rename (state : Store) (total : Nat) (next : Job) : Store :=
  match state.part with
  | some content => { state with part := none, blob := some ⟨content, total⟩, job := next }
  | none => { state with job := .idle }

/-- The steps of the running attempt. Both entry points look the blob up under the guard and
start only when it is missing. -/
def jobStep (sha256 : Bytes → Bytes) (hex : String) (state : Store) (event : Event) : Option Store :=
  match state.job, event with
  | .idle, .stat digest total totalBps =>
      if Digest.sha256Hex digest = some hex ∧ state.blob.isNone then
        some { state with
          job := .stated digest total totalBps ((state.part.map List.length).getD 0) }
      else none
  | .stated digest total totalBps partLen, .load =>
      some { state with
        job := .planned digest (Plan.resume state.sidecar partLen total totalBps) }
  | .planned digest plan, .openPart connected => some (state.openPart digest plan connected)
  | .chunked digest plan attempt, .attempt event =>
      (Download.step plan attempt event).map (state.follow digest plan event)
  | .chunked _ _ attempt, .giveUp =>
      if attempt.phase.live = false ∧ attempt.phase ≠ .collected then some { state with job := .idle }
      else none
  | .chunked digest plan attempt, .verify =>
      if attempt.phase = .collected then
        match Digest.downloadVerdict sha256 digest attempt.hashed with
        | .commit => some { state with job := .verified plan.total }
        | .mismatch => some { state with job := .rejected }
      else none
  | .verified total, .rename => some (state.rename total .renamed)
  | .renamed, .removeSidecar => some { state with sidecar := none, job := .idle }
  | .rejected, .removePart => some { state with part := none, job := .unpaired }
  | .unpaired, .removeSidecar => some { state with sidecar := none, job := .idle }
  | .idle, .teeCreate =>
      if state.blob.isNone then
        some { state with part := some [], job := .teeing [] [] 0, landed := [], current := none }
      else none
  | .teeing file hashed total, .teePiece data =>
      some { state with
        part := state.part.map (fun _ => writeAt file total data)
        job := .teeing (writeAt file total data) (hashed ++ data) (total + data.length) }
  | .teeing _ _ _, .teeBreak => some { state with job := .teeFailed }
  | .teeing _ hashed total, .teeEnd =>
      match Digest.teeVerdict sha256 hex hashed with
      | .commit => some { state with job := .teeVerified total }
      | .mismatch => some { state with job := .teeFailed }
  | .teeFailed, .removePart => some { state with part := none, job := .idle }
  | .teeVerified total, .rename => some (state.rename total .idle)
  | _, _ => none

def step (sha256 : Bytes → Bytes) (hex : String) (state : Store) (event : Event) : Option Store :=
  match event with
  | .evictPart => some { state with part := none }
  | .evictSidecar => some { state with sidecar := none }
  | .evictBlob => some { state with blob := none }
  | .kill => some { state with job := .idle }
  | event => jobStep sha256 hex state event

/-- What a process finds when it starts: any part file and any sidecar. -/
def Store.found (part sidecar : Option Bytes) : Store := ⟨part, sidecar, none, .idle, [], none⟩

def Job.quiet : Job → Bool
  | .idle | .renamed | .rejected | .unpaired | .teeFailed => true
  | _ => false

/-- What one step does. `rest` covers every step that only removes files or ends a stage. -/
inductive Move (sha256 : Bytes → Bytes) (hex : String) (state : Store) : Event → Store → Prop where
  | rest {event : Event} {part sidecar : Option Bytes} {blob : Option Blob} {job : Job}
      (calm : job.quiet = true ∨ job = state.job)
      (partKept : part = state.part ∨ part = none)
      (sidecarKept : sidecar = state.sidecar ∨ sidecar = none)
      (blobKept : blob = state.blob ∨ blob = none) :
      Move sha256 hex state event
        { state with part := part, sidecar := sidecar, blob := blob, job := job }
  | stat {digest : String} {total totalBps : Nat} (accepted : Digest.sha256Hex digest = some hex) :
      Move sha256 hex state (.stat digest total totalBps)
        { state with
          job := .stated digest total totalBps ((state.part.map List.length).getD 0) }
  | load {digest : String} {total totalBps partLen : Nat}
      (job : state.job = .stated digest total totalBps partLen) :
      Move sha256 hex state .load
        { state with job := .planned digest (Plan.resume state.sidecar partLen total totalBps) }
  | openPart {digest : String} {plan : Plan} (connected : Bool)
      (job : state.job = .planned digest plan) :
      Move sha256 hex state (.openPart connected) (state.openPart digest plan connected)
  | attempt {digest : String} {plan : Plan} {attempt next : Attempt} {event : Download.Event}
      (job : state.job = .chunked digest plan attempt)
      (taken : Download.step plan attempt event = some next) :
      Move sha256 hex state (.attempt event) (state.follow digest plan event next)
  | verify {digest : String} {plan : Plan} {attempt : Attempt}
      (job : state.job = .chunked digest plan attempt) (ended : attempt.phase = .collected)
      (passed : Digest.downloadVerdict sha256 digest attempt.hashed = .commit) :
      Move sha256 hex state .verify { state with job := .verified plan.total }
  | rename {content : Bytes} {total : Nat} {next : Job} (quiet : next.quiet = true)
      (job : state.job = .verified total ∨ state.job = .teeVerified total)
      (held : state.part = some content) :
      Move sha256 hex state .rename
        { state with part := none, blob := some ⟨content, total⟩, job := next }
  | teeCreate :
      Move sha256 hex state .teeCreate
        { state with part := some [], job := .teeing [] [] 0, landed := [], current := none }
  | teePiece {file hashed : Bytes} {total : Nat} (data : Bytes)
      (job : state.job = .teeing file hashed total) :
      Move sha256 hex state (.teePiece data)
        { state with
          part := state.part.map (fun _ => writeAt file total data)
          job := .teeing (writeAt file total data) (hashed ++ data) (total + data.length) }
  | teeEnd {file hashed : Bytes} {total : Nat} (job : state.job = .teeing file hashed total)
      (passed : Digest.teeVerdict sha256 hex hashed = .commit) :
      Move sha256 hex state .teeEnd { state with job := .teeVerified total }

theorem rename_cases {sha256 : Bytes → Bytes} {hex : String} {state : Store} {total : Nat} {next : Job}
    (quiet : next.quiet = true)
    (job : state.job = .verified total ∨ state.job = .teeVerified total) :
    Move sha256 hex state .rename (state.rename total next) := by
  unfold Store.rename
  split
  · rename_i content held
    exact .rename quiet job held
  · exact .rest (Or.inl rfl) (Or.inl rfl) (Or.inl rfl) (Or.inl rfl)

theorem jobStep_cases {sha256 : Bytes → Bytes} {hex : String} {state next : Store} {event : Event}
    (taken : jobStep sha256 hex state event = some next) : Move sha256 hex state event next := by
  unfold jobStep at taken
  split at taken
  · split at taken
    · rename_i accepted
      cases taken
      exact .stat accepted.1
    · cases taken
  · rename_i job
    cases taken
    exact .load job
  · rename_i job
    cases taken
    exact .openPart _ job
  · rename_i job
    obtain ⟨following, moved, rfl⟩ := Option.map_eq_some_iff.mp taken
    exact .attempt job moved
  · split at taken
    · cases taken
      exact .rest (Or.inl rfl) (Or.inl rfl) (Or.inl rfl) (Or.inl rfl)
    · cases taken
  · rename_i job
    split at taken
    · rename_i ended
      split at taken
      · rename_i passed
        cases taken
        exact .verify job ended passed
      · cases taken
        exact .rest (Or.inl rfl) (Or.inl rfl) (Or.inl rfl) (Or.inl rfl)
    · cases taken
  · rename_i job
    cases taken
    exact rename_cases rfl (Or.inl job)
  · cases taken
    exact .rest (Or.inl rfl) (Or.inl rfl) (Or.inr rfl) (Or.inl rfl)
  · cases taken
    exact .rest (Or.inl rfl) (Or.inr rfl) (Or.inl rfl) (Or.inl rfl)
  · cases taken
    exact .rest (Or.inl rfl) (Or.inl rfl) (Or.inr rfl) (Or.inl rfl)
  · split at taken
    · cases taken
      exact .teeCreate
    · cases taken
  · rename_i job
    cases taken
    exact .teePiece _ job
  · cases taken
    exact .rest (Or.inl rfl) (Or.inl rfl) (Or.inl rfl) (Or.inl rfl)
  · rename_i job
    split at taken
    · rename_i passed
      cases taken
      exact .teeEnd job passed
    · cases taken
      exact .rest (Or.inl rfl) (Or.inl rfl) (Or.inl rfl) (Or.inl rfl)
  · cases taken
    exact .rest (Or.inl rfl) (Or.inr rfl) (Or.inl rfl) (Or.inl rfl)
  · rename_i job
    cases taken
    exact rename_cases rfl (Or.inr job)
  · cases taken

theorem step_cases {sha256 : Bytes → Bytes} {hex : String} {state next : Store} {event : Event}
    (taken : step sha256 hex state event = some next) : Move sha256 hex state event next := by
  unfold step at taken
  split at taken
  · cases taken
    exact .rest (Or.inr rfl) (Or.inr rfl) (Or.inl rfl) (Or.inl rfl)
  · cases taken
    exact .rest (Or.inr rfl) (Or.inl rfl) (Or.inr rfl) (Or.inl rfl)
  · cases taken
    exact .rest (Or.inr rfl) (Or.inl rfl) (Or.inl rfl) (Or.inr rfl)
  · cases taken
    exact .rest (Or.inl rfl) (Or.inl rfl) (Or.inl rfl) (Or.inl rfl)
  · exact jobStep_cases taken

/-- A running chunked attempt meets the collector's invariant, and the part file is the file
it has open. -/
structure Sound (state : Store) : Prop where
  inv : ∀ digest plan attempt, state.job = .chunked digest plan attempt → Download.Inv plan attempt
  same : ∀ digest plan attempt content, state.job = .chunked digest plan attempt →
    state.part = some content → content = attempt.file

theorem sound_chunked {state : Store} {digest : String} {plan : Plan} {attempt : Attempt}
    (job : state.job = .chunked digest plan attempt) (inv : Download.Inv plan attempt)
    (same : ∀ content, state.part = some content → content = attempt.file) : Sound state where
  inv := by
    intro otherDigest otherPlan otherAttempt running
    rw [job] at running
    cases running
    exact inv
  same := by
    intro otherDigest otherPlan otherAttempt content running held
    rw [job] at running
    cases running
    exact same content held

theorem quiet_not_planned {job : Job} (quiet : job.quiet = true) (digest : String) (plan : Plan) :
    job ≠ .planned digest plan := by
  intro same
  rw [same] at quiet
  cases quiet

theorem sound_of_not_chunked {state : Store}
    (other : ∀ digest plan attempt, state.job ≠ .chunked digest plan attempt) : Sound state where
  inv := fun digest plan attempt job => absurd job (other digest plan attempt)
  same := fun digest plan attempt _ job => absurd job (other digest plan attempt)

theorem quiet_not_chunked {job : Job} (quiet : job.quiet = true) (digest : String) (plan : Plan)
    (attempt : Attempt) : job ≠ .chunked digest plan attempt := by
  intro same
  rw [same] at quiet
  cases quiet

theorem sound_found (part sidecar : Option Bytes) : Sound (Store.found part sidecar) :=
  sound_of_not_chunked (by simp [Store.found])

theorem sound_openPart (state : Store) (digest : String) (plan : Plan) (connected : Bool) :
    Sound (state.openPart digest plan connected) := by
  unfold Store.openPart
  split
  · rename_i file held
    apply sound_chunked rfl (Download.inv_start plan file connected)
    intro content again
    exact Option.some.inj (again.symm.trans held)
  · apply sound_chunked rfl (Download.inv_start plan [] connected)
    intro content again
    exact (Option.some.inj again).symm

theorem sound_step {sha256 : Bytes → Bytes} {hex : String} (state : Store) (event : Event)
    (next : Store) (sound : Sound state) (taken : step sha256 hex state event = some next) :
    Sound next := by
  cases step_cases taken with
  | rest calm partKept sidecarKept blobKept =>
      rcases calm with quiet | same
      · exact sound_of_not_chunked (quiet_not_chunked quiet)
      · subst same
        refine ⟨sound.inv, ?_⟩
        intro digest plan attempt content job held
        rcases partKept with same | gone
        · exact sound.same digest plan attempt content job (same.symm.trans held)
        · exact absurd (gone.symm.trans held) (by simp)
  | openPart connected job => exact sound_openPart _ _ _ _
  | attempt job moved =>
      apply sound_chunked rfl (Download.inv_step _ _ _ (sound.inv _ _ _ job) moved)
      intro content held
      rcases Option.map_eq_some_iff.mp held with ⟨_, _, same⟩
      exact same.symm
  | rename quiet job held => exact sound_of_not_chunked (quiet_not_chunked quiet)
  | stat | load | verify | teeCreate | teePiece | teeEnd => exact sound_of_not_chunked (by simp)

end WebProxy.Attempts

import WebProxy.Attempts

/-! Where the flags of a resumed download come from: each stands for a fetch that succeeded on
the current part file, as long as no attempt adopts a sidecar older than that file. -/

namespace WebProxy.Attempts

open ByteFile (Bytes)
open Bitmap (Plan loadBitmap)
open Digest (letterDigest letterKey sampleSha256)
open Download (Attempt)

def Provenance (state : Store) : Prop :=
  ∀ digest plan attempt, state.job = .chunked digest plan attempt →
    ∀ index : Nat, plan.flags[index]? = some true → range plan index ∈ state.landed

def sameRanges (written : Nat) (plan : Plan) : Bool :=
  plan.flags.zipIdx.all
    (fun (flag, index) => !flag || rangeAt written plan.chunkBytes index = range plan index)

/-- A sidecar whose flags are adopted was written after the part file was created or last
truncated, for a size under which the adopted chunks have the same ranges, and the part file
is still there when it is opened. -/
def currentSidecar (state : Store) (event : Event) : Bool :=
  match state.job, event with
  | .stated _ total totalBps partLen, .load =>
      let plan := Plan.resume state.sidecar partLen total totalBps
      match state.current with
      | some written => sameRanges written plan
      | none => !plan.flags.contains true
  | .planned _ plan, .openPart _ => state.part.isSome || !plan.flags.contains true
  | _, _ => true

theorem sameRanges_flag {written : Nat} {plan : Plan} {index : Nat}
    (same : sameRanges written plan = true) (flag : plan.flags[index]? = some true) :
    rangeAt written plan.chunkBytes index = range plan index := by
  have member : (true, index) ∈ plan.flags.zipIdx := List.mem_zipIdx_iff_getElem?.mpr flag
  simpa [sameRanges] using List.all_eq_true.mp same _ member

theorem no_flag {plan : Plan} {index : Nat} (none : (!plan.flags.contains true) = true)
    (flag : plan.flags[index]? = some true) : False := by
  have member := List.mem_of_getElem? flag
  simp [member] at none

structure Earned (state : Store) : Prop where
  sound : Sound state
  sidecar : ∀ written, state.current = some written → ∀ partLen total found,
    loadBitmap state.sidecar partLen total = some found →
      ∀ index : Nat, found.done[index]? = some true →
        rangeAt written found.chunkBytes index ∈ state.landed
  planned : ∀ digest plan, state.job = .planned digest plan →
    ∀ index : Nat, plan.flags[index]? = some true → range plan index ∈ state.landed
  chunked : ∀ digest plan attempt, state.job = .chunked digest plan attempt → ∀ index : Nat,
    plan.flags[index]? = some true ∨ attempt.tasks[index]? = some (.returned false) ∨
      attempt.bitmap[index]? = some true → range plan index ∈ state.landed

theorem earned_apart {state : Store} (sound : Sound state)
    (sidecar : ∀ written, state.current = some written → ∀ partLen total found,
      loadBitmap state.sidecar partLen total = some found →
        ∀ index : Nat, found.done[index]? = some true →
          rangeAt written found.chunkBytes index ∈ state.landed)
    (unplanned : ∀ digest plan, state.job ≠ .planned digest plan)
    (unstarted : ∀ digest plan attempt, state.job ≠ .chunked digest plan attempt) :
    Earned state where
  sound := sound
  sidecar := sidecar
  planned := fun digest plan job => absurd job (unplanned digest plan)
  chunked := fun digest plan attempt job => absurd job (unstarted digest plan attempt)

theorem earned_found (part sidecar : Option Bytes) : Earned (Store.found part sidecar) := by
  apply earned_apart (sound_found part sidecar)
  · intro written current
    cases current
  · simp [Store.found]
  · simp [Store.found]

theorem returned_after {plan : Plan} {attempt next : Attempt} {event : Download.Event}
    (inv : Download.Inv plan attempt) (taken : Download.step plan attempt event = some next)
    {index : Nat} (returned : next.tasks[index]? = some (.returned false)) :
    attempt.tasks[index]? = some (.returned false) ∨ event = .finishBody index := by
  have kept : ∀ slot : Nat, (attempt.tasks.set slot .joined)[index]? = some (.returned false) →
      attempt.tasks[index]? = some (.returned false) := by
    intro slot found
    rcases Slots.get_set_cases found with ⟨_, same⟩ | ⟨_, found⟩
    · cases same
    · exact found
  rcases (Download.step_cases taken).2 with moved | moved
  · obtain ⟨slot, before, after, file, permits, held, move, rfl⟩ := Download.taskStep_cases moved
    rcases Slots.get_set_cases returned with ⟨rfl, same⟩ | ⟨_, found⟩
    · cases move with
      | land => exact Or.inr rfl
      | resume | permit | again | giveUp | accept | piece => cases same
    · exact Or.inl found
  · left
    cases Download.collectorStep_cases inv moved with
    | cached | fetched | exhausted => exact kept _ returned
    | saved | emitted | unread | round | left => exact returned

theorem bitmap_after {plan : Plan} {attempt next : Attempt} {event : Download.Event}
    (inv : Download.Inv plan attempt) (taken : Download.step plan attempt event = some next)
    {index : Nat} (flag : next.bitmap[index]? = some true) :
    attempt.bitmap[index]? = some true ∨ attempt.tasks[index]? = some (.returned false) := by
  rcases (Download.step_cases taken).2 with moved | moved
  · obtain ⟨slot, before, after, file, permits, held, move, rfl⟩ := Download.taskStep_cases moved
    exact Or.inl flag
  · cases Download.collectorStep_cases inv moved with
    | fetched joining held =>
        rcases Slots.get_set_cases flag with ⟨rfl, _⟩ | ⟨_, flag⟩
        · exact Or.inr held
        · exact Or.inl flag
    | cached | exhausted | saved | emitted | unread | round | left => exact Or.inl flag

theorem follow_landed {state : Store} {digest : String} {plan : Plan} {event : Download.Event}
    {next : Attempt} {place : Nat × Nat} (member : place ∈ state.landed) :
    place ∈ (state.follow digest plan event next).landed := by
  simp only [Store.follow]
  split
  · split
    · exact List.mem_cons_of_mem _ member
    · exact member
  · exact member

theorem follow_chunked {state : Store} (earned : Earned state) {digest : String} {plan : Plan}
    {attempt next : Attempt} {event : Download.Event}
    (job : state.job = .chunked digest plan attempt)
    (taken : Download.step plan attempt event = some next) {index : Nat}
    (counted : plan.flags[index]? = some true ∨ next.tasks[index]? = some (.returned false) ∨
      next.bitmap[index]? = some true) :
    range plan index ∈ (state.follow digest plan event next).landed := by
  have inv := earned.sound.inv _ _ _ job
  rcases counted with flag | returned | flag
  · exact follow_landed (earned.chunked _ _ _ job index (Or.inl flag))
  · rcases returned_after inv taken returned with before | rfl
    · exact follow_landed (earned.chunked _ _ _ job index (Or.inr (Or.inl before)))
    · simp only [Store.follow, if_pos returned]
      exact List.mem_cons_self
  · apply follow_landed
    rcases bitmap_after inv taken flag with before | before
    · exact earned.chunked _ _ _ job index (Or.inr (Or.inr before))
    · exact earned.chunked _ _ _ job index (Or.inr (Or.inl before))

theorem follow_sidecar {state : Store} (earned : Earned state) {digest : String} {plan : Plan}
    {attempt next : Attempt} {event : Download.Event}
    (job : state.job = .chunked digest plan attempt)
    (taken : Download.step plan attempt event = some next) {written : Nat}
    (current : (state.follow digest plan event next).current = some written)
    {partLen total : Nat} {found : Bitmap.ExistingBitmap}
    (loaded : loadBitmap (state.follow digest plan event next).sidecar partLen total = some found)
    {index : Nat} (flag : found.done[index]? = some true) :
    rangeAt written found.chunkBytes index ∈ (state.follow digest plan event next).landed := by
  by_cases saved : ∃ count, event = .save (some count)
  · obtain ⟨count, rfl⟩ := saved
    cases current
    have value := Bitmap.loadBitmap_saved plan.fits loaded
    subst value
    have marked : next.bitmap[index]? = some true := by
      rw [List.getElem?_take] at flag
      split at flag
      · exact flag
      · cases flag
    exact follow_chunked earned job taken (Or.inr (Or.inr marked))
  · have same : (state.follow digest plan event next).sidecar = state.sidecar ∧
        (state.follow digest plan event next).current = state.current := by
      simp only [Store.follow]
      split
      · rename_i count
        exact absurd ⟨count, rfl⟩ saved
      · exact ⟨rfl, rfl⟩
    rw [same.1] at loaded
    rw [same.2] at current
    exact follow_landed (earned.sidecar written current partLen total found loaded index flag)

theorem openPart_started (state : Store) (digest : String) (plan : Plan) (connected : Bool) :
    ∃ file, (state.openPart digest plan connected).job =
      .chunked digest plan (Download.start plan file connected) := by
  unfold Store.openPart
  split
  · exact ⟨_, rfl⟩
  · exact ⟨_, rfl⟩

/-- What a plan has flagged was fetched into the part file it opens; where there is none, nothing is
flagged. -/
theorem openPart_flags {state : Store} (earned : Earned state) {digest : String} {plan : Plan}
    {connected : Bool} (fresh : currentSidecar state (.openPart connected) = true)
    (job : state.job = .planned digest plan) {index : Nat} (flag : plan.flags[index]? = some true) :
    range plan index ∈ (state.openPart digest plan connected).landed := by
  simp only [currentSidecar, job, Bool.or_eq_true] at fresh
  unfold Store.openPart
  split
  · exact earned.planned _ _ job index flag
  · rename_i missing
    rw [missing] at fresh
    exact absurd flag (fun flag => no_flag (fresh.resolve_left (by simp)) flag)

theorem earned_openPart {state : Store} (earned : Earned state) {digest : String} {plan : Plan}
    {connected : Bool} (fresh : currentSidecar state (.openPart connected) = true)
    (job : state.job = .planned digest plan) : Earned (state.openPart digest plan connected) := by
  have sound := sound_openPart state digest plan connected
  obtain ⟨file, running⟩ := openPart_started state digest plan connected
  refine ⟨sound, ?_, ?_, ?_⟩
  · unfold Store.openPart
    split
    · exact earned.sidecar
    · intro written current
      cases current
  · intro _ _ planned
    rw [running] at planned
    cases planned
  · intro _ _ _ chunked index counted
    rw [running] at chunked
    cases chunked
    rcases counted with flag | returned | flag
    · exact openPart_flags earned fresh job flag
    · simp only [Download.start, List.getElem?_replicate] at returned
      split at returned <;> cases returned
    · exact openPart_flags earned fresh job flag

theorem earned_step {sha256 : Bytes → Bytes} {hex : String} (state : Store) (event : Event)
    (next : Store) (earned : Earned state) (fresh : currentSidecar state event = true)
    (taken : step sha256 hex state event = some next) : Earned next := by
  have sound := sound_step state event next earned.sound taken
  cases step_cases taken with
  | @rest _ _ sidecar _ _ calm partKept sidecarKept blobKept =>
      have kept : ∀ written, state.current = some written → ∀ partLen total found,
          loadBitmap sidecar partLen total = some found → ∀ index : Nat, found.done[index]? = some true →
            rangeAt written found.chunkBytes index ∈ state.landed := by
        intro written current partLen total found loaded
        rcases sidecarKept with same | gone
        · rw [same] at loaded
          exact earned.sidecar written current partLen total found loaded
        · rw [gone] at loaded
          cases loaded
      rcases calm with quiet | same
      · exact earned_apart sound kept (quiet_not_planned quiet) (quiet_not_chunked quiet)
      · subst same
        exact ⟨sound, kept, earned.planned, earned.chunked⟩
  | stat | verify | teePiece | teeEnd =>
      exact earned_apart sound earned.sidecar (by simp) (by simp)
  | rename quiet job held =>
      exact earned_apart sound earned.sidecar (quiet_not_planned quiet) (quiet_not_chunked quiet)
  | teeCreate => exact earned_apart sound (by simp) (by simp) (by simp)
  | load job =>
      refine ⟨sound, earned.sidecar, ?_, ?_⟩
      · intro digest plan planned index flag
        cases planned
        simp only [currentSidecar, job] at fresh
        rcases Bitmap.resume_flag flag with ⟨found, loaded, width, marked⟩
        split at fresh
        · rename_i written current
          have member := earned.sidecar written current _ _ found loaded index marked
          rw [← width, sameRanges_flag fresh flag] at member
          exact member
        · exact absurd flag (fun flag => no_flag fresh flag)
      · intro digest plan attempt running
        cases running
  | openPart connected job => exact earned_openPart earned fresh job
  | attempt job moved =>
      refine ⟨sound, ?_, ?_, ?_⟩
      · intro written current partLen total found loaded index flag
        exact follow_sidecar earned job moved current loaded flag
      · intro digest plan planned
        cases planned
      · intro digest plan attempt running index counted
        cases running
        exact follow_chunked earned job moved counted

/-- In every run that adopts only current sidecars, a chunk that is taken as done was fetched
into the current part file. -/
theorem resumed_chunks_landed (sha256 : Bytes → Bytes) (hex : String) (part sidecar : Option Bytes)
    (events : List Event) (final : Store)
    (fresh : Machine.Along (step sha256 hex) (fun state event => currentSidecar state event = true)
      (Store.found part sidecar) events)
    (ran : Machine.run (step sha256 hex) (Store.found part sidecar) events = some final) :
    Provenance final := by
  have earned := Machine.along_invariant Earned earned_step (earned_found part sidecar) fresh ran
  intro digest plan attempt job index flag
  exact earned.chunked digest plan attempt job index (Or.inl flag)

def Store.adopted (state : Store) : List Bool :=
  match state.job with
  | .chunked _ plan _ => plan.flags
  | _ => []

theorem not_provenance_of_landed {state : Store} (index : Nat)
    (adopted : state.adopted[index]? = some true) (landed : state.landed = []) :
    ¬ Provenance state := by
  intro provenance
  unfold Store.adopted at adopted
  split at adopted
  · rename_i digest plan attempt job
    have member := provenance digest plan attempt job index adopted
    rw [landed] at member
    cases member
  · cases adopted

def savedEvents : List Event :=
  [.stat letterDigest 1 0, .load, .openPart true, .attempt (.poll 0), .attempt (.accept 0),
   .attempt (.piece 0 [97]), .attempt (.finishBody 0), .attempt (.join 0),
   .attempt (.save (some 9)), .kill]

def resumeEvents : List Event := [.stat letterDigest 1 0, .load, .openPart false]

theorem resumed_chunks_landed_after_kill :
    ∃ final, Machine.run (step sampleSha256 letterKey) (Store.found none none)
        (savedEvents ++ resumeEvents) = some final ∧
      final.adopted = [true] ∧ Provenance final := by
  have ended : (Machine.run (step sampleSha256 letterKey) (Store.found none none)
      (savedEvents ++ resumeEvents)).map Store.adopted = some [true] := by decide +kernel
  obtain ⟨final, ran, adopted⟩ := Option.map_eq_some_iff.mp ended
  exact ⟨final, ran, adopted, resumed_chunks_landed _ _ _ _ _ final (by decide +kernel) ran⟩

/-- Eviction takes the part file, a single-source attempt writes another byte and is killed:
the sidecar outlives both and the next chunked attempt takes the byte for its chunk. -/
theorem stale_sidecar_is_adopted :
    ∃ final, Machine.run (step sampleSha256 letterKey) (Store.found none none)
        (savedEvents ++ [.evictPart, .teeCreate, .teePiece [120], .kill] ++ resumeEvents) =
          some final ∧
      final.adopted = [true] ∧ ¬ Provenance final := by
  have ended : (Machine.run (step sampleSha256 letterKey) (Store.found none none)
      (savedEvents ++ [.evictPart, .teeCreate, .teePiece [120], .kill] ++ resumeEvents)).map
        (fun state => (state.adopted, state.landed)) = some ([true], []) := by decide +kernel
  obtain ⟨final, ran, reached⟩ := Option.map_eq_some_iff.mp ended
  obtain ⟨adopted, landed⟩ := Prod.mk.inj reached
  exact ⟨final, ran, adopted, not_provenance_of_landed 0 (by rw [adopted]; rfl) landed⟩

end WebProxy.Attempts

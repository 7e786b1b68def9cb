import WebProxy.Attempts

/-! What is renamed onto `blob_path(hex)`: the whole file is the content the digest names as long
as nothing lies past the announced size. -/

namespace WebProxy.Attempts

open ByteFile (Bytes writeAt)
open Bitmap (Plan)
open Digest (hexEncode letterDigest letterKey sampleSha256)
open Download (Attempt)

/-- The committed file, as a whole, is the blob its name says, of the announced length. -/
def Blob.Named (sha256 : Bytes → Bytes) (hex : String) (blob : Blob) : Prop :=
  hexEncode (sha256 blob.content) = hex ∧ blob.content.length = blob.announced

instance (sha256 : Bytes → Bytes) (hex : String) (blob : Blob) :
    Decidable (blob.Named sha256 hex) := inferInstanceAs (Decidable (_ ∧ _))

/-- No chunked attempt opens a part file longer than its total size, and no piece of a chunk's
body is written past that size. -/
def withinTotal (state : Store) (event : Event) : Bool :=
  match state.job, event with
  | .planned _ plan, .openPart _ => (state.part.map List.length).getD 0 ≤ plan.total
  | .chunked _ plan attempt, .attempt (.piece index data) =>
      match attempt.tasks[index]? with
      | some (.writing _ writer) => writer.cursor + data.length ≤ plan.total
      | _ => true
  | _, _ => true

/-- What a job promises about the part file it is going to rename. -/
def Promised (sha256 : Bytes → Bytes) (hex : String) (part : Option Bytes) : Job → Prop
  | .stated digest _ _ _ => Digest.sha256Hex digest = some hex
  | .planned digest _ => Digest.sha256Hex digest = some hex
  | .chunked digest plan attempt =>
      Digest.sha256Hex digest = some hex ∧ attempt.file.length ≤ plan.total
  | .verified total | .teeVerified total =>
      ∀ content, part = some content → Blob.Named sha256 hex ⟨content, total⟩
  | .teeing file hashed total =>
      file = hashed ∧ file.length = total ∧ ∀ content, part = some content → content = file
  | _ => True

structure Named (sha256 : Bytes → Bytes) (hex : String) (state : Store) : Prop where
  sound : Sound state
  blob : ∀ blob, state.blob = some blob → blob.Named sha256 hex
  promised : Promised sha256 hex state.part state.job

theorem promised_quiet {sha256 : Bytes → Bytes} {hex : String} (part : Option Bytes) {job : Job}
    (quiet : job.quiet = true) : Promised sha256 hex part job := by
  cases job with
  | idle | renamed | rejected | unpaired | teeFailed => trivial
  | stated | planned | chunked | verified | teeing | teeVerified => cases quiet

theorem promised_removed {sha256 : Bytes → Bytes} {hex : String} {part : Option Bytes} {job : Job}
    (promised : Promised sha256 hex part job) : Promised sha256 hex none job := by
  cases job with
  | verified | teeVerified =>
      intro content gone
      cases gone
  | teeing =>
      refine ⟨promised.1, promised.2.1, ?_⟩
      intro content gone
      cases gone
  | idle | stated | planned | chunked | renamed | rejected | unpaired | teeFailed => exact promised

theorem file_within {plan : Plan} {attempt next : Attempt} {event : Download.Event}
    (inv : Download.Inv plan attempt) (short : attempt.file.length ≤ plan.total)
    (within : ∀ index data, event = .piece index data → ∀ count writer,
      attempt.tasks[index]? = some (.writing count writer) → writer.cursor + data.length ≤ plan.total)
    (taken : Download.step plan attempt event = some next) : next.file.length ≤ plan.total := by
  rcases (Download.step_cases taken).2 with moved | moved
  · obtain ⟨index, before, after, file, permits, held, move, rfl⟩ := Download.taskStep_cases moved
    cases move with
    | piece data =>
        exact ByteFile.writeAt_length_le _ _ _ _ short (within index data rfl _ _ held)
    | resume | permit | again | giveUp | accept | land => exact short
  · cases Download.collectorStep_cases inv moved with
    | cached | fetched | exhausted | saved | emitted | unread | round | left => exact short

theorem collected_whole {plan : Plan} {attempt : Attempt} (inv : Download.Inv plan attempt)
    (short : attempt.file.length ≤ plan.total) (ended : attempt.phase = .collected) :
    attempt.hashed = attempt.file ∧ attempt.file.length = plan.total := by
  have offset := (inv.collected ended).1
  have reached := inv.inside
  rw [offset] at reached
  refine ⟨?_, Nat.le_antisymm short reached⟩
  rw [inv.hashed, offset, List.take_of_length_le short]

theorem named_step {sha256 : Bytes → Bytes} {hex : String} (state : Store) (event : Event)
    (next : Store) (named : Named sha256 hex state) (within : withinTotal state event = true)
    (taken : step sha256 hex state event = some next) : Named sha256 hex next := by
  have sound := sound_step state event next named.sound taken
  cases step_cases taken with
  | rest calm partKept sidecarKept blobKept =>
      refine ⟨sound, ?_, ?_⟩
      · intro blob committed
        rcases blobKept with rfl | rfl
        · exact named.blob blob committed
        · cases committed
      · rcases calm with quiet | rfl
        · exact promised_quiet _ quiet
        · rcases partKept with rfl | rfl
          · exact named.promised
          · exact promised_removed named.promised
  | stat accepted => exact ⟨sound, named.blob, accepted⟩
  | load job =>
      have promised := named.promised
      rw [job] at promised
      exact ⟨sound, named.blob, promised⟩
  | openPart connected job =>
      have promised := named.promised
      simp only [withinTotal, job, decide_eq_true_eq] at within
      rw [job] at promised
      unfold Store.openPart at sound ⊢
      split at sound
      · rename_i file held
        rw [held] at within
        exact ⟨sound, named.blob, promised, within⟩
      · exact ⟨sound, named.blob, promised, Nat.zero_le _⟩
  | attempt job moved =>
      have promised := named.promised
      rw [job] at promised
      refine ⟨sound, named.blob, promised.1, ?_⟩
      apply file_within (named.sound.inv _ _ _ job) promised.2 _ moved
      intro index data piece count writer held
      rw [piece] at within
      simpa only [withinTotal, job, held, decide_eq_true_eq] using within
  | verify job ended passed =>
      have promised := named.promised
      rw [job] at promised
      obtain ⟨whole, size⟩ := collected_whole (named.sound.inv _ _ _ job) promised.2 ended
      refine ⟨sound, named.blob, ?_⟩
      intro content held
      have same := named.sound.same _ _ _ _ job held
      subst same
      rw [whole] at passed
      exact ⟨Digest.download_commit_key promised.1 passed, size⟩
  | rename quiet job held =>
      refine ⟨sound, ?_, promised_quiet _ quiet⟩
      intro blob committed
      cases committed
      have promised := named.promised
      rcases job with job | job
      · rw [job] at promised
        exact promised _ held
      · rw [job] at promised
        exact promised _ held
  | teeCreate =>
      refine ⟨sound, named.blob, rfl, rfl, ?_⟩
      intro content held
      exact (Option.some.inj held).symm
  | @teePiece file hashed total data job =>
      have promised := named.promised
      rw [job] at promised
      obtain ⟨same, size, _⟩ := promised
      have grown : writeAt file total data = file ++ data := by
        rw [← size]
        exact ByteFile.writeAt_end _ data
      refine ⟨sound, named.blob, ?_, ?_, ?_⟩
      · rw [grown, same]
      · rw [grown, List.length_append, size]
      · intro content held
        obtain ⟨_, _, rfl⟩ := Option.map_eq_some_iff.mp held
        rfl
  | teeEnd job passed =>
      have promised := named.promised
      rw [job] at promised
      obtain ⟨same, size, linked⟩ := promised
      refine ⟨sound, named.blob, ?_⟩
      intro content held
      rw [linked content held]
      rw [← same, Digest.teeVerdict_commit] at passed
      exact ⟨passed, size⟩

/-- Every blob committed by a run that stays within the announced sizes is, as a whole file,
the content its digest names. -/
theorem committed_content_named (sha256 : Bytes → Bytes) (hex : String)
    (part sidecar : Option Bytes) (events : List Event) (final : Store) (blob : Blob)
    (within : Machine.Along (step sha256 hex) (fun state event => withinTotal state event = true)
      (Store.found part sidecar) events)
    (ran : Machine.run (step sha256 hex) (Store.found part sidecar) events = some final)
    (committed : final.blob = some blob) : blob.Named sha256 hex := by
  have fresh : Named sha256 hex (Store.found part sidecar) :=
    ⟨sound_found part sidecar, by simp [Store.found], trivial⟩
  exact (Machine.along_invariant (Named sha256 hex) named_step fresh within ran).blob blob committed

/-- One byte `a`, fetched in one piece; an old part file of one byte and its sidecar are on disk. -/
def resumedEvents : List Event :=
  [.stat letterDigest 1 0, .load,
   .openPart true, .attempt (.poll 0), .attempt (.accept 0), .attempt (.piece 0 [97]),
   .attempt (.finishBody 0), .attempt (.join 0), .attempt (.save (some 9)), .attempt (.emit true),
   .attempt (.emit true), .attempt .leave, .verify, .rename]

theorem committed_content_named_resumed :
    ∃ final blob,
      Machine.run (step sampleSha256 letterKey)
        (Store.found (some [120]) (some (Bitmap.saveBitmap 8388608 [false]))) resumedEvents =
          some final ∧
      final.blob = some blob ∧ blob.Named sampleSha256 letterKey := by
  have ended : (Machine.run (step sampleSha256 letterKey)
      (Store.found (some [120]) (some (Bitmap.saveBitmap 8388608 [false]))) resumedEvents).bind
        Store.blob = some ⟨[97], 1⟩ := by decide +kernel
  obtain ⟨final, ran, committed⟩ := Option.bind_eq_some_iff.mp ended
  exact ⟨final, _, ran, committed,
    committed_content_named _ _ _ _ _ final _ (by decide +kernel) ran committed⟩

/-- One byte `a`: the first body for its only chunk has a byte too many and is refused, the
second is right. -/
def overlongEvents : List Event :=
  [.stat letterDigest 1 0, .load,
   .openPart true, .attempt (.poll 0), .attempt (.accept 0), .attempt (.piece 0 [97, 98]),
   .attempt (.finishBody 0), .attempt (.accept 0), .attempt (.piece 0 [97]),
   .attempt (.finishBody 0), .attempt (.join 0), .attempt (.save (some 9)), .attempt (.emit true),
   .attempt (.emit true), .attempt .leave, .verify, .rename]

/-- The refused byte stays in the file and is committed with the blob. -/
theorem overlong_body_is_committed :
    ∃ final blob,
      Machine.run (step sampleSha256 letterKey) (Store.found none none) overlongEvents = some final ∧
      final.blob = some blob ∧ blob = ⟨[97, 98], 1⟩ ∧ ¬ blob.Named sampleSha256 letterKey := by
  have ended : (Machine.run (step sampleSha256 letterKey) (Store.found none none)
      overlongEvents).bind Store.blob = some ⟨[97, 98], 1⟩ := by decide +kernel
  obtain ⟨final, ran, committed⟩ := Option.bind_eq_some_iff.mp ended
  exact ⟨final, ⟨[97, 98], 1⟩, ran, committed, rfl, by decide +kernel⟩

end WebProxy.Attempts

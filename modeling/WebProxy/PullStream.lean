import WebProxy.FetchChunk
import WebProxy.Library.Json
import WebProxy.Library.Lines
import WebProxy.Pulls

/-! `docker_pull` of `dockerpull.rs`: the request to the daemon, the loop over the frames of its
answer with the buffer for the line that is still open, and what every line does to the job. -/

namespace WebProxy.Pulls

open ByteFile (Bytes)
open FetchChunk (isSuccess)
open ImageRef (PullSpec)

def newline : UInt8 := 10

def utf8Bytes (text : String) : Bytes := text.toUTF8.data.toList

/-- What `apply_progress_line` finds in a line: nothing to do, the error that aborts the pull, or a
status. -/
inductive ReadLine where
  | ignored
  | failure (error : String)
  | progress (line : ProgressLine)
  deriving DecidableEq, Repr

def progressDetail (value : Json) : Nat × Nat :=
  (((value.get "progressDetail").bind (fun detail =>
    ((detail.get "current").bind Json.asU64).bind (fun current =>
      ((detail.get "total").bind Json.asU64).map (fun total => (current, total))))).getD (0, 0))

/-- The text of a line without the blanks around it; bytes that are no text count as none. -/
def lineText (line : Bytes) : List Char :=
  Text.trim ((String.fromUTF8? line.toByteArray).getD "").toList

/-- The reading half of `apply_progress_line`; `readJson` is `serde_json::from_str`. -/
def readLine (readJson : String → Option Json) (line : Bytes) : ReadLine :=
  if lineText line = [] then .ignored
  else
    match readJson (String.ofList (lineText line)) with
    | none => .ignored
    | some value =>
        match value.textAt "error" with
        | some error => .failure error
        | none =>
            match value.textAt "status" with
            | none => .ignored
            | some status =>
                .progress ⟨value.textAt "id", status, (progressDetail value).1, (progressDetail value).2⟩

def applyProgressLine (readJson : String → Option Json) (state : JobState) (line : Bytes) :
    Except String JobState :=
  match readLine readJson line with
  | .ignored => .ok state
  | .failure error => .error error
  | .progress line => .ok (state.progress line)

/-- What the body of the daemon's answer yields: a data frame, trailers, an error, or nothing for
the idle timeout. -/
inductive Frame where
  | data (bytes : Bytes)
  | trailers
  | failed (error : String)
  | idle
  deriving DecidableEq, Repr

def streamLoop (readJson : String → Option Json) :
    JobState → Bytes → List Frame → JobState × Except String Unit
  | state, _, [] => (state, .ok ())
  | state, buffer, .data bytes :: rest =>
      match Lines.drain (applyProgressLine readJson) newline (buffer ++ bytes).length state
        (buffer ++ bytes) with
      | (next, .error error) => (next, .error error)
      | (next, .ok left) => streamLoop readJson next left rest
  | state, _, .trailers :: _ => (state, .error "non-data frame")
  | state, _, .failed error :: _ => (state, .error error)
  | state, _, .idle :: _ => (state, .error "docker pull stream idle for 600s")

def finalStatus (state : JobState) : Except String String :=
  if "Status:".toList.isPrefixOf state.message.toList then .ok state.message
  else .error ("docker pull stream ended without a final status (last: " ++ state.message ++ ")")

def percentEncodePath (input : String) : String :=
  String.ofList ((utf8Bytes input).flatMap (fun byte =>
    let char := Char.ofNat byte.toNat
    if char.isAlphanum || char = '-' || char = '.' || char = '_' || char = '~' then [char]
    else '%' :: (Text.hexPair byte).map Char.toUpper))

def pullUri (spec : PullSpec) : String :=
  "/images/create?fromImage=" ++ percentEncodePath spec.pullRepo ++
    (match spec.tag with
      | some tag => "&tag=" ++ percentEncodePath tag
      | none => "") ++
    (match spec.digest with
      | some digest => "&digest=" ++ percentEncodePath digest
      | none => "")

inductive DaemonFailure where
  | connect (cause : String)
  | handshake (cause : String)
  | build (cause : String)
  | request (cause : String)
  deriving DecidableEq, Repr

def DaemonFailure.text (socket : String) : DaemonFailure → String
  | .connect cause => "connect docker socket " ++ socket ++ ": " ++ cause
  | .handshake cause => "docker api handshake: " ++ cause
  | .build cause => "build docker api request: " ++ cause
  | .request cause => "docker api request: " ++ cause

structure DaemonResponse where
  status : Nat
  reason : String
  body : List Frame
  deriving DecidableEq, Repr

def dockerPull (readJson : String → Option Json) (socket : String)
    (daemon : String → Except DaemonFailure DaemonResponse) (spec : PullSpec) (state : JobState) :
    JobState × Except String String :=
  match daemon (pullUri spec) with
  | .error failure => (state, .error (failure.text socket))
  | .ok response =>
      if isSuccess response.status then
        match streamLoop readJson state [] response.body with
        | (next, .error error) => (next, .error error)
        | (next, .ok _) => (next, finalStatus next)
      else (state, .error ("docker api HTTP " ++ toString response.status ++ " " ++ response.reason))

section Stream

variable (readJson : String → Option Json)

/-- The loop over data frames gives the job the lines of the whole stream, however it is cut: the
buffer is what stands behind the last newline so far. -/
theorem streamLoop_data (frames : List Bytes) (state : JobState) (buffer : Bytes)
    (open_line : newline ∉ buffer) :
    streamLoop readJson state buffer (frames.map .data) =
      Lines.feed (applyProgressLine readJson) state (Lines.lines newline (buffer ++ frames.flatten)) := by
  induction frames generalizing state buffer with
  | nil =>
      have absent : newline ∉ buffer ++ ([] : List Bytes).flatten := by simpa using open_line
      rw [Lines.lines_of_absent absent]
      rfl
  | cons bytes frames ih =>
      rw [List.flatten_cons, ← List.append_assoc, Lines.lines_append, Lines.feed_append, List.map_cons,
        streamLoop, Lines.drain_eq _ state _ _ le_rfl]
      cases Lines.feed (applyProgressLine readJson) state (Lines.lines newline (buffer ++ bytes)) with
      | mk next outcome =>
          cases outcome with
          | error error => rfl
          | ok _ => exact ih next _ (Lines.openEnd_absent _)

def Progressed (start state : JobState) : Prop :=
  ∃ lines : List ProgressLine, state = lines.foldl JobState.progress start

theorem applyProgressLine_progressed {start state next : JobState} {line : Bytes}
    (before : Progressed start state) (applied : applyProgressLine readJson state line = .ok next) :
    Progressed start next := by
  obtain ⟨lines, rfl⟩ := before
  rw [applyProgressLine] at applied
  split at applied
  · cases applied
    exact ⟨lines, rfl⟩
  · cases applied
  · rename_i read _
    cases applied
    exact ⟨lines ++ [read], by rw [List.foldl_append]; rfl⟩

theorem streamLoop_progressed {start : JobState} (frames : List Frame) {state : JobState}
    (before : Progressed start state) (buffer : Bytes) :
    Progressed start (streamLoop readJson state buffer frames).1 := by
  induction frames generalizing state buffer with
  | nil => exact before
  | cons frame frames ih =>
      cases frame with
      | data bytes =>
          have fed := Lines.feed_invariant (applyProgressLine readJson) (Progressed start)
            (fun _ _ _ => applyProgressLine_progressed readJson) before
            (Lines.lines newline (buffer ++ bytes))
          rw [streamLoop, Lines.drain_eq _ state _ _ le_rfl]
          revert fed
          cases Lines.feed (applyProgressLine readJson) state (Lines.lines newline (buffer ++ bytes)) with
          | mk next outcome =>
              intro fed
              cases outcome with
              | error error => exact fed
              | ok _ => exact ih fed _
      | trailers => exact before
      | failed error => exact before
      | idle => exact before

theorem dockerPull_ends (socket : String) (daemon : String → Except DaemonFailure DaemonResponse)
    (spec : PullSpec) (state : JobState) :
    ∃ next, Progressed state next ∧ ((∃ error, dockerPull readJson socket daemon spec state =
      (next, .error error)) ∨ dockerPull readJson socket daemon spec state = (next, finalStatus next)) := by
  have unchanged : Progressed state state := ⟨[], rfl⟩
  rw [dockerPull]
  cases daemon (pullUri spec) with
  | error failure => exact ⟨state, unchanged, Or.inl ⟨_, rfl⟩⟩
  | ok response =>
      cases success : isSuccess response.status with
      | false => exact ⟨state, unchanged, Or.inl ⟨_, by simp only [success]; rfl⟩⟩
      | true =>
          have looped := streamLoop_progressed readJson response.body unchanged []
          revert looped
          simp only [success, if_true]
          cases streamLoop readJson state [] response.body with
          | mk next outcome =>
              intro looped
              cases outcome with
              | error error => exact ⟨next, looped, Or.inl ⟨error, rfl⟩⟩
              | ok _ => exact ⟨next, looped, Or.inr rfl⟩

theorem run_progress (lines : List ProgressLine) {job : Job} (pulling : job.stage = .pulling) :
    ∃ after, Machine.run Job.advance job (lines.map .progress) = some after ∧ after.stage = .pulling ∧
      after.state = lines.foldl JobState.progress job.state := by
  induction lines generalizing job with
  | nil => exact ⟨job, rfl, pulling, rfl⟩
  | cons line lines ih =>
      obtain ⟨after, ran, stage, same⟩ := @ih { job with
        state := job.state.progress line
        agrees := by rw [progress_status]; exact job.agrees } pulling
      refine ⟨after, ?_, stage, same⟩
      rw [List.map_cons, Machine.run_cons, Job.advance, if_pos pulling]
      exact ran

theorem dockerPull_refines (socket : String) (daemon : String → Except DaemonFailure DaemonResponse)
    {job : Job} (pulling : job.stage = .pulling) :
    ∃ (lines : List ProgressLine) (failure : Option String) (after : Job),
      Machine.run Job.advance job (lines.map .progress ++ [.pullEnds failure]) = some after ∧
        after.state = (dockerPull readJson socket daemon job.spec job.state).1.settle
          (dockerPull readJson socket daemon job.spec job.state).2 := by
  obtain ⟨next, ⟨lines, progressed⟩, ends⟩ := dockerPull_ends readJson socket daemon job.spec job.state
  obtain ⟨middle, ran, stage, same⟩ := run_progress lines pulling
  have judged : ∀ failure, ∃ after,
      Machine.run Job.advance job (lines.map .progress ++ [.pullEnds failure]) = some after ∧
        after.state = middle.state.settle (middle.pullOutcome failure) := by
    intro failure
    rw [Machine.run_append, ran, Option.bind_some, Machine.run_cons, Job.advance, if_pos stage]
    exact ⟨_, rfl, rfl⟩
  rw [← progressed] at same
  rcases ends with ⟨error, pulled⟩ | pulled
  · obtain ⟨after, ended, settled⟩ := judged (some error)
    refine ⟨lines, some error, after, ended, ?_⟩
    rw [settled, pulled, same]
    rfl
  · obtain ⟨after, ended, settled⟩ := judged none
    refine ⟨lines, none, after, ended, ?_⟩
    rw [settled, pulled, Job.pullOutcome, finalStatus, same]

def ReadLine.message : ReadLine → Option String
  | .progress line => if line.id.isNone then some line.status else none
  | _ => none

def messages (lines : List Bytes) : List String :=
  lines.filterMap (fun line => (readLine readJson line).message)

theorem progress_message (state : JobState) (line : ProgressLine) :
    (state.progress line).message = ((ReadLine.progress line).message).getD state.message := by
  obtain ⟨id, status, current, total⟩ := line
  cases id with
  | none => rfl
  | some id =>
      simp only [JobState.progress, ReadLine.message]
      split <;> rfl

theorem applyProgressLine_cases (state : JobState) (line : Bytes) :
    (∃ error, readLine readJson line = .failure error ∧
      applyProgressLine readJson state line = .error error) ∨
    ∃ next, (∀ error, readLine readJson line ≠ .failure error) ∧
      applyProgressLine readJson state line = .ok next ∧
      next.message = ((readLine readJson line).message).getD state.message := by
  rw [applyProgressLine]
  cases readLine readJson line with
  | ignored => exact Or.inr ⟨state, nofun, rfl, rfl⟩
  | failure error => exact Or.inl ⟨error, rfl, rfl⟩
  | progress read => exact Or.inr ⟨_, nofun, rfl, progress_message state read⟩

theorem feed_ok_iff (state : JobState) (lines : List Bytes) :
    (Lines.feed (applyProgressLine readJson) state lines).2 = .ok () ↔
      ∀ line ∈ lines, ∀ error, readLine readJson line ≠ .failure error := by
  induction lines generalizing state with
  | nil => simp [Lines.feed]
  | cons line lines ih =>
      rw [List.forall_mem_cons, Lines.feed]
      rcases applyProgressLine_cases readJson state line with
        ⟨error, reads, applied⟩ | ⟨next, clean, applied, _⟩
      · simp [applied, reads]
      · simp only [applied, ih next]
        exact ⟨fun rest => ⟨clean, rest⟩, fun all => all.2⟩

theorem feed_message (state : JobState) (lines : List Bytes)
    (done : (Lines.feed (applyProgressLine readJson) state lines).2 = .ok ()) :
    (Lines.feed (applyProgressLine readJson) state lines).1.message =
      ((messages readJson lines).getLast?).getD state.message := by
  induction lines generalizing state with
  | nil => rfl
  | cons line lines ih =>
      rw [Lines.feed] at done ⊢
      rcases applyProgressLine_cases readJson state line with
        ⟨error, _, applied⟩ | ⟨next, _, applied, message⟩
      · simp [applied] at done
      · simp only [applied] at done ⊢
        rw [ih next done, message]
        simp only [messages, List.filterMap_cons]
        cases (readLine readJson line).message with
        | none => rfl
        | some first => simp [List.getLast?_cons]

theorem finalStatus_ok_iff {state : JobState} {message : String} :
    finalStatus state = .ok message ↔
      state.message = message ∧ "Status:".toList.isPrefixOf message.toList = true := by
  rw [finalStatus]
  split
  · rename_i final
    constructor
    · intro same
      cases same
      exact ⟨rfl, final⟩
    · rintro ⟨rfl, _⟩
      rfl
  · rename_i other
    constructor
    · intro same
      cases same
    · rintro ⟨rfl, final⟩
      exact absurd final other

theorem dockerPull_data (socket : String) {daemon : String → Except DaemonFailure DaemonResponse}
    {spec : PullSpec} {status : Nat} {reason : String} {frames : List Bytes}
    (answered : daemon (pullUri spec) = .ok ⟨status, reason, frames.map .data⟩)
    (success : isSuccess status = true) (state : JobState) :
    dockerPull readJson socket daemon spec state =
      match Lines.feed (applyProgressLine readJson) state (Lines.lines newline frames.flatten) with
      | (next, .error error) => (next, .error error)
      | (next, .ok _) => (next, finalStatus next) := by
  have loop := streamLoop_data readJson frames state [] (by simp)
  rw [List.nil_append] at loop
  rw [dockerPull, answered]
  simp only [success, if_true, loop]

theorem new_message_final (id : Nat) (spec : PullSpec) (lines : List Bytes) (message : String) :
    (((messages readJson lines).getLast?).getD (Job.new id spec).state.message = message ∧
      "Status:".toList.isPrefixOf message.toList = true) ↔
    (messages readJson lines).getLast? = some message ∧
      "Status:".toList.isPrefixOf message.toList = true := by
  cases (messages readJson lines).getLast? with
  | some reported => rw [Option.getD_some, Option.some.injEq]
  | none =>
      have plain : "Status:".toList.isPrefixOf "connecting to docker daemon".toList = false := by decide
      constructor
      · rintro ⟨rfl, final⟩
        rw [Option.getD_none, Job.new, plain] at final
        cases final
      · rintro ⟨none, _⟩
        cases none

/-- However the daemon's stream is cut into data frames, the job and the outcome of `docker_pull` are
those of its newline-terminated lines in order, up to the first error line; and the pull succeeds just
when there is no error line and the last status without an id is a final one. -/
theorem pull_stream_framing (socket : String)
    (daemon : String → Except DaemonFailure DaemonResponse) (id : Nat) (spec : PullSpec) (status : Nat)
    (reason : String) (stream : Bytes) (frames : List Bytes) (cut : frames.flatten = stream)
    (answered : daemon (pullUri spec) = .ok ⟨status, reason, frames.map .data⟩)
    (success : isSuccess status = true) :
    let lines := Lines.lines newline stream
    let applied := Lines.feed (applyProgressLine readJson) (Job.new id spec).state lines
    let pulled := dockerPull readJson socket daemon spec (Job.new id spec).state
    pulled.1 = applied.1 ∧
      pulled.2 = (match applied.2 with
        | .error error => .error error
        | .ok _ => finalStatus applied.1) ∧
      ∀ message, pulled.2 = .ok message ↔
        (∀ line ∈ lines, ∀ error, readLine readJson line ≠ .failure error) ∧
          (messages readJson lines).getLast? = some message ∧
          "Status:".toList.isPrefixOf message.toList = true := by
  subst cut
  intro lines applied pulled
  have whole : pulled = _ := dockerPull_data readJson socket answered success (Job.new id spec).state
  change pulled = match applied with
    | (next, .error error) => (next, .error error)
    | (next, .ok _) => (next, finalStatus next) at whole
  have clean : applied.2 = .ok () ↔ _ := feed_ok_iff readJson (Job.new id spec).state lines
  have told : applied.2 = .ok () → applied.1.message = _ :=
    feed_message readJson (Job.new id spec).state lines
  obtain ⟨next, outcome⟩ := applied
  cases outcome with
  | error error =>
      rw [whole]
      refine ⟨rfl, rfl, fun message => ⟨nofun, ?_⟩⟩
      rintro ⟨unfailed, _⟩
      cases clean.mpr unfailed
  | ok _ =>
      rw [whole]
      refine ⟨rfl, rfl, fun message => ?_⟩
      rw [finalStatus_ok_iff, told rfl, new_message_final]
      exact ⟨fun last => ⟨clean.mp rfl, last⟩, fun both => both.2⟩

end Stream

def knowsOne (input : String) : Option Json :=
  if input = "\x7b\"status\":\"Status: é\"\x7d" then some (.object [("status", .string "Status: é")])
  else none

def halves : List Bytes :=
  [(utf8Bytes "\x7b\"status\":\"Status: é").dropLast, [], 0xa9 :: utf8Bytes "\"\x7d\r\n\x7b"]

def redisPull : PullSpec :=
  ⟨"redis:alpine", "h:20516/library/redis", some "alpine", none, some "redis", some "alpine"⟩

theorem pull_stream_framing_halves :
    (dockerPull knowsOne "/run/docker.sock" (fun _ => .ok ⟨200, "OK", halves.map .data⟩) redisPull
      (Job.new 1 redisPull).state).2 = .ok "Status: é" := by
  have framed := pull_stream_framing knowsOne "/run/docker.sock"
    (fun _ => .ok ⟨200, "OK", halves.map .data⟩) 1 redisPull 200 "OK" halves.flatten halves rfl rfl rfl
  refine (framed.2.2 "Status: é").mpr ⟨?_, by decide +kernel, by decide⟩
  intro line member error
  have clean : ∀ line ∈ Lines.lines newline halves.flatten,
      readLine knowsOne line = .progress ⟨none, "Status: é", 0, 0⟩ := by decide +kernel
  rw [clean line member]
  exact nofun

end WebProxy.Pulls

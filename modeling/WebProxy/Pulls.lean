import WebProxy.Library.Machine
import WebProxy.Library.Slots
import WebProxy.ImageRef

/-! `PullManager` of `dockerpull.rs`: any number of `start` calls over one list of jobs, and the
task of each job. Every step is what happens under one lock, or one round of a loop over the jobs. -/

namespace WebProxy.Pulls

open ImageRef (PullSpec)

def maxFinishedJobs : Nat := 20

def maxActivePullJobs : Nat := 32

inductive JobStatus where
  | pulling
  | retagging
  | done
  | failed
  deriving DecidableEq, Repr

structure LayerState where
  status : String
  current : Nat
  total : Nat
  deriving DecidableEq, Repr

structure JobState where
  status : JobStatus
  message : String
  error : Option String
  layers : List (String × LayerState)
  layerOrder : List String
  deriving DecidableEq, Repr

structure ProgressLine where
  id : Option String
  status : String
  current : Nat
  total : Nat
  deriving DecidableEq, Repr

def LayerState.report (layer : LayerState) (line : ProgressLine) : LayerState :=
  ⟨line.status, if 0 < line.current then line.current else layer.current,
    if 0 < line.total then line.total else layer.total⟩

def JobState.progress (state : JobState) (line : ProgressLine) : JobState :=
  match line.id with
  | none => { state with message := line.status }
  | some id =>
      if state.layers.any (fun layer => layer.1 = id) then
        { state with layers := state.layers.map (fun layer =>
            if layer.1 = id then (id, layer.2.report line) else layer) }
      else
        { state with
          layers := state.layers ++ [(id, (⟨line.status, 0, 0⟩ : LayerState).report line)]
          layerOrder := state.layerOrder ++ [id] }

/-- Where the task of a job is: not spawned yet, in `docker_pull`, after its outcome is written,
decided to retag, in `docker_retag`, or over. -/
inductive RunStage where
  | unspawned
  | pulling
  | judged
  | chosen
  | retagging
  | ended
  deriving DecidableEq, Repr

def RunStage.allows : RunStage → JobStatus → Bool
  | .unspawned, status => status = .pulling
  | .pulling, status => status = .pulling
  | .judged, status => status = .done || status = .failed
  | .chosen, status => status = .done
  | .retagging, status => status = .retagging
  | .ended, status => status = .done || status = .failed

structure Job where
  id : Nat
  spec : PullSpec
  stage : RunStage
  state : JobState
  agrees : stage.allows state.status = true
  deriving DecidableEq

def Job.new (id : Nat) (spec : PullSpec) : Job :=
  ⟨id, spec, .unspawned, ⟨.pulling, "connecting to docker daemon", none, [], []⟩, rfl⟩

/-- `matches!(s.status, JobStatus::Pulling | JobStatus::Retagging)`. -/
def Job.active (job : Job) : Bool := job.state.status = .pulling || job.state.status = .retagging

inductive JobEvent where
  | progress (line : ProgressLine)
  | pullEnds (failure : Option String)
  | decide
  | mark
  | retagEnds (failure : Option String)
  deriving DecidableEq, Repr

/-- The end of `docker_pull`: an error on the way, or the last message when it is a final status. -/
def Job.pullOutcome (job : Job) : Option String → Except String String
  | some failure => .error failure
  | none =>
      if "Status:".toList.isPrefixOf job.state.message.toList then .ok job.state.message
      else .error ("docker pull stream ended without a final status (last: " ++ job.state.message ++ ")")

def JobState.settle (state : JobState) : Except String String → JobState
  | .ok message => { state with message := message, status := .done }
  | .error error => { state with error := some error, status := .failed }

theorem progress_status (state : JobState) (line : ProgressLine) :
    (state.progress line).status = state.status := by
  rw [JobState.progress]
  split
  · rfl
  · split <;> rfl

theorem settle_status (state : JobState) (outcome : Except String String) :
    (state.settle outcome).status = .done ∨ (state.settle outcome).status = .failed := by
  cases outcome with
  | ok message => exact Or.inl rfl
  | error error => exact Or.inr rfl

theorem settle_agrees {stage : RunStage} (state : JobState) (outcome : Except String String)
    (both : stage.allows .done = true ∧ stage.allows .failed = true) :
    stage.allows (state.settle outcome).status = true := by
  rcases settle_status state outcome with done | failed
  · rw [done]
    exact both.1
  · rw [failed]
    exact both.2

def Job.advance (job : Job) : JobEvent → Option Job
  | .progress line =>
      if job.stage = .pulling then
        some { job with
          state := job.state.progress line
          agrees := by rw [progress_status]; exact job.agrees }
      else none
  | .pullEnds failure =>
      if job.stage = .pulling then
        some { job with
          stage := .judged
          state := job.state.settle (job.pullOutcome failure)
          agrees := settle_agrees _ _ ⟨rfl, rfl⟩ }
      else none
  | .decide =>
      if judged : job.stage = .judged then
        if retags : job.spec.retagRepo.isSome ∧ job.state.status = .done then
          some { job with stage := .chosen, agrees := by rw [retags.2]; rfl }
        else some { job with stage := .ended, agrees := by have agrees := job.agrees; rwa [judged] at agrees }
      else none
  | .mark =>
      if job.stage = .chosen then
        some { job with
          stage := .retagging
          state := { job.state with status := .retagging }
          agrees := rfl }
      else none
  | .retagEnds failure =>
      if job.stage = .retagging then
        some { job with
          stage := .ended
          state := job.state.settle (match failure with
            | none => .ok ("已拉取并重命名为 " ++ job.spec.image)
            | some error => .error ("retag: " ++ error))
          agrees := settle_agrees _ _ ⟨rfl, rfl⟩ }
      else none

/-- Where a `start` call is. While it checks or trims it holds the lock of the job list. -/
inductive CallStage where
  | entering
  | checking (position count : Nat)
  | passed
  | created (job : Nat)
  | trimming (job position finished : Nat)
  | trimmed (job : Nat)
  | returned (job : Nat)
  | refused
  deriving DecidableEq, Repr

structure Call where
  spec : PullSpec
  stage : CallStage
  deriving DecidableEq, Repr

/-- `jobs` has every job ever made, `listed` the numbers of those in the manager's list, `holder`
the call that holds the lock of the list. -/
structure State where
  jobs : List Job
  listed : List Nat
  holder : Option Nat
  nextId : Nat
  calls : List Call
  deriving DecidableEq

inductive CallEvent where
  | enter
  | inspect (contended : Bool)
  | leave
  | create
  | push
  | trim (contended : Bool)
  | unlock
  | spawn
  deriving DecidableEq, Repr

inductive Event where
  | start (spec : PullSpec)
  | call (index : Nat) (event : CallEvent)
  | job (index : Nat) (event : JobEvent)
  deriving DecidableEq, Repr

def State.at (state : State) (index : Nat) (call : Call) (stage : CallStage) : State :=
  { state with calls := state.calls.set index { call with stage := stage } }

def State.before (state : State) (position : Nat) : Option (Nat × Job) :=
  (state.listed[position]?).bind (fun number => (state.jobs[number]?).map (fun job => (number, job)))

def callStep (state : State) (index : Nat) (call : Call) : CallEvent → Option State
  | .enter =>
      match call.stage with
      | .entering =>
          if state.holder = none then
            some { state.at index call (.checking 0 0) with holder := some index }
          else none
      | _ => none
  | .inspect contended =>
      match call.stage with
      | .checking position count =>
          match state.before position with
          | none => none
          | some (number, job) =>
              if contended || job.active then
                if job.spec.image = call.spec.image then
                  some { state.at index call (.returned number) with holder := none }
                else some (state.at index call (.checking (position + 1) (count + 1)))
              else some (state.at index call (.checking (position + 1) count))
      | _ => none
  | .leave =>
      match call.stage with
      | .checking position count =>
          if position = state.listed.length then
            some { state.at index call (if maxActivePullJobs ≤ count then .refused else .passed) with
              holder := none }
          else none
      | _ => none
  | .create =>
      match call.stage with
      | .passed =>
          some { state.at index call (.created state.jobs.length) with
            jobs := state.jobs ++ [Job.new state.nextId call.spec]
            nextId := (state.nextId + 1) % 2 ^ 64 }
      | _ => none
  | .push =>
      match call.stage with
      | .created number =>
          if state.holder = none then
            some { state.at index call (.trimming number 0 0) with
              listed := state.listed ++ [number]
              holder := some index }
          else none
      | _ => none
  | .trim contended =>
      match call.stage with
      | .trimming number position finished =>
          match state.before position with
          | none => none
          | some (_, job) =>
              if contended || job.active then
                some (state.at index call (.trimming number (position + 1) finished))
              else if finished + 1 ≤ maxFinishedJobs then
                some (state.at index call (.trimming number (position + 1) (finished + 1)))
              else
                some { state.at index call (.trimming number position (finished + 1)) with
                  listed := state.listed.eraseIdx position }
      | _ => none
  | .unlock =>
      match call.stage with
      | .trimming number position _ =>
          if position = state.listed.length then
            some { state.at index call (.trimmed number) with holder := none }
          else none
      | _ => none
  | .spawn =>
      match call.stage with
      | .trimmed number =>
          match state.jobs[number]? with
          | none => none
          | some job =>
              if fresh : job.stage = .unspawned then
                some { state.at index call (.returned number) with
                  jobs := state.jobs.set number
                    { job with
                      stage := .pulling
                      agrees := by have agrees := job.agrees; rwa [fresh] at agrees } }
              else none
      | _ => none

def step (state : State) : Event → Option State
  | .start spec => some { state with calls := state.calls ++ [⟨spec, .entering⟩] }
  | .call index event =>
      match state.calls[index]? with
      | none => none
      | some call => callStep state index call event
  | .job index event =>
      match state.jobs[index]? with
      | none => none
      | some job => (job.advance event).map (fun next =>
          { state with jobs := state.jobs.set index next })

def initial : State := ⟨[], [], none, 1, []⟩

/-- The job is done as far as its status goes, and its retag step is still to run. -/
def Job.due (job : Job) : Bool :=
  job.stage = .chosen ||
    (job.stage = .judged && job.spec.retagRepo.isSome && job.state.status = .done)

theorem Job.active_of_stage {job : Job}
    (working : job.stage = .unspawned ∨ job.stage = .pulling ∨ job.stage = .retagging) :
    job.active = true := by
  have agrees := job.agrees
  rcases working with stage | stage | stage <;> rw [stage] at agrees <;>
    simp only [RunStage.allows, decide_eq_true_eq] at agrees <;> simp [Job.active, agrees]

inductive Advance (job : Job) : JobEvent → Job → Prop
  | progress (line : ProgressLine) (after : Job) : job.stage = .pulling → after.stage = .pulling →
      after.state.status = job.state.status → Advance job (.progress line) after
  | pullEnds (failure : Option String) (after : Job) : job.stage = .pulling → after.stage = .judged →
      after.state = job.state.settle (job.pullOutcome failure) → Advance job (.pullEnds failure) after
  | retags (after : Job) : job.due = true → after.stage = .chosen → after.state = job.state →
      Advance job .decide after
  | ends (after : Job) : job.stage = .judged → job.due = false → after.stage = .ended →
      after.state = job.state → Advance job .decide after
  | mark (after : Job) : job.stage = .chosen → after.stage = .retagging → Advance job .mark after
  | retagEnds (failure : Option String) (after : Job) : job.stage = .retagging →
      after.stage = .ended → Advance job (.retagEnds failure) after

theorem advance_cases {job after : Job} {event : JobEvent} (taken : job.advance event = some after) :
    after.spec = job.spec ∧ Advance job event after := by
  cases event with
  | progress line =>
      simp only [Job.advance] at taken
      split at taken
      · rename_i pulling
        cases taken
        exact ⟨rfl, .progress line _ pulling pulling (progress_status job.state line)⟩
      · cases taken
  | pullEnds failure =>
      simp only [Job.advance] at taken
      split at taken
      · rename_i pulling
        cases taken
        exact ⟨rfl, .pullEnds failure _ pulling rfl rfl⟩
      · cases taken
  | decide =>
      simp only [Job.advance] at taken
      split at taken
      · rename_i judged
        split at taken
        · rename_i retags
          cases taken
          exact ⟨rfl, .retags _ (by simp [Job.due, judged, retags.1, retags.2]) rfl rfl⟩
        · rename_i stays
          cases taken
          refine ⟨rfl, .ends _ judged ?_ rfl rfl⟩
          simp only [Job.due, judged]
          simpa using stays
      · cases taken
  | mark =>
      simp only [Job.advance] at taken
      split at taken
      · rename_i chosen
        cases taken
        exact ⟨rfl, .mark _ chosen rfl⟩
      · cases taken
  | retagEnds failure =>
      simp only [Job.advance] at taken
      split at taken
      · rename_i retagging
        cases taken
        exact ⟨rfl, .retagEnds failure _ retagging rfl⟩
      · cases taken

inductive CallMove (state : State) (index : Nat) (call : Call) : CallEvent → State → Prop
  | enter : call.stage = .entering → state.holder = none → CallMove state index call .enter
      { state.at index call (.checking 0 0) with holder := some index }
  | found (contended : Bool) (position count number : Nat) (job : Job) :
      call.stage = .checking position count → state.before position = some (number, job) →
      (contended || job.active) = true → job.spec.image = call.spec.image → CallMove state index call (.inspect contended)
        { state.at index call (.returned number) with holder := none }
  | counted (contended : Bool) (position count number : Nat) (job : Job) :
      call.stage = .checking position count → state.before position = some (number, job) →
      (contended || job.active) = true → job.spec.image ≠ call.spec.image → CallMove state index call (.inspect contended)
        (state.at index call (.checking (position + 1) (count + 1)))
  | skipped (position count number : Nat) (job : Job) :
      call.stage = .checking position count → state.before position = some (number, job) →
      job.active = false → CallMove state index call (.inspect false)
        (state.at index call (.checking (position + 1) count))
  | refused (position count : Nat) : call.stage = .checking position count →
      position = state.listed.length → maxActivePullJobs ≤ count →
      CallMove state index call .leave { state.at index call .refused with holder := none }
  | passed (position count : Nat) : call.stage = .checking position count →
      position = state.listed.length → count < maxActivePullJobs →
      CallMove state index call .leave { state.at index call .passed with holder := none }
  | create : call.stage = .passed → CallMove state index call .create
      { state.at index call (.created state.jobs.length) with
        jobs := state.jobs ++ [Job.new state.nextId call.spec]
        nextId := (state.nextId + 1) % 2 ^ 64 }
  | push (number : Nat) : call.stage = .created number → state.holder = none →
      CallMove state index call .push
        { state.at index call (.trimming number 0 0) with
          listed := state.listed ++ [number]
          holder := some index }
  | spared (contended : Bool) (number position finished later : Nat) :
      call.stage = .trimming number position finished → CallMove state index call (.trim contended)
        (state.at index call (.trimming number (position + 1) later))
  | erased (number position finished other : Nat) (job : Job) :
      call.stage = .trimming number position finished → state.before position = some (other, job) →
      job.active = false → maxFinishedJobs ≤ finished → CallMove state index call (.trim false)
        { state.at index call (.trimming number position (finished + 1)) with
          listed := state.listed.eraseIdx position }
  | unlock (number position finished : Nat) : call.stage = .trimming number position finished →
      CallMove state index call .unlock { state.at index call (.trimmed number) with holder := none }
  | spawn (number : Nat) (job after : Job) : call.stage = .trimmed number →
      state.jobs[number]? = some job → job.stage = .unspawned → after.stage = .pulling →
      after.state = job.state → after.spec = job.spec → CallMove state index call .spawn
        { state.at index call (.returned number) with jobs := state.jobs.set number after }

theorem callStep_cases {state next : State} {index : Nat} {call : Call} {event : CallEvent}
    (taken : callStep state index call event = some next) : CallMove state index call event next := by
  cases event with
  | enter =>
      simp only [callStep] at taken
      split at taken
      · rename_i entering
        split at taken
        · rename_i unlocked
          cases taken
          exact .enter entering unlocked
        · cases taken
      · cases taken
  | inspect contended =>
      simp only [callStep] at taken
      split at taken
      · rename_i position count checking
        split at taken
        · cases taken
        · rename_i number job before
          split at taken
          · rename_i active
            split at taken
            · rename_i same
              cases taken
              exact .found contended position count number job checking before active same
            · rename_i different
              cases taken
              exact .counted contended position count number job checking before active different
          · rename_i unseen
            cases taken
            have seen : contended = false ∧ job.active = false := by simpa using unseen
            rw [seen.1]
            exact .skipped position count number job checking before seen.2
      · cases taken
  | leave =>
      simp only [callStep] at taken
      split at taken
      · rename_i position count checking
        split at taken
        · rename_i finished
          cases taken
          by_cases full : maxActivePullJobs ≤ count
          · rw [if_pos full]
            exact .refused position count checking finished full
          · rw [if_neg full]
            exact .passed position count checking finished (Nat.not_le.mp full)
        · cases taken
      · cases taken
  | create =>
      simp only [callStep] at taken
      split at taken
      · rename_i passed
        cases taken
        exact .create passed
      · cases taken
  | push =>
      simp only [callStep] at taken
      split at taken
      · rename_i number created
        split at taken
        · rename_i unlocked
          cases taken
          exact .push number created unlocked
        · cases taken
      · cases taken
  | trim contended =>
      simp only [callStep] at taken
      split at taken
      · rename_i number position finished trimming
        split at taken
        · cases taken
        · rename_i other job before
          split at taken
          · cases taken
            exact .spared contended number position finished finished trimming
          · rename_i unseen
            have seen : contended = false ∧ job.active = false := by simpa using unseen
            split at taken
            · cases taken
              exact .spared contended number position finished (finished + 1) trimming
            · rename_i many
              cases taken
              rw [seen.1]
              exact .erased number position finished other job trimming before seen.2 (by omega)
      · cases taken
  | unlock =>
      simp only [callStep] at taken
      split at taken
      · rename_i number position finished trimming
        split at taken
        · cases taken
          exact .unlock number position finished trimming
        · cases taken
      · cases taken
  | spawn =>
      simp only [callStep] at taken
      split at taken
      · rename_i number trimmed
        split at taken
        · cases taken
        · rename_i job held
          split at taken
          · rename_i fresh
            cases taken
            exact .spawn number job _ trimmed held fresh rfl rfl rfl
          · cases taken
      · cases taken

inductive Move (state : State) : Event → State → Prop
  | start (spec : PullSpec) : Move state (.start spec)
      { state with calls := state.calls ++ [⟨spec, .entering⟩] }
  | call (index : Nat) (call : Call) (event : CallEvent) (next : State) :
      state.calls[index]? = some call → CallMove state index call event next →
      Move state (.call index event) next
  | job (number : Nat) (job after : Job) (event : JobEvent) : state.jobs[number]? = some job →
      after.spec = job.spec → Advance job event after →
      Move state (.job number event) { state with jobs := state.jobs.set number after }

theorem step_cases {state next : State} {event : Event} (taken : step state event = some next) :
    Move state event next := by
  cases event with
  | start spec =>
      cases taken
      exact .start spec
  | call index event =>
      simp only [step] at taken
      split at taken
      · cases taken
      · rename_i call held
        exact .call index call event next held (callStep_cases taken)
  | job number event =>
      simp only [step] at taken
      split at taken
      · cases taken
      · rename_i job held
        obtain ⟨after, advanced, rfl⟩ := Option.map_eq_some_iff.mp taken
        obtain ⟨spec, moves⟩ := advance_cases advanced
        exact .job number job after event held spec moves

end WebProxy.Pulls

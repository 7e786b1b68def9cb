import WebProxy.Pulls

/-! The status of a pull job along its task: which changes an observer can see after `Done` or
`Failed`. -/

namespace WebProxy.Pulls

/-- What a step does to the jobs: nothing, a new job at the end, or a change of one of them, by the
call that spawns it or by its own task. -/
inductive JobsMove (state : State) (event : Event) : List Job → Prop
  | kept : JobsMove state event state.jobs
  | created (id : Nat) (spec : ImageRef.PullSpec) :
      JobsMove state event (state.jobs ++ [Job.new id spec])
  | spawned (number : Nat) (job after : Job) : state.jobs[number]? = some job →
      job.stage = .unspawned → after.stage = .pulling → after.state = job.state →
      JobsMove state event (state.jobs.set number after)
  | advanced (number : Nat) (change : JobEvent) (job after : Job) : event = .job number change →
      state.jobs[number]? = some job → after.spec = job.spec → Advance job change after →
      JobsMove state event (state.jobs.set number after)

theorem step_jobs {state next : State} {event : Event} (taken : step state event = some next) :
    JobsMove state event next.jobs := by
  cases step_cases taken with
  | start spec => exact .kept
  | call index call change _ held move =>
      cases move with
      | create => exact .created state.nextId call.spec
      | spawn number job after _ held fresh stage same _ =>
          exact .spawned number job after held fresh stage same
      | _ => exact .kept
  | job number job after change held spec moves =>
      exact .advanced number change job after rfl held spec moves

def JobStatus.terminal (status : JobStatus) : Prop := status = .done ∨ status = .failed

/-- No pull succeeds for a job that has a retag step to follow. -/
def PullsWithoutRetag (state : State) : Event → Prop
  | .job number (.pullEnds failure) => ∀ (job : Job) (message : String),
      state.jobs[number]? = some job → job.pullOutcome failure = .ok message →
      job.spec.retagRepo = none
  | _ => True

def NoneDue (jobs : List Job) : Prop :=
  ∀ (number : Nat) (job : Job), jobs[number]? = some job → job.due = false

theorem due_of_stage {job : Job} (chosen : job.stage ≠ .chosen) (judged : job.stage ≠ .judged) :
    job.due = false := by
  simp [Job.due, chosen, judged]

theorem Advance.undue {job after : Job} {change : JobEvent} (moves : Advance job change after)
    (spec : after.spec = job.spec) (undue : job.due = false)
    (untagged : ∀ failure message, change = .pullEnds failure →
      job.pullOutcome failure = .ok message → job.spec.retagRepo = none) : after.due = false := by
  cases moves with
  | progress line _ _ stage _ => exact due_of_stage (by simp [stage]) (by simp [stage])
  | pullEnds failure _ _ stage same =>
      cases outcome : job.pullOutcome failure with
      | ok message =>
          have none := untagged failure message rfl outcome
          simp [Job.due, stage, spec, none]
      | error error =>
          rw [outcome] at same
          simp [Job.due, stage, same, JobState.settle]
  | retags _ due _ _ =>
      rw [undue] at due
      cases due
  | ends _ _ _ stage _ => exact due_of_stage (by simp [stage]) (by simp [stage])
  | mark _ chosen _ => simp [Job.due, chosen] at undue
  | retagEnds _ _ _ stage => exact due_of_stage (by simp [stage]) (by simp [stage])

theorem noneDue_step {state next : State} {event : Event} (undue : NoneDue state.jobs)
    (untagged : PullsWithoutRetag state event) (taken : step state event = some next) :
    NoneDue next.jobs := by
  intro other found located
  have moved := step_jobs taken
  generalize next.jobs = later at moved located
  cases moved with
  | kept => exact undue other found located
  | created id spec =>
      rcases Slots.get_snoc_cases located with old | ⟨_, rfl⟩
      · exact undue other found old
      · rfl
  | spawned number job after held _ stage _ =>
      rcases Slots.get_set_cases located with ⟨_, rfl⟩ | ⟨_, old⟩
      · exact due_of_stage (by simp [stage]) (by simp [stage])
      · exact undue other found old
  | advanced number change job after same held spec moves =>
      subst same
      rcases Slots.get_set_cases located with ⟨_, rfl⟩ | ⟨_, old⟩
      · refine moves.undue spec (undue number job held) ?_
        intro failure message ends outcome
        subst ends
        exact untagged job message held outcome
      · exact undue other found old

theorem not_terminal_of_active {job : Job} (active : job.active = true) :
    ¬ job.state.status.terminal := by
  simp only [Job.active, Bool.or_eq_true, decide_eq_true_eq] at active
  rcases active with pulling | retagging
  · simp [JobStatus.terminal, pulling]
  · simp [JobStatus.terminal, retagging]

theorem Advance.keeps {job after : Job} {change : JobEvent} (moves : Advance job change after)
    (undue : job.due = false) (terminal : job.state.status.terminal) :
    after.state.status = job.state.status := by
  cases moves with
  | progress line _ _ _ same => exact same
  | pullEnds failure _ stage _ _ =>
      have active := Job.active_of_stage (Or.inr (Or.inl stage))
      exact absurd terminal (not_terminal_of_active active)
  | retags _ due _ _ =>
      rw [undue] at due
      cases due
  | ends _ _ _ _ same => rw [same]
  | mark _ chosen _ => simp [Job.due, chosen] at undue
  | retagEnds _ _ stage _ =>
      have active := Job.active_of_stage (Or.inr (Or.inr stage))
      exact absurd terminal (not_terminal_of_active active)

def HasStatus (jobs : List Job) (number : Nat) (status : JobStatus) : Prop :=
  ∃ job, jobs[number]? = some job ∧ job.state.status = status

theorem hasStatus_step {state next : State} {event : Event} {number : Nat} {status : JobStatus}
    (undue : NoneDue state.jobs) (terminal : status.terminal)
    (has : HasStatus state.jobs number status) (taken : step state event = some next) :
    HasStatus next.jobs number status := by
  have moved := step_jobs taken
  generalize next.jobs = later at moved ⊢
  cases moved with
  | kept => exact has
  | created id spec =>
      obtain ⟨job, held, status⟩ := has
      exact ⟨job, Slots.get_snoc _ held, status⟩
  | spawned other found after located _ _ same =>
      refine Slots.set_keeps located ?_ has
      intro before
      rw [same, before]
  | advanced other change found after _ located _ moves =>
      refine Slots.set_keeps located ?_ has
      intro before
      rw [← before] at terminal
      exact (moves.keeps (undue other found located) terminal).trans before

/-- In every state of the run no job is due, and from every state on a terminal status stays what
it is. -/
structure TerminalAbsorbing (events : List Event) : Prop where
  undue : ∀ (front : List Event) (state : State), front <+: events →
    Machine.run step initial front = some state → NoneDue state.jobs
  absorbing : ∀ (front middle : List Event) (state later : State) (number : Nat) (job : Job),
    front ++ middle <+: events → Machine.run step initial front = some state →
    Machine.run step state middle = some later → state.jobs[number]? = some job →
    job.state.status.terminal →
    ∃ after, later.jobs[number]? = some after ∧ after.state.status = job.state.status

theorem due_of_pull {middle next : State} {number : Nat} {failure : Option String} {job : Job}
    {message repo : String} (held : middle.jobs[number]? = some job)
    (outcome : job.pullOutcome failure = .ok message) (tagged : job.spec.retagRepo = some repo)
    (taken : step middle (.job number (.pullEnds failure)) = some next) : ¬ NoneDue next.jobs := by
  intro undue
  cases step_cases taken with
  | job _ found after _ located spec moves =>
      rw [held] at located
      cases located
      cases moves with
      | pullEnds _ _ _ stage same =>
          have due := undue number after (Slots.get_set_self after held)
          rw [outcome] at same
          simp [Job.due, stage, spec, tagged, same, JobState.settle] at due

theorem pullsWithoutRetag_of_absorbing {events : List Event} {final : State}
    (ran : Machine.run step initial events = some final) (absorbing : TerminalAbsorbing events) :
    Machine.Along step PullsWithoutRetag initial events := by
  apply Machine.along_of_prefixes ran
  intro front event back middle next split reached taken
  cases event with
  | job number change =>
      cases change with
      | pullEnds failure =>
          intro job message held outcome
          have later : Machine.run step initial (front ++ [.job number (.pullEnds failure)]) =
              some next := Machine.run_snoc reached taken
          have begins : front ++ [.job number (.pullEnds failure)] <+: events :=
            ⟨back, by rw [split, List.append_assoc]; rfl⟩
          cases tagged : job.spec.retagRepo with
          | none => rfl
          | some repo =>
              exact absurd (absorbing.undue _ next begins later)
                (due_of_pull held outcome tagged taken)
      | _ => trivial
  | _ => trivial

theorem noneDue_run {front : List Event} {state : State}
    (met : Machine.Along step PullsWithoutRetag initial front)
    (ran : Machine.run step initial front = some state) : NoneDue state.jobs := by
  refine Machine.along_invariant (fun state => NoneDue state.jobs) (fun _ _ _ => noneDue_step) ?_ met ran
  intro number job held
  cases held

/-- Terminal statuses are absorbing in exactly the runs in which no pull succeeds for a job with a
retag step. -/
theorem terminal_absorbing_iff (events : List Event) (final : State)
    (ran : Machine.run step initial events = some final) :
    TerminalAbsorbing events ↔ Machine.Along step PullsWithoutRetag initial events := by
  constructor
  · exact pullsWithoutRetag_of_absorbing ran
  · intro met
    constructor
    · intro front state begins reached
      obtain ⟨rest, rfl⟩ := begins
      exact noneDue_run (Machine.along_append met reached).1 reached
    · intro front middle state later number job begins reached ended held terminal
      obtain ⟨rest, rfl⟩ := begins
      rw [List.append_assoc] at met
      obtain ⟨early, late⟩ := Machine.along_append met reached
      have along := (Machine.along_append late ended).1
      have kept := Machine.along_invariant
        (fun state => NoneDue state.jobs ∧ HasStatus state.jobs number job.state.status)
        (fun _ _ _ both untagged taken => ⟨noneDue_step both.1 untagged taken,
          hasStatus_step both.1 terminal both.2 taken⟩)
        ⟨noneDue_run early reached, job, held, rfl⟩ along ended
      exact kept.2

def sampleSpec (retag : Option String) : ImageRef.PullSpec :=
  ⟨"redis:alpine", "h/library/redis", some "alpine", none, retag, retag.map (fun _ => "alpine")⟩

def pulledEvents (spec : ImageRef.PullSpec) : List Event :=
  [.start spec, .call 0 .enter, .call 0 .leave, .call 0 .create, .call 0 .push, .call 0 (.trim false),
    .call 0 .unlock, .call 0 .spawn, .job 0 (.progress ⟨none, "Status: Downloaded newer image", 0, 0⟩),
    .job 0 (.pullEnds none)]

theorem terminal_absorbing_untagged :
    TerminalAbsorbing (pulledEvents (sampleSpec none)) ↔
      Machine.Along step PullsWithoutRetag initial (pulledEvents (sampleSpec none)) := by
  have ends : (Machine.run step initial (pulledEvents (sampleSpec none))).isSome = true := by
    decide +kernel
  obtain ⟨final, ran⟩ := Option.isSome_iff_exists.mp ends
  exact terminal_absorbing_iff (pulledEvents (sampleSpec none)) final ran

/-- An ordinary pull shows `Done`, then `Retagging`. -/
theorem done_turns_into_retagging :
    let events := pulledEvents (sampleSpec (some "redis"))
    (Machine.run step initial events).map (fun state => state.jobs.map (·.state.status)) =
        some [.done] ∧
      (Machine.run step initial (events ++ [.job 0 .decide, .job 0 .mark])).map
        (fun state => state.jobs.map (·.state.status)) = some [.retagging] := by
  decide +kernel

end WebProxy.Pulls

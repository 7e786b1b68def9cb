import WebProxy.PullLimits

/-! The list of jobs after `start` has inserted one: the loop of `retain` with its count of finished
jobs, and which of them it keeps. -/

namespace WebProxy.Pulls

open Machine (run)

def retained (finished : Nat → Bool) : Nat → List Nat → List Nat
  | _, [] => []
  | count, number :: rest =>
      if finished number then
        if count + 1 ≤ maxFinishedJobs then number :: retained finished (count + 1) rest
        else retained finished (count + 1) rest
      else number :: retained finished count rest

def spared (finished : Nat → Bool) (count number : Nat) : List Nat :=
  if finished number = true ∧ maxFinishedJobs < count + 1 then [] else [number]

def counted (finished : Nat → Bool) (count number : Nat) : Nat :=
  if finished number then count + 1 else count

theorem retained_cons (finished : Nat → Bool) (count number : Nat) (rest : List Nat) :
    retained finished count (number :: rest) =
      spared finished count number ++ retained finished (counted finished count number) rest := by
  rw [retained, spared, counted]
  by_cases ended : finished number = true
  · by_cases few : count + 1 ≤ maxFinishedJobs
    · simp [ended, few, Nat.not_lt.mpr few]
    · simp [ended, few, Nat.lt_of_not_le few]
  · simp [ended]

/-- What the comment at the loop promises: every active job stays, and of the finished ones the newest,
in the order they are in. -/
structure KeepsNewest (finished : Nat → Bool) (before after : List Nat) : Prop where
  order : after.Sublist before
  active : ∀ number ∈ before, finished number = false → number ∈ after
  newest : after.filter finished =
    (before.filter finished).drop ((before.filter finished).length - maxFinishedJobs)

theorem retained_few {finished : Nat → Bool} {jobs : List Nat} {count : Nat}
    (few : count + jobs.countP finished ≤ maxFinishedJobs) : retained finished count jobs = jobs := by
  induction jobs generalizing count with
  | nil => rfl
  | cons number rest ih =>
      rw [List.countP_cons] at few
      rw [retained]
      by_cases ended : finished number = true
      · rw [if_pos ended] at few ⊢
        rw [if_pos (by omega), ih (by omega)]
      · rw [if_neg ended] at few ⊢
        rw [ih (by omega)]

theorem retained_first {finished : Nat → Bool} {front : List Nat}
    (active : ∀ number ∈ front, finished number = false) (number : Nat) (back : List Nat) :
    number ∈ retained finished 0 (front ++ number :: back) := by
  induction front with
  | nil =>
      rw [List.nil_append, retained]
      split
      · rw [if_pos (by decide)]
        exact List.mem_cons_self
      · exact List.mem_cons_self
  | cons first front ih =>
      rw [List.forall_mem_cons] at active
      rw [List.cons_append, retained, if_neg (by simp [active.1])]
      exact List.mem_cons_of_mem _ (ih active.2)

/-- With any of the finished jobs taken for active, the loop keeps the newest just when the finished
ones are few: the oldest of them always stays. -/
theorem retained_newest_iff {finished seen : Nat → Bool} {jobs : List Nat} (distinct : jobs.Nodup)
    (ended : ∀ number, seen number = true → finished number = true) :
    KeepsNewest finished jobs (retained seen 0 jobs) ↔ jobs.countP finished ≤ maxFinishedJobs := by
  constructor
  · intro keeps
    by_contra many
    rw [List.countP_eq_length_filter] at many
    have some_finished : jobs.filter finished ≠ [] := by
      intro none
      rw [none] at many
      exact many (Nat.zero_le _)
    obtain ⟨oldest, later, shape⟩ := List.exists_cons_of_ne_nil some_finished
    obtain ⟨front, back, split, active, isOver, rest⟩ := List.filter_eq_cons_iff.mp shape
    have unseen : ∀ number ∈ front, seen number = false := by
      intro number member
      have still := active number member
      cases told : seen number with
      | false => rfl
      | true => exact absurd (ended number told) still
    have stays := retained_first unseen oldest back
    rw [← split] at stays
    have shown : oldest ∈ (retained seen 0 jobs).filter finished := List.mem_filter.mpr ⟨stays, isOver⟩
    -- the newest ones leave out the oldest when there are more than the limit
    have dropped : ∃ extra, (jobs.filter finished).length - maxFinishedJobs = extra + 1 :=
      ⟨(jobs.filter finished).length - maxFinishedJobs - 1, by omega⟩
    obtain ⟨extra, count⟩ := dropped
    rw [keeps.newest, count, shape, List.drop_succ_cons] at shown
    have once : (jobs.filter finished).Nodup := distinct.filter finished
    rw [shape, List.nodup_cons] at once
    exact once.1 (List.mem_of_mem_drop shown)
  · intro few
    have same : retained seen 0 jobs = jobs := by
      apply retained_few
      rw [Nat.zero_add]
      exact (List.countP_mono_left (fun number _ => ended number)).trans few
    rw [same]
    refine ⟨List.Sublist.refl jobs, fun number member _ => member, ?_⟩
    rw [List.countP_eq_length_filter] at few
    rw [Nat.sub_eq_zero_of_le few, List.drop_zero]

/-- Where the numbers of the jobs are: at most once in the list, and not there yet while the one call
that has made the job is still to insert it. -/
structure Placed (size : Nat) (listed : List Nat) (calls : List Call) : Prop where
  distinct : listed.Nodup
  bounded : ∀ number ∈ listed, number < size
  created : ∀ (index : Nat) (call : Call) (number : Nat), calls[index]? = some call →
    call.stage = .created number → number < size ∧ number ∉ listed
  single : ∀ (one two : Nat) (first second : Call) (number : Nat), calls[one]? = some first →
    calls[two]? = some second → first.stage = .created number → second.stage = .created number → one = two

def State.placed (state : State) : Prop := Placed state.jobs.length state.listed state.calls

section Places

variable {size : Nat} {listed : List Nat} {calls : List Call}

theorem Placed.mono (placed : Placed size listed calls) {fewer : List Nat} (part : fewer.Sublist listed)
    {later : List Call}
    (old : ∀ (index : Nat) (maker : Call) (number : Nat), later[index]? = some maker →
      maker.stage = .created number → calls[index]? = some maker) : Placed size fewer later := by
  constructor
  · exact placed.distinct.sublist part
  · intro number member
    exact placed.bounded number (part.subset member)
  · intro index maker number located made
    obtain ⟨below, absent⟩ := placed.created index maker number (old index maker number located made) made
    exact ⟨below, fun member => absent (part.subset member)⟩
  · intro one two first second number left right madeLeft madeRight
    exact placed.single one two first second number (old one first number left madeLeft)
      (old two second number right madeRight) madeLeft madeRight

theorem Placed.quiet (placed : Placed size listed calls) {fewer : List Nat} (part : fewer.Sublist listed)
    (index : Nat) (call : Call) (unmade : ∀ number, call.stage ≠ .created number) :
    Placed size fewer (calls.set index call) := by
  apply placed.mono part
  intro other maker number located made
  rcases Slots.get_set_cases located with ⟨_, rfl⟩ | ⟨_, found⟩
  · exact absurd made (unmade number)
  · exact found

theorem Placed.start (placed : Placed size listed calls) (spec : ImageRef.PullSpec) :
    Placed size listed (calls ++ [⟨spec, .entering⟩]) := by
  apply placed.mono (List.Sublist.refl listed)
  intro other maker number located made
  rcases Slots.get_snoc_cases located with found | ⟨_, rfl⟩
  · exact found
  · cases made

theorem Placed.create (placed : Placed size listed calls) (index : Nat) (call : Call) :
    Placed (size + 1) listed (calls.set index { call with stage := .created size }) := by
  have cases : ∀ (other : Nat) (maker : Call) (number : Nat),
      (calls.set index { call with stage := .created size })[other]? = some maker →
      maker.stage = .created number → other = index ∧ number = size ∨
        calls[other]? = some maker ∧ number < size ∧ number ∉ listed := by
    intro other maker number located made
    rcases Slots.get_set_cases located with ⟨rfl, rfl⟩ | ⟨_, found⟩
    · cases made
      exact Or.inl ⟨rfl, rfl⟩
    · exact Or.inr ⟨found, placed.created other maker number found made⟩
  constructor
  · exact placed.distinct
  · intro number member
    exact Nat.lt_succ_of_lt (placed.bounded number member)
  · intro other maker number located made
    rcases cases other maker number located made with ⟨_, rfl⟩ | ⟨_, below, absent⟩
    · exact ⟨Nat.lt_succ_self _, fun member => absurd (placed.bounded _ member) (lt_irrefl _)⟩
    · exact ⟨Nat.lt_succ_of_lt below, absent⟩
  · intro one two first second number left right madeLeft madeRight
    rcases cases one first number left madeLeft with ⟨rfl, same⟩ | ⟨oldLeft, below, _⟩
    · rcases cases two second number right madeRight with ⟨rfl, _⟩ | ⟨_, below, _⟩
      · rfl
      · omega
    · rcases cases two second number right madeRight with ⟨_, same⟩ | ⟨oldRight, _, _⟩
      · omega
      · exact placed.single one two first second number oldLeft oldRight madeLeft madeRight

theorem Placed.push (placed : Placed size listed calls) {index number : Nat} {call : Call}
    (held : calls[index]? = some call) (made : call.stage = .created number) (stage : CallStage)
    (unmade : ∀ number, stage ≠ .created number) :
    Placed size (listed ++ [number]) (calls.set index { call with stage := stage }) := by
  obtain ⟨below, absent⟩ := placed.created index call number held made
  have moved := placed.quiet (List.Sublist.refl listed) index { call with stage := stage } unmade
  constructor
  · rw [List.nodup_append]
    refine ⟨placed.distinct, by simp, ?_⟩
    intro other member last inside same
    rw [List.mem_singleton.mp inside] at same
    exact absent (same ▸ member)
  · intro other member
    rcases List.mem_append.mp member with old | new
    · exact placed.bounded other old
    · rw [List.mem_singleton.mp new]
      exact below
  · intro other maker later located makes
    obtain ⟨small, outside⟩ := moved.created other maker later located makes
    refine ⟨small, ?_⟩
    intro member
    rcases List.mem_append.mp member with old | new
    · exact outside old
    · -- no other call has made the inserted job
      rw [List.mem_singleton.mp new] at makes
      rcases Slots.get_set_cases located with ⟨_, rfl⟩ | ⟨different, found⟩
      · exact unmade number makes
      · exact different (placed.single other index maker call number found held makes made)
  · exact moved.single

end Places

theorem placed_step {state next : State} {event : Event} (placed : state.placed)
    (taken : step state event = some next) : next.placed := by
  cases step_cases taken with
  | start spec => exact Placed.start placed spec
  | call index call change _ held move =>
      cases move with
      | create made =>
          have created := Placed.create placed index call
          rw [State.placed, List.length_append]
          exact created
      | push number made _ => exact Placed.push placed held made _ nofun
      | erased number position finished other job _ _ _ _ =>
          exact Placed.quiet placed (List.eraseIdx_sublist _ _) index _ nofun
      | spawn number job after _ _ _ _ _ _ =>
          rw [State.placed, List.length_set]
          exact Placed.quiet placed (List.Sublist.refl _) index _ nofun
      | _ => exact Placed.quiet placed (List.Sublist.refl _) index _ nofun
  | job number job after change held _ _ =>
      rw [State.placed, List.length_set]
      exact placed

theorem placed_initial : initial.placed := by
  constructor <;> intros <;> simp_all [initial]

theorem placed_run {state : State} {events : List Event} (ran : run step initial events = some state) :
    state.placed :=
  Machine.run_invariant State.placed (fun _ _ _ => placed_step) placed_initial ran

def State.finishedAt (state : State) (number : Nat) : Bool :=
  (state.jobs[number]?).any (fun job => !job.active)

def State.seenAt (state : State) (contended : Nat → Bool) (number : Nat) : Bool :=
  state.finishedAt number && !contended number

theorem step_trim {state : State} {index number count other : Nat} {call : Call} {kept rest : List Nat}
    (contended : Nat → Bool) (held : state.calls[index]? = some call)
    (trimming : call.stage = .trimming number kept.length count)
    (listed : state.listed = kept ++ other :: rest) (made : other < state.jobs.length) :
    step state (.call index (.trim (contended other))) =
      some { state.at index call (.trimming number
          (kept ++ spared (state.seenAt contended) count other).length
          (counted (state.seenAt contended) count other)) with
        listed := (kept ++ spared (state.seenAt contended) count other) ++ rest } := by
  obtain ⟨job, found⟩ : ∃ job, state.jobs[other]? = some job := ⟨_, List.getElem?_eq_getElem made⟩
  have before : state.before kept.length = some (other, job) := by
    rw [State.before, listed, List.getElem?_append_right le_rfl, Nat.sub_self, List.getElem?_cons_zero,
      Option.bind_some, found, Option.map_some]
  have shorter : state.listed.eraseIdx kept.length = kept ++ rest := by
    rw [listed, List.eraseIdx_append_of_length_le le_rfl, Nat.sub_self, List.eraseIdx_zero, List.tail_cons]
  have same : kept ++ [other] ++ rest = state.listed := by
    rw [listed, List.append_assoc, List.singleton_append]
  have seen : state.seenAt contended other = !(contended other || job.active) := by
    rw [State.seenAt, State.finishedAt, found, Option.any_some, Bool.not_or, Bool.and_comm]
  simp only [step, held, callStep, trimming, before, shorter, spared, counted, seen]
  cases contended other || job.active with
  | true => simp [same, State.at]
  | false =>
      by_cases few : count + 1 ≤ maxFinishedJobs
      · simp [few, Nat.not_lt.mpr few, same, State.at]
      · simp [few, Nat.lt_of_not_le few]

theorem run_trim (contended : Nat → Bool) {index number : Nat} (rest : List Nat) {state : State}
    {call : Call} {kept : List Nat} {count : Nat} (held : state.calls[index]? = some call)
    (trimming : call.stage = .trimming number kept.length count) (listed : state.listed = kept ++ rest)
    (made : ∀ other ∈ rest, other < state.jobs.length) :
    ∃ (after : State) (later : Nat),
      run step state (rest.map (fun other => .call index (.trim (contended other)))) = some after ∧
        after.jobs = state.jobs ∧ after.listed = kept ++ retained (state.seenAt contended) count rest ∧
        after.calls[index]? = some { call with stage := .trimming number after.listed.length later } := by
  induction rest generalizing state call kept count with
  | nil =>
      rw [List.append_nil] at listed
      refine ⟨state, count, rfl, rfl, ?_, ?_⟩
      · rw [listed, retained, List.append_nil]
      · rw [held, listed, ← trimming]
  | cons other rest ih =>
      rw [List.forall_mem_cons] at made
      have taken := step_trim contended held trimming listed made.1
      obtain ⟨after, later, ran, jobs, ends, stands⟩ :=
        @ih { state.at index call (.trimming number
            (kept ++ spared (state.seenAt contended) count other).length
            (counted (state.seenAt contended) count other)) with
          listed := (kept ++ spared (state.seenAt contended) count other) ++ rest } _
          (kept ++ spared (state.seenAt contended) count other) _ (Slots.get_set_self _ held) rfl rfl made.2
      refine ⟨after, later, ?_, jobs, ?_, stands⟩
      · rw [List.map_cons, Machine.run_cons, taken, Option.bind_some]
        exact ran
      · rw [ends, retained_cons, List.append_assoc]
        rfl

/-- The steps of the second critical section of `start`: the insertion of a job, one round of the loop
for each job of the list, and the end of the section. -/
def insertionEvents (index : Nat) (contended : Nat → Bool) (jobs : List Nat) : List Event :=
  .call index .push :: jobs.map (fun number => .call index (.trim (contended number))) ++
    [.call index .unlock]

theorem run_insertion (contended : Nat → Bool) {state : State} (placed : state.placed)
    {index number : Nat} {call : Call} (held : state.calls[index]? = some call)
    (created : call.stage = .created number) (unlocked : state.holder = none) :
    ∃ after, run step state (insertionEvents index contended (state.listed ++ [number])) = some after ∧
      after.jobs = state.jobs ∧
      after.listed = retained (state.seenAt contended) 0 (state.listed ++ [number]) := by
  have pushed : step state (.call index .push) =
      some { state.at index call (.trimming number 0 0) with
        listed := state.listed ++ [number]
        holder := some index } := by
    simp [step, held, callStep, created, unlocked]
  have made : ∀ other ∈ state.listed ++ [number], other < state.jobs.length := by
    intro other member
    rcases List.mem_append.mp member with old | new
    · exact placed.bounded other old
    · rw [List.mem_singleton.mp new]
      exact (placed.created index call number held created).1
  obtain ⟨trimmed, later, ran, jobs, listed, stands⟩ :=
    @run_trim contended index number (state.listed ++ [number])
      { state.at index call (.trimming number 0 0) with
        listed := state.listed ++ [number]
        holder := some index }
      { call with stage := .trimming number 0 0 } [] 0 (Slots.get_set_self _ held) rfl rfl made
  obtain ⟨after, ended, sameJobs, sameListed⟩ : ∃ after, step trimmed (.call index .unlock) = some after ∧
      after.jobs = trimmed.jobs ∧ after.listed = trimmed.listed := by
    simp only [step, stands, callStep, if_true]
    exact ⟨_, rfl, rfl, rfl⟩
  refine ⟨after, ?_, sameJobs.trans jobs, sameListed.trans listed⟩
  rw [insertionEvents, List.cons_append, Machine.run_cons, pushed, Option.bind_some, Machine.run_append,
    ran, Option.bind_some, Machine.run_cons, ended]
  rfl

/-- Whatever the mix of active and finished jobs and whichever locks are taken, `start` leaves every
active job and the newest finished ones just when no more jobs than the limit have finished. -/
theorem start_keeps_newest_iff (state : State) (placed : state.placed) (index number : Nat) (call : Call)
    (held : state.calls[index]? = some call) (created : call.stage = .created number)
    (unlocked : state.holder = none) (contended : Nat → Bool) :
    ∃ after, run step state (insertionEvents index contended (state.listed ++ [number])) = some after ∧
      after.jobs = state.jobs ∧
      (KeepsNewest state.finishedAt (state.listed ++ [number]) after.listed ↔
        (state.listed ++ [number]).countP state.finishedAt ≤ maxFinishedJobs) := by
  obtain ⟨after, ran, jobs, listed⟩ := run_insertion contended placed held created unlocked
  refine ⟨after, ran, jobs, ?_⟩
  have inserted := Placed.push placed held created (.trimming number 0 0) nofun
  rw [listed]
  apply retained_newest_iff inserted.distinct
  intro other seen
  exact (Bool.and_eq_true_iff.mp seen).1

def createEvents (index : Nat) : List Event :=
  [.start redis, .call index .enter] ++ List.replicate index (.call index (.inspect false)) ++
    [.call index .leave, .call index .create]

/-- Pulls one after the other, each of them failed before the next one starts, and the start of one
more. -/
def failedPulls (count : Nat) : List Event :=
  (List.range count).flatMap (fun index =>
    createEvents index ++ insertionEvents index (fun _ => false) (List.range (index + 1)) ++
      [.call index .spawn, .job index (.pullEnds (some "docker api HTTP 500 Internal Server Error"))]) ++
    createEvents count

theorem start_keeps_newest_two :
    ∃ state after, run step initial (failedPulls 2) = some state ∧
      run step state (insertionEvents 2 (fun _ => true) (state.listed ++ [2])) = some after ∧
      KeepsNewest state.finishedAt (state.listed ++ [2]) after.listed := by
  have made : (run step initial (failedPulls 2)).any (fun state =>
      state.calls[2]? = some ⟨redis, .created 2⟩ ∧ state.holder = none ∧
        (state.listed ++ [2]).countP state.finishedAt = 2) = true := by
    decide +kernel
  obtain ⟨state, ran, facts⟩ := (Option.any_eq_true ..).mp made
  obtain ⟨held, unlocked, count⟩ := of_decide_eq_true facts
  obtain ⟨after, inserted, _, newest⟩ := start_keeps_newest_iff state (placed_run ran) 2 2 _ held rfl
    unlocked (fun _ => true)
  exact ⟨state, after, ran, inserted, newest.mpr (by rw [count]; decide)⟩

/-- After 21 failed pulls the next start drops the last of them and keeps the first. -/
theorem start_drops_newest :
    ∃ state after, run step initial (failedPulls 21) = some state ∧
      state.listed ++ [21] = List.range 22 ∧
      run step state (insertionEvents 21 (fun _ => false) (List.range 22)) = some after ∧
      after.listed = List.range 20 ++ [21] ∧
      ¬ KeepsNewest state.finishedAt (List.range 22) after.listed := by
  have made : (run step initial (failedPulls 21)).any (fun state =>
      state.listed ++ [21] = List.range 22 ∧
        (List.range 22).filter state.finishedAt = List.range 21 ∧
        (List.range 20 ++ [21]).filter state.finishedAt = List.range 20 ∧
        (run step state (insertionEvents 21 (fun _ => false) (List.range 22))).map (fun after =>
          after.listed) = some (List.range 20 ++ [21])) = true := by
    decide +kernel
  obtain ⟨state, ran, facts⟩ := (Option.any_eq_true ..).mp made
  obtain ⟨listed, finished, kept, inserts⟩ := of_decide_eq_true facts
  obtain ⟨after, inserted, shown⟩ := Option.map_eq_some_iff.mp inserts
  refine ⟨state, after, ran, listed, inserted, shown, ?_⟩
  intro keeps
  have newest := keeps.newest
  rw [shown, finished, kept] at newest
  revert newest
  decide

end WebProxy.Pulls

import WebProxy.Pulls

/-! How many pull jobs are active, and for which images: the check of `start` and the insertion of
the new job are two critical sections. -/

namespace WebProxy.Pulls

/-- The job is active or will be again. -/
def Job.live (job : Job) : Bool := job.active || job.due

def State.liveAt (state : State) (number : Nat) : Bool := (state.jobs[number]?).any Job.live

def CallStage.locking : CallStage → Bool
  | .checking _ _ => true
  | .trimming _ _ _ => true
  | _ => false

def CallStage.isPassed (stage : CallStage) : Bool := stage = .passed

def CallStage.job : CallStage → Option Nat
  | .created number => some number
  | _ => none

def CallStage.waiting (stage : CallStage) : Bool := stage.isPassed || stage.job.isSome

/-- A check meets no job that is done but for its retag, no such job is trimmed, and a call passes its
check only when no waiting call has the image and the waiting calls with the jobs it has counted are
below the limit. -/
def CallEvent.meets (state : State) (image : String) : CallEvent → CallStage → Bool
  | .inspect false, .checking position _ => (state.before position).all (fun entry => !entry.2.due)
  | .trim false, .trimming _ position finished =>
      finished < maxFinishedJobs || (state.before position).all (fun entry => !entry.2.due)
  | .leave, .checking _ count =>
      maxActivePullJobs ≤ count ||
        (state.calls.all (fun waiter => !waiter.stage.waiting || waiter.spec.image ≠ image) &&
          count + state.calls.countP (fun waiter => waiter.stage.waiting) < maxActivePullJobs)
  | _, _ => true

def Serial (state : State) : Event → Prop
  | .call index event => ∀ call ∈ state.calls[index]?, event.meets state call.spec.image call.stage = true
  | _ => True

instance decidableSerial (state : State) : ∀ event, Decidable (Serial state event)
  | .start _ => isTrue trivial
  | .call index event => inferInstanceAs
      (Decidable (∀ call ∈ state.calls[index]?, event.meets state call.spec.image call.stage = true))
  | .job _ _ => isTrue trivial

structure Seen (state : State) (image : String) (position count : Nat) : Prop where
  counted : (state.listed.take position).countP state.liveAt ≤ count
  absent : ∀ number ∈ state.listed.take position, ∀ job, state.jobs[number]? = some job →
    job.live = true → job.spec.image ≠ image

structure Guarded (state : State) : Prop where
  locked : ∀ (index : Nat) (call : Call), state.calls[index]? = some call →
    call.stage.locking = true → state.holder = some index
  bounded : ∀ number ∈ state.listed, number < state.jobs.length
  located : ∀ (number : Nat) (job : Job), state.jobs[number]? = some job → job.live = true →
    number ∈ state.listed ∨ ∃ (index : Nat) (call : Call), state.calls[index]? = some call ∧
      call.stage = .created number
  created : ∀ (index : Nat) (call : Call) (number : Nat), state.calls[index]? = some call →
    call.stage = .created number → ∃ job, state.jobs[number]? = some job ∧ job.spec = call.spec
  unique : ∀ (one two : Nat) (first second : Job), state.jobs[one]? = some first →
    state.jobs[two]? = some second → first.live = true → second.live = true →
    first.spec.image = second.spec.image → one = two
  apart : ∀ (number index : Nat) (job : Job) (call : Call), state.jobs[number]? = some job →
    state.calls[index]? = some call → job.live = true → call.stage = .passed →
    job.spec.image ≠ call.spec.image
  passed : ∀ (one two : Nat) (first second : Call), state.calls[one]? = some first →
    state.calls[two]? = some second → first.stage = .passed → second.stage = .passed →
    first.spec.image = second.spec.image → one = two
  limited : state.jobs.countP Job.live + state.calls.countP (fun call => call.stage.isPassed) ≤
    maxActivePullJobs
  checked : ∀ (index : Nat) (call : Call) (position count : Nat), state.calls[index]? = some call →
    call.stage = .checking position count → Seen state call.spec.image position count

theorem guarded_initial : Guarded initial := by
  constructor <;> intros <;> simp_all [initial, maxActivePullJobs]

section Steps

variable {state : State}

def Alone (state : State) (index : Nat) : Prop :=
  ∀ (other : Nat) (call : Call), state.calls[other]? = some call → call.stage.locking = true →
    other = index

theorem Alone.others {index : Nat} (alone : Alone state index) {holder : Option Nat} (other : Nat)
    (call : Call) (held : state.calls[other]? = some call) (different : other ≠ index)
    (locking : call.stage.locking = true) : holder = some other :=
  absurd (alone other call held locking) different

theorem Guarded.alone (guarded : Guarded state) {index : Nat} {call : Call}
    (held : state.calls[index]? = some call) (locking : call.stage.locking = true) :
    Alone state index := by
  intro other found located locks
  have first := guarded.locked index call held locking
  have second := guarded.locked other found located locks
  rw [first] at second
  exact (Option.some.inj second).symm

theorem Guarded.alone_of_unlocked (guarded : Guarded state) (unlocked : state.holder = none)
    (index : Nat) : Alone state index := by
  intro other found located locks
  have held := guarded.locked other found located locks
  rw [unlocked] at held
  cases held

theorem created_kept {index other number : Nat} {call maker next : Call}
    (held : state.calls[index]? = some call) (uncreated : ∀ number, call.stage ≠ .created number)
    (located : state.calls[other]? = some maker) (made : maker.stage = .created number) :
    (state.calls.set index next)[other]? = some maker := by
  have different : index ≠ other := by
    intro same
    subst same
    rw [held] at located
    cases located
    exact uncreated number made
  exact (List.getElem?_set_ne different).trans located

theorem Guarded.located_set (guarded : Guarded state) {index number : Nat} {call next : Call} {job : Job}
    (held : state.calls[index]? = some call) (uncreated : ∀ number, call.stage ≠ .created number)
    (found : state.jobs[number]? = some job) (live : job.live = true) :
    number ∈ state.listed ∨ ∃ (other : Nat) (maker : Call),
      (state.calls.set index next)[other]? = some maker ∧ maker.stage = .created number := by
  rcases guarded.located number job found live with listed | ⟨other, maker, located, made⟩
  · exact Or.inl listed
  · exact Or.inr ⟨other, maker, created_kept held uncreated located made, made⟩

theorem Guarded.created_set (guarded : Guarded state) {index other number : Nat} {call maker : Call}
    {stage : CallStage}
    (located : (state.calls.set index { call with stage := stage })[other]? = some maker)
    (unmade : ∀ number, stage ≠ .created number) (made : maker.stage = .created number) :
    ∃ job, state.jobs[number]? = some job ∧ job.spec = maker.spec := by
  rcases Slots.get_set_cases located with ⟨rfl, rfl⟩ | ⟨_, old⟩
  · exact absurd made (unmade number)
  · exact guarded.created other maker number old made

theorem passed_set {index other : Nat} {call waiter : Call} {stage : CallStage}
    (located : (state.calls.set index { call with stage := stage })[other]? = some waiter)
    (unpassed : stage ≠ .passed) (passes : waiter.stage = .passed) : state.calls[other]? = some waiter := by
  rcases Slots.get_set_cases located with ⟨rfl, rfl⟩ | ⟨_, old⟩
  · exact absurd passes unpassed
  · exact old

theorem countP_passed_set {index : Nat} {call : Call} {stage : CallStage}
    (held : state.calls[index]? = some call) (before : call.stage ≠ .passed) (after : stage ≠ .passed) :
    (state.calls.set index { call with stage := stage }).countP (fun call => call.stage.isPassed) =
      state.calls.countP (fun call => call.stage.isPassed) := by
  have balance := Slots.countP_set (fun call : Call => call.stage.isPassed)
    { call with stage := stage } held
  simpa [CallStage.isPassed, before, after] using balance

theorem Guarded.quiet (guarded : Guarded state) {index : Nat} {call : Call} {stage : CallStage}
    {holder : Option Nat} (held : state.calls[index]? = some call)
    (before : call.stage.waiting = false) (after : stage.waiting = false)
    (locks : stage.locking = true → holder = some index)
    (others : ∀ (other : Nat) (found : Call), state.calls[other]? = some found → other ≠ index →
      found.stage.locking = true → holder = some other)
    (seen : ∀ position count, stage = .checking position count →
      Seen state call.spec.image position count) :
    Guarded { state.at index call stage with holder := holder } := by
  have unpassed : call.stage ≠ .passed := by
    intro same
    rw [same] at before
    cases before
  have uncreated : ∀ number, call.stage ≠ .created number := by
    intro number same
    rw [same] at before
    cases before
  have passedNot : stage ≠ .passed := by
    intro same
    rw [same] at after
    cases after
  have createdNot : ∀ number, stage ≠ .created number := by
    intro number same
    rw [same] at after
    cases after
  constructor
  · intro other found located locking
    rcases Slots.get_set_cases located with ⟨rfl, rfl⟩ | ⟨different, old⟩
    · exact locks locking
    · exact others other found old different locking
  · exact guarded.bounded
  · intro number job found live
    exact guarded.located_set held uncreated found live
  · intro other maker number located made
    exact guarded.created_set located createdNot made
  · exact guarded.unique
  · intro number other job waiter found located live passes
    have old := passed_set located passedNot passes
    exact guarded.apart number other job waiter found old live passes
  · intro one two first second left right passes passing same
    have oldLeft := passed_set left passedNot passes
    have oldRight := passed_set right passedNot passing
    exact guarded.passed one two first second oldLeft oldRight passes passing same
  · have limited := guarded.limited
    rw [← countP_passed_set held unpassed passedNot] at limited
    exact limited
  · intro other found position count located checking
    rcases Slots.get_set_cases located with ⟨rfl, rfl⟩ | ⟨different, old⟩
    · have known := seen position count checking
      exact ⟨known.counted, known.absent⟩
    · have known := guarded.checked other found position count old checking
      exact ⟨known.counted, known.absent⟩

theorem waiting_of_locking {stage : CallStage} (locking : stage.locking = true) :
    stage.waiting = false := by
  cases stage with
  | checking position count => rfl
  | trimming number position finished => rfl
  | _ => cases locking

theorem Guarded.relock (guarded : Guarded state) {index : Nat} {call : Call} {stage : CallStage}
    (held : state.calls[index]? = some call) (locking : call.stage.locking = true)
    (still : stage.locking = true)
    (seen : ∀ position count, stage = .checking position count →
      Seen state call.spec.image position count) : Guarded (state.at index call stage) := by
  have holder := guarded.locked index call held locking
  apply guarded.quiet held (waiting_of_locking locking) (waiting_of_locking still)
  · intro _
    exact holder
  · exact (guarded.alone held locking).others
  · exact seen

theorem Guarded.release (guarded : Guarded state) {index : Nat} {call : Call} {stage : CallStage}
    (held : state.calls[index]? = some call) (locking : call.stage.locking = true)
    (after : stage.waiting = false) (unlocks : stage.locking = false) :
    Guarded { state.at index call stage with holder := none } := by
  apply guarded.quiet held (waiting_of_locking locking) after
  · intro locks
    rw [unlocks] at locks
    cases locks
  · exact (guarded.alone held locking).others
  · intro position count same
    rw [same] at unlocks
    cases unlocks

theorem Guarded.settle (guarded : Guarded state) {number : Nat} {job after : Job}
    (held : state.jobs[number]? = some job) (spec : after.spec = job.spec)
    (fading : after.live = true → job.live = true) :
    Guarded { state with jobs := state.jobs.set number after } := by
  -- whatever is live afterwards was live before, under the same spec
  have earlier : ∀ (other : Nat) (found : Job), (state.jobs.set number after)[other]? = some found →
      found.live = true → ∃ old, state.jobs[other]? = some old ∧ old.live = true ∧
        old.spec = found.spec := by
    intro other found located live
    rcases Slots.get_set_cases located with ⟨rfl, rfl⟩ | ⟨_, old⟩
    · exact ⟨job, held, fading live, spec.symm⟩
    · exact ⟨found, old, live, rfl⟩
  constructor
  · exact guarded.locked
  · intro other listed
    rw [List.length_set]
    exact guarded.bounded other listed
  · intro other found located live
    obtain ⟨old, there, alive, _⟩ := earlier other found located live
    exact guarded.located other old there alive
  · intro index call other located made
    have before := guarded.created index call other located made
    exact Slots.set_keeps held (fun same => spec.trans same) before
  · intro one two first second left right liveLeft liveRight same
    obtain ⟨oldLeft, thereLeft, aliveLeft, specLeft⟩ := earlier one first left liveLeft
    obtain ⟨oldRight, thereRight, aliveRight, specRight⟩ := earlier two second right liveRight
    exact guarded.unique one two oldLeft oldRight thereLeft thereRight aliveLeft aliveRight
      (by rw [specLeft, specRight, same])
  · intro other index found call located waiting live passes
    obtain ⟨old, there, alive, same⟩ := earlier other found located live
    rw [← same]
    exact guarded.apart other index old call there waiting alive passes
  · exact guarded.passed
  · have balance := Slots.countP_set Job.live after held
    have limited := guarded.limited
    have fewer : (state.jobs.set number after).countP Job.live ≤ state.jobs.countP Job.live := by
      cases alive : after.live with
      | false =>
          rw [alive] at balance
          simp only [Bool.false_eq_true, if_false] at balance
          omega
      | true =>
          rw [alive, fading alive] at balance
          omega
    exact (Nat.add_le_add_right fewer _).trans limited
  · intro index call position count located checking
    have known := guarded.checked index call position count located checking
    constructor
    · refine le_trans (List.countP_mono_left ?_) known.counted
      intro other _ alive
      obtain ⟨found, there, live⟩ := (Option.any_eq_true ..).mp alive
      obtain ⟨old, before, stays, _⟩ := earlier other found there live
      rw [State.liveAt, before]
      exact stays
    · intro other member found there live
      obtain ⟨old, before, stays, same⟩ := earlier other found there live
      rw [← same]
      exact known.absent other member old before stays

theorem countP_waiting (calls : List Call) :
    calls.countP (fun call => call.stage.waiting) =
      calls.countP (fun call => call.stage.isPassed) +
        calls.countP (fun call => call.stage.job.isSome) := by
  induction calls with
  | nil => rfl
  | cons call calls ih =>
      obtain ⟨spec, stage⟩ := call
      rw [List.countP_cons, List.countP_cons, List.countP_cons, ih]
      cases stage <;> simp [CallStage.waiting, CallStage.isPassed, CallStage.job] <;> omega

theorem Guarded.live_le (guarded : Guarded state) :
    state.jobs.countP Job.live ≤ state.listed.countP state.liveAt +
      state.calls.countP (fun call => call.stage.job.isSome) := by
  have covered : ∀ (number : Nat) (job : Job), state.jobs[number]? = some job → job.live = true →
      number ∈ state.listed.filter state.liveAt ++ state.calls.filterMap (fun call => call.stage.job) := by
    intro number job held live
    rw [List.mem_append]
    rcases guarded.located number job held live with listed | ⟨index, call, located, made⟩
    · refine Or.inl (List.mem_filter.mpr ⟨listed, ?_⟩)
      rw [State.liveAt, held]
      exact live
    · refine Or.inr (List.mem_filterMap.mpr ⟨call, List.mem_of_getElem? located, ?_⟩)
      rw [made]
      rfl
  have counted := Slots.countP_le_of_covered Job.live covered
  rwa [List.length_append, ← List.countP_eq_length_filter, List.length_filterMap_eq_countP] at counted

theorem Guarded.absent (guarded : Guarded state) {image : String} {count number : Nat} {job : Job}
    (seen : Seen state image state.listed.length count)
    (others : ∀ (other : Nat) (waiter : Call), state.calls[other]? = some waiter →
      waiter.stage.waiting = true → waiter.spec.image ≠ image)
    (found : state.jobs[number]? = some job) (live : job.live = true) : job.spec.image ≠ image := by
  rcases guarded.located number job found live with listed | ⟨other, maker, located, made⟩
  · refine seen.absent number ?_ job found live
    rwa [List.take_length]
  · obtain ⟨same, there, spec⟩ := guarded.created other maker number located made
    rw [found] at there
    cases there
    rw [spec]
    apply others other maker located
    rw [made]
    rfl

theorem Guarded.pass (guarded : Guarded state) {index count : Nat} {call : Call}
    (held : state.calls[index]? = some call)
    (checking : call.stage = .checking state.listed.length count)
    (others : ∀ (other : Nat) (waiter : Call), state.calls[other]? = some waiter →
      waiter.stage.waiting = true → waiter.spec.image ≠ call.spec.image)
    (room : count + state.calls.countP (fun waiter => waiter.stage.waiting) < maxActivePullJobs) :
    Guarded { state.at index call .passed with holder := none } := by
  have seen := guarded.checked index call _ _ held checking
  have alone := guarded.alone held (by rw [checking]; rfl)
  have uncreated : ∀ number, call.stage ≠ .created number := by simp [checking]
  constructor
  · intro other found located locking
    rcases Slots.get_set_cases located with ⟨rfl, rfl⟩ | ⟨different, old⟩
    · cases locking
    · exact absurd (alone other found old locking) different
  · exact guarded.bounded
  · intro number job found live
    exact guarded.located_set held uncreated found live
  · intro other maker number located made
    exact guarded.created_set located nofun made
  · exact guarded.unique
  · intro number other job waiter found located live passes
    rcases Slots.get_set_cases located with ⟨rfl, rfl⟩ | ⟨_, old⟩
    · exact guarded.absent seen others found live
    · exact guarded.apart number other job waiter found old live passes
  · intro one two first second left right passes passing same
    rcases Slots.get_set_cases left with ⟨rfl, rfl⟩ | ⟨_, oldLeft⟩
    · rcases Slots.get_set_cases right with ⟨rfl, rfl⟩ | ⟨_, oldRight⟩
      · rfl
      · exact absurd same.symm (others two second oldRight (by rw [passing]; rfl))
    · rcases Slots.get_set_cases right with ⟨rfl, rfl⟩ | ⟨_, oldRight⟩
      · exact absurd same (others one first oldLeft (by rw [passes]; rfl))
      · exact guarded.passed one two first second oldLeft oldRight passes passing same
  · have balance := Slots.countP_set (fun call : Call => call.stage.isPassed)
      { call with stage := .passed } held
    simp only [CallStage.isPassed, checking, reduceCtorEq, decide_false, decide_true,
      Bool.false_eq_true, if_false, if_true] at balance
    have live := guarded.live_le
    have counted := seen.counted
    rw [List.take_length] at counted
    rw [countP_waiting] at room
    simp only [CallStage.isPassed] at room
    change state.jobs.countP Job.live + (state.calls.set index { call with stage := .passed }).countP
      (fun call => decide (call.stage = .passed)) ≤ maxActivePullJobs
    omega
  · intro other found position count located checks
    rcases Slots.get_set_cases located with ⟨rfl, rfl⟩ | ⟨different, old⟩
    · cases checks
    · refine absurd (alone other found old ?_) different
      rw [checks]
      rfl

theorem new_live (id : Nat) (spec : ImageRef.PullSpec) : (Job.new id spec).live = true := rfl

theorem Guarded.create (guarded : Guarded state) {index id : Nat} {call : Call}
    (held : state.calls[index]? = some call) (passed : call.stage = .passed) :
    Guarded { state.at index call (.created state.jobs.length) with
      jobs := state.jobs ++ [Job.new state.nextId call.spec]
      nextId := id } := by
  have uncreated : ∀ number, call.stage ≠ .created number := by simp [passed]
  -- a listed job is an old one
  have older : ∀ number ∈ state.listed,
      (state.jobs ++ [Job.new state.nextId call.spec])[number]? = state.jobs[number]? := by
    intro number listed
    exact List.getElem?_append_left (guarded.bounded number listed)
  constructor
  · intro other found located locking
    rcases Slots.get_set_cases located with ⟨rfl, rfl⟩ | ⟨_, old⟩
    · cases locking
    · exact guarded.locked other found old locking
  · intro number listed
    have bound := guarded.bounded number listed
    rw [List.length_append, List.length_singleton]
    omega
  · intro number job found live
    rcases Slots.get_snoc_cases found with old | ⟨rfl, rfl⟩
    · exact guarded.located_set held uncreated old live
    · exact Or.inr ⟨index, _, Slots.get_set_self _ held, rfl⟩
  · intro other maker number located made
    rcases Slots.get_set_cases located with ⟨rfl, rfl⟩ | ⟨_, old⟩
    · cases made
      exact ⟨_, List.getElem?_concat_length, rfl⟩
    · obtain ⟨job, there, spec⟩ := guarded.created other maker number old made
      exact ⟨job, Slots.get_snoc _ there, spec⟩
  · intro one two first second left right liveLeft liveRight same
    rcases Slots.get_snoc_cases left with oldLeft | ⟨rfl, rfl⟩
    · rcases Slots.get_snoc_cases right with oldRight | ⟨rfl, rfl⟩
      · exact guarded.unique one two first second oldLeft oldRight liveLeft liveRight same
      · exact absurd same (guarded.apart one index first call oldLeft held liveLeft passed)
    · rcases Slots.get_snoc_cases right with oldRight | ⟨rfl, rfl⟩
      · exact absurd same.symm (guarded.apart two index second call oldRight held liveRight passed)
      · rfl
  · intro number other job waiter found located live passes
    rcases Slots.get_set_cases located with ⟨rfl, rfl⟩ | ⟨different, oldCall⟩
    · cases passes
    · rcases Slots.get_snoc_cases found with oldJob | ⟨rfl, rfl⟩
      · exact guarded.apart number other job waiter oldJob oldCall live passes
      · intro same
        exact different (guarded.passed other index waiter call oldCall held passes passed same.symm)
  · intro one two first second left right passes passing same
    have oldLeft := passed_set left nofun passes
    have oldRight := passed_set right nofun passing
    exact guarded.passed one two first second oldLeft oldRight passes passing same
  · have balance := Slots.countP_set (fun call : Call => call.stage.isPassed)
      { call with stage := .created state.jobs.length } held
    have limited := guarded.limited
    simp only [CallStage.isPassed, passed, reduceCtorEq, decide_false, decide_true,
      Bool.false_eq_true, if_false, if_true] at balance
    simp only [CallStage.isPassed] at limited
    change (state.jobs ++ [Job.new state.nextId call.spec]).countP Job.live +
      (state.calls.set index { call with stage := .created state.jobs.length }).countP
        (fun call => decide (call.stage = .passed)) ≤ maxActivePullJobs
    rw [List.countP_append, List.countP_singleton, if_pos (new_live state.nextId call.spec)]
    omega
  · intro other found position count located checking
    rcases Slots.get_set_cases located with ⟨rfl, rfl⟩ | ⟨_, old⟩
    · cases checking
    · have known := guarded.checked other found position count old checking
      constructor
      · refine le_trans (List.countP_mono_left ?_) known.counted
        intro number member alive
        rwa [State.liveAt, older number (List.mem_of_mem_take member)] at alive
      · intro number member job there live
        rw [older number (List.mem_of_mem_take member)] at there
        exact known.absent number member job there live

theorem Guarded.push (guarded : Guarded state) {index number : Nat} {call : Call}
    (held : state.calls[index]? = some call) (made : call.stage = .created number)
    (unlocked : state.holder = none) :
    Guarded { state.at index call (.trimming number 0 0) with
      listed := state.listed ++ [number]
      holder := some index } := by
  have alone := guarded.alone_of_unlocked unlocked index
  constructor
  · intro other found located locking
    rcases Slots.get_set_cases located with ⟨rfl, rfl⟩ | ⟨different, old⟩
    · rfl
    · exact absurd (alone other found old locking) different
  · intro other listed
    rcases List.mem_append.mp listed with old | last
    · exact guarded.bounded other old
    · obtain ⟨job, there, _⟩ := guarded.created index call number held made
      rw [List.mem_singleton.mp last]
      exact Slots.lt_of_get there
  · intro other job found live
    rcases guarded.located other job found live with listed | ⟨maker, waiter, located, makes⟩
    · exact Or.inl (List.mem_append_left _ listed)
    · by_cases here : index = maker
      · subst here
        rw [held] at located
        cases located
        rw [made] at makes
        cases makes
        exact Or.inl (List.mem_append_right _ (List.mem_singleton_self _))
      · exact Or.inr ⟨maker, waiter, (List.getElem?_set_ne here).trans located, makes⟩
  · intro other maker created located makes
    exact guarded.created_set located nofun makes
  · exact guarded.unique
  · intro other waiting job waiter found located live passes
    have old := passed_set located nofun passes
    exact guarded.apart other waiting job waiter found old live passes
  · intro one two first second left right passes passing same
    have oldLeft := passed_set left nofun passes
    have oldRight := passed_set right nofun passing
    exact guarded.passed one two first second oldLeft oldRight passes passing same
  · have trims : CallStage.trimming number 0 0 ≠ .passed := by simp
    have limited := guarded.limited
    rw [← countP_passed_set held (by simp [made]) trims] at limited
    exact limited
  · intro other found position count located checking
    rcases Slots.get_set_cases located with ⟨rfl, rfl⟩ | ⟨different, old⟩
    · cases checking
    · refine absurd (alone other found old ?_) different
      rw [checking]
      rfl

theorem Guarded.start (guarded : Guarded state) (spec : ImageRef.PullSpec) :
    Guarded { state with calls := state.calls ++ [⟨spec, .entering⟩] } := by
  constructor
  · intro other found located locking
    rcases Slots.get_snoc_cases located with old | ⟨rfl, rfl⟩
    · exact guarded.locked other found old locking
    · cases locking
  · exact guarded.bounded
  · intro number job found live
    rcases guarded.located number job found live with listed | ⟨other, maker, located, made⟩
    · exact Or.inl listed
    · exact Or.inr ⟨other, maker, Slots.get_snoc _ located, made⟩
  · intro other maker number located made
    rcases Slots.get_snoc_cases located with old | ⟨rfl, rfl⟩
    · exact guarded.created other maker number old made
    · cases made
  · exact guarded.unique
  · intro number other job waiter found located live passes
    rcases Slots.get_snoc_cases located with old | ⟨rfl, rfl⟩
    · exact guarded.apart number other job waiter found old live passes
    · cases passes
  · intro one two first second left right passes passing same
    rcases Slots.get_snoc_cases left with oldLeft | ⟨rfl, rfl⟩
    · rcases Slots.get_snoc_cases right with oldRight | ⟨rfl, rfl⟩
      · exact guarded.passed one two first second oldLeft oldRight passes passing same
      · cases passing
    · cases passes
  · have limited := guarded.limited
    rw [List.countP_append]
    exact limited
  · intro other found position count located checking
    rcases Slots.get_snoc_cases located with old | ⟨rfl, rfl⟩
    · have known := guarded.checked other found position count old checking
      exact ⟨known.counted, known.absent⟩
    · cases checking

theorem before_some {position number : Nat} {job : Job}
    (before : state.before position = some (number, job)) :
    state.listed[position]? = some number ∧ state.jobs[number]? = some job := by
  obtain ⟨found, listed, mapped⟩ := Option.bind_eq_some_iff.mp before
  obtain ⟨there, held, same⟩ := Option.map_eq_some_iff.mp mapped
  cases same
  exact ⟨listed, held⟩

theorem Guarded.erase (guarded : Guarded state) {position other : Nat} {job : Job}
    (before : state.before position = some (other, job)) (dead : job.live = false)
    (unchecked : ∀ (index : Nat) (call : Call) (position count : Nat),
      state.calls[index]? = some call → call.stage ≠ .checking position count) :
    Guarded { state with listed := state.listed.eraseIdx position } := by
  obtain ⟨listed, held⟩ := before_some before
  constructor
  · exact guarded.locked
  · intro number member
    exact guarded.bounded number (List.mem_of_mem_eraseIdx member)
  · intro number found there live
    rcases guarded.located number found there live with member | made
    · refine Or.inl (List.mem_eraseIdx_iff_getElem?.mpr ?_)
      obtain ⟨place, placed⟩ := List.mem_iff_getElem?.mp member
      refine ⟨place, ?_, placed⟩
      intro same
      rw [same, listed] at placed
      cases placed
      rw [held] at there
      cases there
      rw [dead] at live
      cases live
    · exact Or.inr made
  · exact guarded.created
  · exact guarded.unique
  · exact guarded.apart
  · exact guarded.passed
  · exact guarded.limited
  · intro index call place count located checking
    exact absurd checking (unchecked index call place count located)

theorem Seen.next {image : String} {position count later number : Nat} {job : Job}
    (seen : Seen state image position count) (before : state.before position = some (number, job))
    (grows : count ≤ later) (counts : job.live = true → count + 1 ≤ later ∧ job.spec.image ≠ image) :
    Seen state image (position + 1) later := by
  obtain ⟨listed, held⟩ := before_some before
  have longer : state.listed.take (position + 1) = state.listed.take position ++ [number] := by
    rw [List.take_add_one, listed]
    rfl
  have alive : state.liveAt number = job.live := by
    rw [State.liveAt, held]
    rfl
  have counted := seen.counted
  constructor
  · rw [longer, List.countP_append, List.countP_singleton, alive]
    split
    · rename_i live
      have more := (counts live).1
      omega
    · omega
  · intro other member found there live
    rw [longer] at member
    rcases List.mem_append.mp member with old | last
    · exact seen.absent other old found there live
    · rw [List.mem_singleton.mp last, held] at there
      cases there
      exact (counts live).2

theorem live_of_active {job : Job} (active : job.active = true) : job.live = true := by
  rw [Job.live, active, Bool.true_or]

theorem Advance.fading {job after : Job} {change : JobEvent} (moves : Advance job change after)
    (live : after.live = true) : job.live = true := by
  cases moves with
  | progress line _ stage _ _ => exact live_of_active (Job.active_of_stage (Or.inr (Or.inl stage)))
  | pullEnds failure _ stage _ _ => exact live_of_active (Job.active_of_stage (Or.inr (Or.inl stage)))
  | retags _ due _ _ => rw [Job.live, due, Bool.or_true]
  | ends _ _ _ stage same =>
      rw [Job.live, Job.active, Job.due, stage, same] at live
      simp only [reduceCtorEq, decide_false, Bool.false_and, Bool.or_false] at live
      exact live_of_active live
  | mark _ stage _ => simp [Job.live, Job.due, stage]
  | retagEnds _ _ stage _ => exact live_of_active (Job.active_of_stage (Or.inr (Or.inr stage)))

theorem Guarded.call (guarded : Guarded state) {next : State} {index : Nat} {call : Call}
    {event : CallEvent} (held : state.calls[index]? = some call)
    (serial : event.meets state call.spec.image call.stage = true)
    (move : CallMove state index call event next) : Guarded next := by
  cases move with
  | enter entering unlocked =>
      apply guarded.quiet held
      · rw [entering]
        rfl
      · rfl
      · intro _
        rfl
      · exact (guarded.alone_of_unlocked unlocked index).others
      · intro position count same
        cases same
        exact ⟨Nat.zero_le _, by simp⟩
  | found contended position count number job checking _ _ _ =>
      have locking : call.stage.locking = true := by rw [checking]; rfl
      exact guarded.release held locking rfl rfl
  | counted contended position count number job checking before _ different =>
      have locking : call.stage.locking = true := by rw [checking]; rfl
      have seen := guarded.checked index call position count held checking
      apply guarded.relock held locking rfl
      intro later total same
      cases same
      exact seen.next before (Nat.le_succ count) (fun _ => ⟨le_rfl, different⟩)
  | skipped position count number job checking before inactive =>
      have locking : call.stage.locking = true := by rw [checking]; rfl
      have seen := guarded.checked index call position count held checking
      have undue : job.due = false := by simpa [CallEvent.meets, checking, before] using serial
      apply guarded.relock held locking rfl
      intro later total same
      cases same
      apply seen.next before le_rfl
      intro live
      rw [Job.live, inactive, undue] at live
      cases live
  | refused position count checking _ _ =>
      have locking : call.stage.locking = true := by rw [checking]; rfl
      exact guarded.release held locking rfl rfl
  | passed position count checking finished room =>
      subst finished
      simp only [CallEvent.meets, checking, Nat.not_le.mpr room, decide_false, Bool.false_or,
        Bool.and_eq_true, decide_eq_true_eq] at serial
      obtain ⟨others, fits⟩ := serial
      refine guarded.pass held checking ?_ fits
      intro other waiter located waiting
      have apart := List.all_eq_true.mp others waiter (List.mem_of_getElem? located)
      simpa [waiting] using apart
  | create passed => exact guarded.create held passed
  | push number made unlocked => exact guarded.push held made unlocked
  | spared contended number position finished later trimming =>
      have locking : call.stage.locking = true := by rw [trimming]; rfl
      exact guarded.relock held locking rfl nofun
  | erased number position finished other job trimming before inactive many =>
      have locking : call.stage.locking = true := by rw [trimming]; rfl
      have alone := guarded.alone held locking
      have undue : job.due = false := by
        simpa [CallEvent.meets, trimming, before, Nat.not_lt.mpr many] using serial
      have unchecked : ∀ (reader : Nat) (found : Call) (place count : Nat),
          state.calls[reader]? = some found → found.stage ≠ .checking place count := by
        intro reader found place count located checking
        have same := alone reader found located (by rw [checking]; rfl)
        rw [same, held] at located
        cases located
        rw [trimming] at checking
        cases checking
      have shorter := guarded.erase before (by rw [Job.live, inactive, undue]; rfl) unchecked
      exact shorter.relock held locking rfl nofun
  | unlock number position finished trimming =>
      have locking : call.stage.locking = true := by rw [trimming]; rfl
      exact guarded.release held locking rfl rfl
  | spawn number job after trimmed found fresh _ _ spec =>
      have live := live_of_active (Job.active_of_stage (Or.inl fresh))
      have settled := guarded.settle found spec (fun _ => live)
      apply settled.quiet held (by rw [trimmed]; rfl) rfl
      · nofun
      · intro other maker located _ locking
        exact guarded.locked other maker located locking
      · nofun

end Steps

theorem guarded_step {state next : State} {event : Event} (guarded : Guarded state)
    (serial : Serial state event) (taken : step state event = some next) : Guarded next := by
  cases step_cases taken with
  | start spec => exact guarded.start spec
  | call index call change _ held move => exact guarded.call held (serial call held) move
  | job number job after change held spec moves => exact guarded.settle held spec moves.fading

structure PullJobsLimited (state : State) : Prop where
  unique : ∀ (one two : Nat) (first second : Job), state.jobs[one]? = some first →
    state.jobs[two]? = some second → first.active = true → second.active = true →
    first.spec.image = second.spec.image → one = two
  limited : state.jobs.countP Job.active ≤ maxActivePullJobs

theorem Guarded.jobs_limited {state : State} (guarded : Guarded state) : PullJobsLimited state := by
  constructor
  · intro one two first second left right activeLeft activeRight same
    exact guarded.unique one two first second left right (live_of_active activeLeft)
      (live_of_active activeRight) same
  · have fewer : state.jobs.countP Job.active ≤ state.jobs.countP Job.live :=
      List.countP_mono_left (fun _ _ => live_of_active)
    have limited := guarded.limited
    omega

/-- In a run whose steps all keep check and insertion together, every state has at most one active
job for an image and at most `maxActivePullJobs` active jobs. -/
theorem serial_pull_jobs_limited (events : List Event) (met : Machine.Along step Serial initial events)
    (front : List Event) (state : State) (begins : front <+: events)
    (ran : Machine.run step initial front = some state) : PullJobsLimited state := by
  obtain ⟨rest, rfl⟩ := begins
  have along := (Machine.along_append met ran).1
  have guarded := Machine.along_invariant Guarded (fun _ _ _ => guarded_step) guarded_initial along ran
  exact guarded.jobs_limited

def checkEvents (index : Nat) : List Event := [.call index .enter, .call index .leave]

def insertEvents (index position : Nat) : List Event :=
  [.call index .create, .call index .push] ++
    List.replicate position (.call index (.trim false)) ++
    [.call index .unlock, .call index .spawn]

def redis : ImageRef.PullSpec := ⟨"redis:alpine", "h/library/redis", some "alpine", none, none, none⟩

def nginx : ImageRef.PullSpec := { redis with image := "nginx:alpine", pullRepo := "h/library/nginx" }

theorem serial_pull_jobs_limited_two :
    let events := [.start redis, .start nginx] ++ checkEvents 0 ++ insertEvents 0 1 ++
      [.call 1 .enter, .call 1 (.inspect false), .call 1 .leave] ++ insertEvents 1 2
    ∃ state, Machine.run step initial events = some state ∧ state.jobs.length = 2 ∧
      PullJobsLimited state := by
  have made : (Machine.run step initial ([.start redis, .start nginx] ++ checkEvents 0 ++
      insertEvents 0 1 ++ [.call 1 .enter, .call 1 (.inspect false), .call 1 .leave] ++
      insertEvents 1 2)).map (fun state => state.jobs.length) = some 2 := by
    decide +kernel
  obtain ⟨state, ran, length⟩ := Option.map_eq_some_iff.mp made
  exact ⟨state, ran, length, serial_pull_jobs_limited _ (by decide +kernel) _ state List.prefix_rfl ran⟩

/-- Both calls for one image check before either inserts. -/
theorem two_active_jobs_for_one_image :
    ∃ state, Machine.run step initial ([.start redis, .start redis] ++ checkEvents 0 ++ checkEvents 1 ++
        insertEvents 0 1 ++ insertEvents 1 2) = some state ∧
      state.listed = [0, 1] ∧ ¬ PullJobsLimited state := by
  have made : (Machine.run step initial ([.start redis, .start redis] ++ checkEvents 0 ++
      checkEvents 1 ++ insertEvents 0 1 ++ insertEvents 1 2)).any (fun state =>
        state.listed = [0, 1] ∧ state.jobs.map (fun job => (job.spec.image, job.active)) =
          [("redis:alpine", true), ("redis:alpine", true)]) = true := by
    decide +kernel
  obtain ⟨state, ran, both⟩ := (Option.any_eq_true ..).mp made
  obtain ⟨listed, jobs⟩ := of_decide_eq_true both
  refine ⟨state, ran, listed, ?_⟩
  intro limited
  obtain ⟨first, rest, split, one, others⟩ := List.map_eq_cons_iff.mp jobs
  obtain ⟨second, _, again, two, _⟩ := List.map_eq_cons_iff.mp others
  have same := limited.unique 0 1 first second (by rw [split]; rfl) (by rw [split, again]; rfl)
    (congrArg Prod.snd one) (congrArg Prod.snd two)
    ((congrArg Prod.fst one).trans (congrArg Prod.fst two).symm)
  cases same

end WebProxy.Pulls

import Mathlib.Data.List.Induction
import WebProxy.FlightInvariant

/-! One download for each digest at a time, and only for a blob that is missing. -/

namespace WebProxy.SingleFlight

open Machine (run)

/-- Who holds a guard owns the mutex. -/
def Owned (state : Flight) : Prop :=
  ∀ (pid : Nat) (process : Process) (mutex : Nat), state.processes[pid]? = some process →
    process.stage.guard = some mutex → (state.mutexes[mutex]?).bind Mutex.owner = some pid

theorem guard_mutex {stage : Stage} {mutex : Nat} (guard : stage.guard = some mutex) :
    stage.mutex = some mutex := by
  cases stage with
  | guarded | hit | missed | downloading => exact guard
  | entering | pruning | condemned | cloning | handle | releasing | ended => cases guard

theorem flown_guard {stage : Stage} {mutex : Nat} (flown : stage.flown = some mutex) :
    stage.guard = some mutex := by
  cases stage with
  | missed | downloading => exact flown
  | entering | pruning | condemned | cloning | handle | guarded | hit | releasing | ended =>
      cases flown

theorem owner_setStrong (state : Flight) (mutex : Nat) (change : Nat → Nat) (other : Nat) :
    ((state.setStrong mutex change).mutexes[other]?).bind Mutex.owner =
      (state.mutexes[other]?).bind Mutex.owner := by
  rw [getElem?_setStrong]
  cases state.mutexes[other]? with
  | none => rfl
  | some cell =>
      simp only [Option.map_some, Option.bind_some]
      split <;> rfl

theorem owner_setOwner (state : Flight) (mutex : Nat) (owner : Option Nat) {other : Nat}
    (apart : mutex ≠ other) :
    ((state.setOwner mutex owner).mutexes[other]?).bind Mutex.owner =
      (state.mutexes[other]?).bind Mutex.owner := by
  simp [Flight.setOwner, apart]

theorem owned_put {state : Flight} (owned : Owned state) {pid : Nat} {process : Process}
    {after : Stage} (found : state.processes[pid]? = some process)
    (guard : after.guard = none ∨ after.guard = process.stage.guard) :
    Owned (state.put pid process after) := by
  intro other held mutex standing holding
  rcases Slots.get_set_cases standing with ⟨rfl, rfl⟩ | ⟨_, standing⟩
  · rcases guard with none | same
    · exact absurd holding (by simp [none])
    · exact owned other process mutex found (same ▸ holding)
  · exact owned other held mutex standing holding

theorem owned_setStrong {state : Flight} (owned : Owned state) (mutex : Nat) (change : Nat → Nat) :
    Owned (state.setStrong mutex change) := by
  intro other held guarded standing holding
  rw [owner_setStrong]
  exact owned other held guarded standing holding

theorem owned_lock {state : Flight} (counted : Counted state) (owned : Owned state)
    {pid mutex : Nat} {process : Process} (found : state.processes[pid]? = some process)
    (was : process.stage = .handle mutex)
    (free : (state.mutexes[mutex]?).bind Mutex.owner = none) :
    Owned ((state.setOwner mutex (some pid)).put pid process (.guarded mutex)) := by
  intro other held guarded standing holding
  rcases Slots.get_set_cases standing with ⟨rfl, rfl⟩ | ⟨_, standing⟩
  · cases holding
    have known := counted.refers_known found (by rw [was]; rfl)
    change ((state.setOwner mutex (some other)).mutexes[mutex]?).bind Mutex.owner = some other
    simp [Flight.setOwner, List.getElem?_eq_getElem known]
  · have owner := owned other held guarded standing holding
    have apart : mutex ≠ guarded := by
      intro same
      rw [← same, free] at owner
      cases owner
    exact (owner_setOwner state mutex _ apart).trans owner

theorem owned_unlock {state : Flight} (owned : Owned state) {pid mutex : Nat} {process : Process}
    (found : state.processes[pid]? = some process) (was : process.stage.guard = some mutex) :
    Owned ((state.setOwner mutex none).put pid process (.releasing mutex)) := by
  intro other held guarded standing holding
  rcases Slots.get_set_cases standing with ⟨_, rfl⟩ | ⟨distinct, standing⟩
  · cases holding
  · have owner := owned other held guarded standing holding
    have apart : mutex ≠ guarded := by
      intro same
      rw [← same, owned pid process mutex found was] at owner
      exact distinct (Option.some.inj owner).symm
    exact (owner_setOwner state mutex _ apart).trans owner

theorem owned_create {state : Flight} (counted : Counted state) (owned : Owned state) (pid : Nat)
    (process : Process) :
    Owned { state.put pid process (.handle state.mutexes.length) with
      inflight := state.inflight ++ [(process.hex, state.mutexes.length)]
      mutexes := state.mutexes ++ [⟨2, none⟩]
      mapHolder := none } := by
  intro other held guarded standing holding
  rcases Slots.get_set_cases standing with ⟨_, rfl⟩ | ⟨_, standing⟩
  · cases holding
  · have known := counted.refers_known standing (guard_mutex holding)
    simp only [List.getElem?_append_left known]
    exact owned other held guarded standing holding

structure Safe (state : Flight) : Prop where
  mapped : Mapped state
  counted : Counted state
  owned : Owned state

theorem owned_step (state : Flight) (event : Event) (next : Flight) (counted : Counted state)
    (owned : Owned state) (taken : step state event = some next) : Owned next := by
  cases step_cases taken with
  | shelve blobs => exact owned
  | walk found mutex guard mapping spared grounded => exact owned_put owned found guard
  | enter found was free inside =>
      exact owned_put owned found (by rcases inside with rfl | rfl <;> exact Or.inl rfl)
  | condemn found was entry alone => exact owned_put owned found (Or.inl rfl)
  | erase found was entry => exact owned_put (owned_setStrong owned _ _) found (Or.inl rfl)
  | clone found was listed => exact owned_put (owned_setStrong owned _ _) found (Or.inl rfl)
  | create found was absent => exact owned_create counted owned _ _
  | lock found was free => exact owned_lock counted owned found was free
  | miss found was absent => exact owned_put owned found (Or.inr (by rw [was]; rfl))
  | begin found was => exact owned_put owned found (Or.inr (by rw [was]; rfl))
  | unlock found was same => exact owned_unlock owned found was
  | drop found was => exact owned_put (owned_setStrong owned _ _) found (Or.inl rfl)

theorem start_entering {calls : List (String × Caller)} {blobs : List String} {pid : Nat}
    {process : Process} (found : (start calls blobs).processes[pid]? = some process) :
    process.stage = .entering := by
  simp only [start, List.getElem?_map, Option.map_eq_some_iff] at found
  obtain ⟨call, _, rfl⟩ := found
  rfl

theorem safe_start (calls : List (String × Caller)) (blobs : List String) :
    Safe (start calls blobs) where
  mapped := by
    intro pid process found mapping
    rw [start_entering found] at mapping
    cases mapping
  counted :=
    { keys := List.nodup_nil
      ids := List.nodup_nil
      known := by simp [start]
      held := by
        intro pid process mutex found handle
        rw [start_entering found] at handle
        cases handle
      strong := by
        intro mutex cell present
        cases present
      condemned := by
        intro pid position process found stage
        rw [start_entering found] at stage
        cases stage }
  owned := by
    intro pid process mutex found guard
    rw [start_entering found] at guard
    cases guard

theorem safe_step (state : Flight) (event : Event) (next : Flight) (safe : Safe state)
    (taken : step state event = some next) : Safe next := by
  obtain ⟨mapped, counted⟩ := counted_step state event next ⟨safe.mapped, safe.counted⟩ taken
  exact ⟨mapped, counted, owned_step state event next safe.counted safe.owned taken⟩

theorem Safe.one_mutex {state : Flight} (safe : Safe state) {first second m n : Nat}
    {left right : Process} (foundLeft : state.processes[first]? = some left)
    (foundRight : state.processes[second]? = some right) (same : left.hex = right.hex)
    (handleLeft : left.stage.mutex = some m) (handleRight : right.stage.mutex = some n) : m = n := by
  have one := safe.counted.held first left m foundLeft handleLeft
  have two := safe.counted.held second right n foundRight handleRight
  rw [same] at one
  have pair := List.inj_on_of_nodup_map safe.counted.keys one two rfl
  exact congrArg Prod.snd pair

theorem Safe.one_guard {state : Flight} (safe : Safe state) {first second m n : Nat}
    {left right : Process} (foundLeft : state.processes[first]? = some left)
    (foundRight : state.processes[second]? = some right) (same : left.hex = right.hex)
    (guardLeft : left.stage.guard = some m) (guardRight : right.stage.guard = some n) :
    first = second := by
  have mutex := safe.one_mutex foundLeft foundRight same (guard_mutex guardLeft)
    (guard_mutex guardRight)
  subst mutex
  have one := safe.owned first left m foundLeft guardLeft
  rw [safe.owned second right m foundRight guardRight] at one
  exact (Option.some.inj one).symm

theorem flown_step {state next : Flight} {event : Event} (taken : step state event = some next)
    {pid mutex : Nat} {process : Process} (standing : next.processes[pid]? = some process)
    (flown : process.stage.flown = some mutex) :
    (event = .lookup pid ∧
        state.processes[pid]? = some { process with stage := .guarded mutex } ∧
        process.hex ∉ state.blobs) ∨
      ∃ stage, state.processes[pid]? = some { process with stage := stage } ∧
        stage.flown = some mutex := by
  cases step_cases taken with
  | shelve blobs => exact Or.inr ⟨process.stage, standing, flown⟩
  | miss found was absent =>
      rcases Slots.get_set_cases standing with ⟨rfl, rfl⟩ | ⟨_, standing⟩
      · cases flown
        left
        refine ⟨rfl, ?_, absent⟩
        rw [found, ← was]
      · exact Or.inr ⟨process.stage, standing, flown⟩
  | begin found was =>
      rcases Slots.get_set_cases standing with ⟨rfl, rfl⟩ | ⟨_, standing⟩
      · cases flown
        right
        exact ⟨_, found, by rw [was]; rfl⟩
      · exact Or.inr ⟨process.stage, standing, flown⟩
  | walk found same guard mapping spared grounded =>
      rcases Slots.get_set_cases standing with ⟨_, rfl⟩ | ⟨_, standing⟩
      · exact absurd flown (by simp [grounded])
      · exact Or.inr ⟨process.stage, standing, flown⟩
  | enter found was free inside =>
      rcases Slots.get_set_cases standing with ⟨_, rfl⟩ | ⟨_, standing⟩
      · rcases inside with rfl | rfl <;> cases flown
      · exact Or.inr ⟨process.stage, standing, flown⟩
  | condemn | erase | clone | create | lock | unlock | drop =>
      rcases Slots.get_set_cases standing with ⟨_, rfl⟩ | ⟨_, standing⟩
      · cases flown
      · exact Or.inr ⟨process.stage, standing, flown⟩

theorem flown_run {calls : List (String × Caller)} {blobs : List String} {events : List Event}
    {final : Flight} (ran : run step (start calls blobs) events = some final) {pid mutex : Nat}
    {process : Process} (standing : final.processes[pid]? = some process)
    (flown : process.stage.flown = some mutex) :
    ∃ front back before, events = front ++ .lookup pid :: back ∧
      run step (start calls blobs) front = some before ∧
      before.processes[pid]? = some { process with stage := .guarded mutex } ∧
      process.hex ∉ before.blobs ∧
      ∀ early late middle, back = early ++ late →
        run step before (.lookup pid :: early) = some middle →
          ∃ held, middle.processes[pid]? = some held ∧ held.stage.flown = some mutex := by
  induction events using List.reverseRecOn generalizing final process with
  | nil =>
      rw [Machine.run_nil] at ran
      cases ran
      rw [start_entering standing] at flown
      cases flown
  | append_singleton events event ih =>
      obtain ⟨last, reached, taken⟩ := Machine.run_snoc_some ran
      rcases flown_step taken standing flown with ⟨rfl, guarded, absent⟩ | ⟨stage, earlier, past⟩
      · refine ⟨events, [], last, rfl, reached, guarded, absent, ?_⟩
        intro early late middle split again
        obtain ⟨rfl, rfl⟩ := List.append_eq_nil_iff.mp split.symm
        rw [Machine.run_cons, taken] at again
        cases again
        exact ⟨process, standing, flown⟩
      · obtain ⟨front, back, before, rfl, came, guarded, absent, since⟩ := ih reached earlier past
        refine ⟨front, back ++ [event], before, by simp, came, guarded, absent, ?_⟩
        intro early late middle split again
        rcases List.eq_nil_or_concat late with rfl | ⟨rest, ending, rfl⟩
        · -- the whole way: the state is the final one
          rw [List.append_nil] at split
          subst split
          rw [List.append_assoc, List.cons_append] at ran
          rw [Machine.run_rest ran came] at again
          cases again
          exact ⟨process, standing, flown⟩
        · rw [List.concat_eq_append, ← List.append_assoc] at split
          obtain ⟨shorter, _⟩ := List.append_inj' split rfl
          exact since early rest middle shorter again

/-- In every run the handles, waiters and guards of one digest are of one mutex, at most one of
its callers holds the guard, and a download runs under a guard it has held since a lookup that
missed. -/
theorem single_flight (calls : List (String × Caller)) (blobs : List String) (events : List Event)
    (final : Flight) (ran : run step (start calls blobs) events = some final) :
    (∀ (first second m n : Nat) (left right : Process), final.processes[first]? = some left →
      final.processes[second]? = some right → left.hex = right.hex →
        left.stage.mutex = some m → right.stage.mutex = some n → m = n) ∧
    (∀ (first second m n : Nat) (left right : Process), final.processes[first]? = some left →
      final.processes[second]? = some right → left.hex = right.hex →
        left.stage.guard = some m → right.stage.guard = some n → first = second) ∧
    (∀ (pid mutex : Nat) (process : Process), final.processes[pid]? = some process →
      process.stage = .downloading mutex →
        ∃ front back before, events = front ++ .lookup pid :: back ∧
          run step (start calls blobs) front = some before ∧
          before.processes[pid]? = some { process with stage := .guarded mutex } ∧
          process.hex ∉ before.blobs ∧
          ∀ early late middle, back = early ++ late →
            run step before (.lookup pid :: early) = some middle →
              (middle.mutexes[mutex]?).bind Mutex.owner = some pid) := by
  have safe := Machine.run_invariant Safe safe_step (safe_start calls blobs) ran
  refine ⟨?_, ?_, ?_⟩
  · intro first second m n left right foundLeft foundRight same
    exact safe.one_mutex foundLeft foundRight same
  · intro first second m n left right foundLeft foundRight same
    exact safe.one_guard foundLeft foundRight same
  · intro pid mutex process standing stage
    obtain ⟨front, back, before, split, came, guarded, absent, since⟩ :=
      flown_run ran standing (by rw [stage]; rfl)
    refine ⟨front, back, before, split, came, guarded, absent, ?_⟩
    intro early late middle cut again
    obtain ⟨held, there, flown⟩ := since early late middle cut again
    have earlier := Machine.run_invariant Safe safe_step (safe_start calls blobs) came
    have now := Machine.run_invariant Safe safe_step earlier again
    exact now.owned pid held mutex there (flown_guard flown)

def sampleKey : String := String.ofList (List.replicate 64 'a')

def sampleCalls : List (String × Caller) :=
  [(sampleKey, .proxyBlob), (sampleKey, .startWarm), (sampleKey, .proxyBlob)]

/-- A request downloads a missing blob while an iteration of `start_warm` and another request come
for it. -/
def sampleEvents : List Event :=
  [.enter 0, .clone 0, .lock 0, .enter 1, .clone 1, .lookup 0, .lock 1, .enter 2, .clone 2,
   .download 0]

theorem single_flight_three_callers :
    ∃ final, run step (start sampleCalls []) sampleEvents = some final ∧
      final.processes = [⟨sampleKey, .proxyBlob, .downloading 0⟩,
        ⟨sampleKey, .startWarm, .releasing 0⟩, ⟨sampleKey, .proxyBlob, .handle 0⟩] ∧
      ∀ second right, final.processes[second]? = some right → right.hex = sampleKey →
        right.stage.guard = some 0 → 0 = second := by
  have ended : (run step (start sampleCalls []) sampleEvents).map Flight.processes =
      some [⟨sampleKey, .proxyBlob, .downloading 0⟩, ⟨sampleKey, .startWarm, .releasing 0⟩,
        ⟨sampleKey, .proxyBlob, .handle 0⟩] := by decide
  obtain ⟨final, ran, processes⟩ := Option.map_eq_some_iff.mp ended
  refine ⟨final, ran, processes, ?_⟩
  intro second right found named guard
  exact (single_flight sampleCalls [] sampleEvents final ran).2.1 0 second 0 0
    ⟨sampleKey, .proxyBlob, .downloading 0⟩ right (by rw [processes]; rfl) found named.symm rfl guard

end WebProxy.SingleFlight

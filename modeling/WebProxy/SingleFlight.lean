import WebProxy.Library.Machine
import WebProxy.Library.Slots

/-! The single flight of a digest: `inflight_lock`, and what `proxy_blob` and `start_warm` do with
the mutex it returns, interleaved in any way. -/

namespace WebProxy.SingleFlight

/-- The map is pruned when it has more entries than this. -/
def inflightLimit : Nat := 4096

structure Mutex where
  strong : Nat
  owner : Option Nat
  deriving DecidableEq, Repr

/-- A request waits for the mutex, an iteration of `start_warm` only tries it. -/
inductive Caller where
  | proxyBlob
  | startWarm
  deriving DecidableEq, Repr

/-- Where a caller stands. From `pruning` to `cloning` it holds the lock of the map; `condemned`
is between the look at a reference count and the removal of the entry; from `guarded` to
`downloading` it holds the guard, the last in the spawned task; `releasing` has unlocked the
mutex and still has its handle. -/
inductive Stage where
  | entering
  | pruning (position : Nat)
  | condemned (position : Nat)
  | cloning
  | handle (mutex : Nat)
  | guarded (mutex : Nat)
  | hit (mutex : Nat)
  | missed (mutex : Nat)
  | downloading (mutex : Nat)
  | releasing (mutex : Nat)
  | ended
  deriving DecidableEq, Repr

structure Process where
  hex : String
  caller : Caller
  stage : Stage
  deriving DecidableEq, Repr

structure Flight where
  inflight : List (String × Nat)
  mapHolder : Option Nat
  mutexes : List Mutex
  processes : List Process
  blobs : List String
  deriving DecidableEq, Repr

def start (calls : List (String × Caller)) (blobs : List String) : Flight :=
  ⟨[], none, [], calls.map (fun call => ⟨call.1, call.2, .entering⟩), blobs⟩

/-- The atomic steps. `unlock` drops the guard or, while waiting, gives up; it is also how a
download task ends and how a request that its client abandons does. -/
inductive Event where
  | enter (pid : Nat)
  | inspect (pid : Nat)
  | erase (pid : Nat)
  | clone (pid : Nat)
  | lock (pid : Nat)
  | lookup (pid : Nat)
  | download (pid : Nat)
  | commit (pid : Nat)
  | abandon (pid : Nat)
  | unlock (pid : Nat)
  | dropHandle (pid : Nat)
  | evict (hex : String)
  deriving DecidableEq, Repr

def Flight.stageOf (state : Flight) (pid : Nat) : Option Stage :=
  (state.processes[pid]?).map Process.stage

def Flight.advance (state : Flight) (pid : Nat) (stage : Stage) : Flight :=
  { state with processes := state.processes.modify pid (fun process => { process with stage := stage }) }

def Flight.setStrong (state : Flight) (mutex : Nat) (change : Nat → Nat) : Flight :=
  { state with
    mutexes := state.mutexes.modify mutex (fun held => { held with strong := change held.strong }) }

def Flight.setOwner (state : Flight) (mutex : Nat) (owner : Option Nat) : Flight :=
  { state with mutexes := state.mutexes.modify mutex (fun held => { held with owner := owner }) }

/-- `map.entry(hex).or_default().clone()`, and the map is released. -/
def Flight.cloneEntry (state : Flight) (pid : Nat) (hex : String) : Flight :=
  match state.inflight.find? (fun entry => entry.1 = hex) with
  | some (_, mutex) =>
      { (state.setStrong mutex (· + 1)).advance pid (.handle mutex) with mapHolder := none }
  | none =>
      { state.advance pid (.handle state.mutexes.length) with
        inflight := state.inflight ++ [(hex, state.mutexes.length)]
        mutexes := state.mutexes ++ [⟨2, none⟩]
        mapHolder := none }

def step (state : Flight) : Event → Option Flight
  | .enter pid =>
      match state.stageOf pid, state.mapHolder with
      | some .entering, none =>
          some { state.advance pid
              (if inflightLimit < state.inflight.length then .pruning 0 else .cloning) with
            mapHolder := some pid }
      | _, _ => none
  | .inspect pid =>
      match state.stageOf pid with
      | some (.pruning position) =>
          match state.inflight[position]? with
          | none => some (state.advance pid .cloning)
          | some (_, mutex) =>
              if ((state.mutexes[mutex]?).map Mutex.strong).getD 0 > 1 then
                some (state.advance pid (.pruning (position + 1)))
              else some (state.advance pid (.condemned position))
      | _ => none
  | .erase pid =>
      match state.stageOf pid with
      | some (.condemned position) =>
          match state.inflight[position]? with
          | some (_, mutex) =>
              some { (state.setStrong mutex (· - 1)).advance pid (.pruning position) with
                inflight := state.inflight.eraseIdx position }
          | none => none
      | _ => none
  | .clone pid =>
      match state.processes[pid]? with
      | some process => if process.stage = .cloning then some (state.cloneEntry pid process.hex) else none
      | none => none
  | .lock pid =>
      match state.processes[pid]? with
      | some process =>
          match process.stage with
          | .handle mutex =>
              match (state.mutexes[mutex]?).bind Mutex.owner, process.caller with
              | none, _ => some ((state.setOwner mutex (some pid)).advance pid (.guarded mutex))
              | some _, .startWarm => some (state.advance pid (.releasing mutex))
              | some _, .proxyBlob => none
          | _ => none
      | none => none
  | .lookup pid =>
      match state.processes[pid]? with
      | some process =>
          match process.stage with
          | .guarded mutex =>
              if process.hex ∈ state.blobs then some (state.advance pid (.hit mutex))
              else some (state.advance pid (.missed mutex))
          | _ => none
      | none => none
  | .download pid =>
      match state.stageOf pid with
      | some (.missed mutex) => some (state.advance pid (.downloading mutex))
      | _ => none
  | .commit pid =>
      match state.processes[pid]? with
      | some process =>
          match process.stage with
          | .downloading _ => some { state with blobs := process.hex :: state.blobs }
          | _ => none
      | none => none
  | .abandon pid =>
      match state.stageOf pid with
      | some .entering => some (state.advance pid .ended)
      | some (.handle mutex) => some (state.advance pid (.releasing mutex))
      | _ => none
  | .unlock pid =>
      match state.stageOf pid with
      | some (.guarded mutex) | some (.hit mutex) | some (.missed mutex) | some (.downloading mutex) =>
          some ((state.setOwner mutex none).advance pid (.releasing mutex))
      | _ => none
  | .dropHandle pid =>
      match state.stageOf pid with
      | some (.releasing mutex) => some ((state.setStrong mutex (· - 1)).advance pid .ended)
      | _ => none
  | .evict hex => some { state with blobs := state.blobs.filter (· ≠ hex) }

def Stage.mutex : Stage → Option Nat
  | .handle mutex | .guarded mutex | .hit mutex | .missed mutex | .downloading mutex
  | .releasing mutex => some mutex
  | _ => none

def Stage.guard : Stage → Option Nat
  | .guarded mutex | .hit mutex | .missed mutex | .downloading mutex => some mutex
  | _ => none

def Stage.mapping : Stage → Bool
  | .pruning _ | .condemned _ | .cloning => true
  | _ => false

/-- The lookup under the guard missed. -/
def Stage.flown : Stage → Option Nat
  | .missed mutex | .downloading mutex => some mutex
  | _ => none

def Flight.put (state : Flight) (pid : Nat) (process : Process) (stage : Stage) : Flight :=
  { state with processes := state.processes.set pid { process with stage := stage } }

/-- What one step does. `walk` covers the steps of a caller that change nothing but its stage and
neither gain a guard nor start a download. -/
inductive Move (state : Flight) : Event → Flight → Prop where
  | shelve {event : Event} (blobs : List String) : Move state event { state with blobs := blobs }
  | walk {event : Event} {pid : Nat} {process : Process} {after : Stage}
      (found : state.processes[pid]? = some process)
      (mutex : after.mutex = process.stage.mutex)
      (guard : after.guard = none ∨ after.guard = process.stage.guard)
      (mapping : after.mapping = true → process.stage.mapping = true)
      (spared : ∀ position, after ≠ .condemned position) (grounded : after.flown = none) :
      Move state event (state.put pid process after)
  | enter {pid : Nat} {process : Process} {after : Stage}
      (found : state.processes[pid]? = some process) (was : process.stage = .entering)
      (free : state.mapHolder = none) (inside : after = .pruning 0 ∨ after = .cloning) :
      Move state (.enter pid) { state.put pid process after with mapHolder := some pid }
  | condemn {pid position mutex : Nat} {process : Process} {hex : String}
      (found : state.processes[pid]? = some process) (was : process.stage = .pruning position)
      (entry : state.inflight[position]? = some (hex, mutex))
      (alone : ((state.mutexes[mutex]?).map Mutex.strong).getD 0 ≤ 1) :
      Move state (.inspect pid) (state.put pid process (.condemned position))
  | erase {pid position mutex : Nat} {process : Process} {hex : String}
      (found : state.processes[pid]? = some process) (was : process.stage = .condemned position)
      (entry : state.inflight[position]? = some (hex, mutex)) :
      Move state (.erase pid)
        { (state.setStrong mutex (· - 1)).put pid process (.pruning position) with
          inflight := state.inflight.eraseIdx position }
  | clone {pid mutex : Nat} {process : Process} (found : state.processes[pid]? = some process)
      (was : process.stage = .cloning) (listed : (process.hex, mutex) ∈ state.inflight) :
      Move state (.clone pid)
        { (state.setStrong mutex (· + 1)).put pid process (.handle mutex) with mapHolder := none }
  | create {pid : Nat} {process : Process} (found : state.processes[pid]? = some process)
      (was : process.stage = .cloning) (absent : ∀ entry ∈ state.inflight, entry.1 ≠ process.hex) :
      Move state (.clone pid)
        { state.put pid process (.handle state.mutexes.length) with
          inflight := state.inflight ++ [(process.hex, state.mutexes.length)]
          mutexes := state.mutexes ++ [⟨2, none⟩]
          mapHolder := none }
  | lock {pid mutex : Nat} {process : Process} (found : state.processes[pid]? = some process)
      (was : process.stage = .handle mutex) (free : (state.mutexes[mutex]?).bind Mutex.owner = none) :
      Move state (.lock pid) ((state.setOwner mutex (some pid)).put pid process (.guarded mutex))
  | miss {pid mutex : Nat} {process : Process} (found : state.processes[pid]? = some process)
      (was : process.stage = .guarded mutex) (absent : process.hex ∉ state.blobs) :
      Move state (.lookup pid) (state.put pid process (.missed mutex))
  | begin {pid mutex : Nat} {process : Process} (found : state.processes[pid]? = some process)
      (was : process.stage = .missed mutex) :
      Move state (.download pid) (state.put pid process (.downloading mutex))
  | unlock {pid mutex : Nat} {process : Process} (found : state.processes[pid]? = some process)
      (was : process.stage.guard = some mutex) (same : process.stage.mutex = some mutex) :
      Move state (.unlock pid) ((state.setOwner mutex none).put pid process (.releasing mutex))
  | drop {pid mutex : Nat} {process : Process} (found : state.processes[pid]? = some process)
      (was : process.stage = .releasing mutex) :
      Move state (.dropHandle pid) ((state.setStrong mutex (· - 1)).put pid process .ended)

theorem stageOf_some {state : Flight} {pid : Nat} {stage : Stage}
    (standing : state.stageOf pid = some stage) :
    ∃ process, state.processes[pid]? = some process ∧ process.stage = stage := by
  simpa [Flight.stageOf] using standing

theorem advance_eq {state : Flight} {pid : Nat} {process : Process} (stage : Stage)
    (found : state.processes[pid]? = some process) :
    state.advance pid stage = state.put pid process stage := by
  unfold Flight.advance Flight.put
  congr 1
  apply List.ext_getElem?
  intro other
  rw [List.getElem?_modify, List.getElem?_set]
  by_cases same : pid = other
  · subst same
    rw [found, if_pos rfl, if_pos (Slots.lt_of_get found)]
    simp
  · simp [same]

theorem cloneEntry_cases {state : Flight} {pid : Nat} {process : Process}
    (found : state.processes[pid]? = some process) (was : process.stage = .cloning) :
    Move state (.clone pid) (state.cloneEntry pid process.hex) := by
  unfold Flight.cloneEntry
  split
  · rename_i key mutex entry
    have member := List.mem_of_find?_eq_some entry
    have named : key = process.hex := by simpa using List.find?_some entry
    rw [advance_eq _ (show (state.setStrong mutex (· + 1)).processes[pid]? = some process from found)]
    exact .clone found was (named ▸ member)
  · rename_i missing
    rw [advance_eq _ found]
    refine .create found was ?_
    intro entry member
    simpa using List.find?_eq_none.mp missing entry member

theorem step_cases {state next : Flight} {event : Event} (taken : step state event = some next) :
    Move state event next := by
  cases event with
  | enter pid =>
      simp only [step] at taken
      split at taken
      · rename_i standing free
        obtain ⟨process, found, was⟩ := stageOf_some standing
        cases taken
        rw [advance_eq _ found]
        refine .enter found was free ?_
        split
        · exact Or.inl rfl
        · exact Or.inr rfl
      · cases taken
  | inspect pid =>
      simp only [step] at taken
      split at taken
      · rename_i position standing
        obtain ⟨process, found, was⟩ := stageOf_some standing
        split at taken
        · cases taken
          rw [advance_eq _ found]
          exact .walk found (by rw [was]; rfl) (Or.inl rfl) (fun _ => by rw [was]; rfl) (by simp) rfl
        · rename_i hex mutex entry
          split at taken
          · cases taken
            rw [advance_eq _ found]
            exact .walk found (by rw [was]; rfl) (Or.inl rfl) (fun _ => by rw [was]; rfl) (by simp) rfl
          · rename_i few
            cases taken
            rw [advance_eq _ found]
            exact .condemn found was entry (Nat.not_lt.mp few)
      · cases taken
  | erase pid =>
      simp only [step] at taken
      split at taken
      · rename_i position standing
        obtain ⟨process, found, was⟩ := stageOf_some standing
        split at taken
        · rename_i hex mutex entry
          cases taken
          rw [advance_eq _ (show (state.setStrong mutex (· - 1)).processes[pid]? = some process
            from found)]
          exact .erase found was entry
        · cases taken
      · cases taken
  | clone pid =>
      simp only [step] at taken
      split at taken
      · rename_i process found
        split at taken
        · rename_i was
          cases taken
          exact cloneEntry_cases found was
        · cases taken
      · cases taken
  | lock pid =>
      simp only [step] at taken
      split at taken
      · rename_i process found
        split at taken
        · rename_i mutex was
          split at taken
          · rename_i free
            cases taken
            rw [advance_eq _ (show (state.setOwner mutex (some pid)).processes[pid]? = some process
              from found)]
            exact .lock found was free
          · cases taken
            rw [advance_eq _ found]
            exact .walk found (by rw [was]; rfl) (Or.inl rfl) (by simp [Stage.mapping]) (by simp) rfl
          · cases taken
        · cases taken
      · cases taken
  | lookup pid =>
      simp only [step] at taken
      split at taken
      · rename_i process found
        split at taken
        · rename_i mutex was
          split at taken
          · cases taken
            rw [advance_eq _ found]
            exact .walk found (by rw [was]; rfl) (Or.inr (by rw [was]; rfl)) (by simp [Stage.mapping])
              (by simp) rfl
          · rename_i absent
            cases taken
            rw [advance_eq _ found]
            exact .miss found was absent
        · cases taken
      · cases taken
  | download pid =>
      simp only [step] at taken
      split at taken
      · rename_i mutex standing
        obtain ⟨process, found, was⟩ := stageOf_some standing
        cases taken
        rw [advance_eq _ found]
        exact .begin found was
      · cases taken
  | commit pid =>
      simp only [step] at taken
      split at taken
      · split at taken
        · cases taken
          exact .shelve _
        · cases taken
      · cases taken
  | abandon pid =>
      simp only [step] at taken
      split at taken
      · rename_i standing
        obtain ⟨process, found, was⟩ := stageOf_some standing
        cases taken
        rw [advance_eq _ found]
        exact .walk found (by rw [was]; rfl) (Or.inl rfl) (by simp [Stage.mapping]) (by simp) rfl
      · rename_i mutex standing
        obtain ⟨process, found, was⟩ := stageOf_some standing
        cases taken
        rw [advance_eq _ found]
        exact .walk found (by rw [was]; rfl) (Or.inl rfl) (by simp [Stage.mapping]) (by simp) rfl
      · cases taken
  | unlock pid =>
      have released : ∀ (mutex : Nat) (stage : Stage), state.stageOf pid = some stage →
          stage.guard = some mutex → stage.mutex = some mutex →
          some ((state.setOwner mutex none).advance pid (.releasing mutex)) = some next →
          Move state (.unlock pid) next := by
        intro mutex stage standing guard same taken
        obtain ⟨process, found, rfl⟩ := stageOf_some standing
        cases taken
        rw [advance_eq _ (show (state.setOwner mutex none).processes[pid]? = some process from found)]
        exact .unlock found guard same
      simp only [step] at taken
      split at taken
      · exact released _ _ ‹_› rfl rfl taken
      · exact released _ _ ‹_› rfl rfl taken
      · exact released _ _ ‹_› rfl rfl taken
      · exact released _ _ ‹_› rfl rfl taken
      · cases taken
  | dropHandle pid =>
      simp only [step] at taken
      split at taken
      · rename_i mutex standing
        obtain ⟨process, found, was⟩ := stageOf_some standing
        cases taken
        rw [advance_eq _ (show (state.setStrong mutex (· - 1)).processes[pid]? = some process
          from found)]
        exact .drop found was
      · cases taken
  | evict hex =>
      cases taken
      exact .shelve _

end WebProxy.SingleFlight

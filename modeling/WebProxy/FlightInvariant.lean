import Mathlib.Data.List.InsertIdx
import Mathlib.Data.List.Nodup
import WebProxy.SingleFlight

/-! Why pruning never splits a flight: an entry leaves the map only while nobody has a handle of
its mutex, and nobody can take one before the map is released. -/

namespace WebProxy.SingleFlight

def Mapped (state : Flight) : Prop :=
  ∀ (pid : Nat) (process : Process), state.processes[pid]? = some process →
    process.stage.mapping = true → state.mapHolder = some pid

theorem mapped_put {state : Flight} (mapped : Mapped state) {pid : Nat} {process : Process}
    {after : Stage} (found : state.processes[pid]? = some process)
    (mapping : after.mapping = true → process.stage.mapping = true) :
    Mapped (state.put pid process after) := by
  intro other held standing inside
  rcases Slots.get_set_cases standing with ⟨rfl, rfl⟩ | ⟨_, standing⟩
  · exact mapped other process found (mapping inside)
  · exact mapped other held standing inside

theorem Mapped.outside {state : Flight} (mapped : Mapped state) {pid other : Nat}
    {process held : Process} (found : state.processes[pid]? = some process)
    (mapping : process.stage.mapping = true) (apart : other ≠ pid)
    (standing : state.processes[other]? = some held) : held.stage.mapping = false := by
  by_contra inside
  rw [Bool.not_eq_false] at inside
  have first := mapped pid process found mapping
  rw [mapped other held standing inside] at first
  exact apart (Option.some.inj first)

theorem mapped_left {state : Flight} (mapped : Mapped state) {pid : Nat} {process : Process}
    {after : Stage} (found : state.processes[pid]? = some process)
    (mapping : process.stage.mapping = true) (left : after.mapping = false)
    (inflight : List (String × Nat)) (mutexes : List Mutex) :
    Mapped ⟨inflight, none, mutexes, state.processes.set pid { process with stage := after },
      state.blobs⟩ := by
  intro other held standing inside
  rcases Slots.get_set_cases standing with ⟨_, rfl⟩ | ⟨apart, standing⟩
  · exact absurd inside (by simp [left])
  · exact absurd inside (by simp [mapped.outside found mapping apart standing])

theorem mapped_step (state : Flight) (event : Event) (next : Flight) (mapped : Mapped state)
    (taken : step state event = some next) : Mapped next := by
  cases step_cases taken with
  | shelve blobs => exact mapped
  | walk found mutex guard mapping spared grounded => exact mapped_put mapped found mapping
  | enter found was free inside =>
      intro other held standing mapping
      rcases Slots.get_set_cases standing with ⟨rfl, _⟩ | ⟨_, standing⟩
      · rfl
      · have owner := mapped other held standing mapping
        rw [free] at owner
        cases owner
  | condemn found was entry alone => exact mapped_put mapped found (fun _ => by rw [was]; rfl)
  | erase found was entry => exact mapped_put mapped found (fun _ => by rw [was]; rfl)
  | clone found was listed => exact mapped_left mapped found (by rw [was]; rfl) rfl _ _
  | create found was absent => exact mapped_left mapped found (by rw [was]; rfl) rfl _ _
  | lock found was free => exact mapped_put mapped found (by simp [Stage.mapping])
  | miss found was absent => exact mapped_put mapped found (by simp [Stage.mapping])
  | begin found was => exact mapped_put mapped found (by simp [Stage.mapping])
  | unlock found was same => exact mapped_put mapped found (by simp [Stage.mapping])
  | drop found was => exact mapped_put mapped found (by simp [Stage.mapping])

def refers (mutex : Nat) (process : Process) : Bool := process.stage.mutex = some mutex

def references (processes : List Process) (mutex : Nat) : Nat := processes.countP (refers mutex)

def listed (inflight : List (String × Nat)) (mutex : Nat) : Nat :=
  if mutex ∈ inflight.map Prod.snd then 1 else 0

/-- The map and the reference counts. A handle is always of the mutex the map has for its digest,
and an entry that is about to be removed has no handles. -/
structure Counted (state : Flight) : Prop where
  keys : (state.inflight.map Prod.fst).Nodup
  ids : (state.inflight.map Prod.snd).Nodup
  known : ∀ entry ∈ state.inflight, entry.2 < state.mutexes.length
  held : ∀ (pid : Nat) (process : Process) (mutex : Nat), state.processes[pid]? = some process →
    process.stage.mutex = some mutex → (process.hex, mutex) ∈ state.inflight
  strong : ∀ (mutex : Nat) (cell : Mutex), state.mutexes[mutex]? = some cell →
    cell.strong = references state.processes mutex + listed state.inflight mutex
  condemned : ∀ (pid position : Nat) (process : Process), state.processes[pid]? = some process →
    process.stage = .condemned position → ∃ hex mutex,
      state.inflight[position]? = some (hex, mutex) ∧ references state.processes mutex = 0

theorem references_put {state : Flight} {pid : Nat} {process : Process} (after : Stage)
    (found : state.processes[pid]? = some process) (mutex : Nat) :
    references (state.put pid process after).processes mutex +
        (if process.stage.mutex = some mutex then 1 else 0) =
      references state.processes mutex + (if after.mutex = some mutex then 1 else 0) := by
  have counted := Slots.countP_set (refers mutex) { process with stage := after } found
  simpa [refers, references, Flight.put] using counted

theorem references_same {state : Flight} {pid : Nat} {process : Process} {after : Stage}
    (found : state.processes[pid]? = some process) (same : after.mutex = process.stage.mutex)
    (mutex : Nat) :
    references (state.put pid process after).processes mutex = references state.processes mutex := by
  have counted := references_put after found mutex
  rw [same] at counted
  omega

theorem Counted.refers_known {state : Flight} (counted : Counted state) {pid mutex : Nat}
    {process : Process} (found : state.processes[pid]? = some process)
    (handle : process.stage.mutex = some mutex) : mutex < state.mutexes.length :=
  counted.known _ (counted.held pid process mutex found handle)

theorem Counted.unreferenced {state : Flight} (counted : Counted state) {mutex : Nat}
    (fresh : state.mutexes.length ≤ mutex) : references state.processes mutex = 0 := by
  rw [references, List.countP_eq_zero]
  intro process member handle
  obtain ⟨pid, found⟩ := List.getElem?_of_mem member
  have known := counted.refers_known found (by simpa [refers] using handle)
  omega

theorem counted_put {state : Flight} (counted : Counted state) {pid : Nat} {process : Process}
    {after : Stage} (found : state.processes[pid]? = some process)
    (same : after.mutex = process.stage.mutex)
    (doomed : ∀ position, after = .condemned position → ∃ hex mutex,
      state.inflight[position]? = some (hex, mutex) ∧ references state.processes mutex = 0) :
    Counted (state.put pid process after) where
  keys := counted.keys
  ids := counted.ids
  known := counted.known
  held := by
    intro other moved mutex standing handle
    rcases Slots.get_set_cases standing with ⟨rfl, rfl⟩ | ⟨_, standing⟩
    · exact counted.held other process mutex found (same ▸ handle)
    · exact counted.held other moved mutex standing handle
  strong := by
    intro mutex cell present
    rw [references_same found same]
    exact counted.strong mutex cell present
  condemned := by
    intro other position moved standing stage
    simp only [references_same found same]
    rcases Slots.get_set_cases standing with ⟨rfl, rfl⟩ | ⟨_, standing⟩
    · exact doomed position stage
    · exact counted.condemned other position moved standing stage

theorem counted_setOwner {state : Flight} (counted : Counted state) (mutex : Nat)
    (owner : Option Nat) : Counted (state.setOwner mutex owner) where
  keys := counted.keys
  ids := counted.ids
  known := by simpa [Flight.setOwner] using counted.known
  held := counted.held
  strong := by
    intro other cell present
    simp only [Flight.setOwner, List.getElem?_modify, Option.map_eq_map,
      Option.map_eq_some_iff] at present
    obtain ⟨before, present, rfl⟩ := present
    have value := counted.strong other before present
    split <;> exact value
  condemned := counted.condemned

theorem Counted.alone {state : Flight} (counted : Counted state) {position mutex : Nat}
    {hex : String} (entry : state.inflight[position]? = some (hex, mutex))
    (few : ((state.mutexes[mutex]?).map Mutex.strong).getD 0 ≤ 1) :
    references state.processes mutex = 0 := by
  have member := List.mem_of_getElem? entry
  have known := counted.known _ member
  have present := List.getElem?_eq_getElem known
  have value := counted.strong mutex _ present
  have inMap : listed state.inflight mutex = 1 := if_pos (List.mem_map_of_mem member)
  rw [present, Option.map_some, Option.getD_some, value, inMap] at few
  omega

theorem getElem?_setStrong (state : Flight) (mutex : Nat) (change : Nat → Nat) (other : Nat) :
    (state.setStrong mutex change).mutexes[other]? =
      (state.mutexes[other]?).map (fun cell =>
        if mutex = other then { cell with strong := change cell.strong } else cell) := by
  simp only [Flight.setStrong, List.getElem?_modify, Option.map_eq_map]

theorem length_setStrong (state : Flight) (mutex : Nat) (change : Nat → Nat) :
    (state.setStrong mutex change).mutexes.length = state.mutexes.length := by
  simp [Flight.setStrong]

theorem Mapped.uncondemned {state : Flight} (mapped : Mapped state) {pid : Nat} {process : Process}
    {after : Stage} (found : state.processes[pid]? = some process)
    (mapping : process.stage.mapping = true) (spared : ∀ position, after ≠ .condemned position)
    {other position : Nat} {held : Process}
    (standing : (state.put pid process after).processes[other]? = some held) :
    held.stage ≠ .condemned position := by
  rcases Slots.get_set_cases standing with ⟨_, rfl⟩ | ⟨apart, standing⟩
  · exact spared position
  · intro stage
    have outside := mapped.outside found mapping apart standing
    rw [stage] at outside
    cases outside

theorem listed_eraseIdx {inflight : List (String × Nat)} {position mutex : Nat} {hex : String}
    (ids : (inflight.map Prod.snd).Nodup) (entry : inflight[position]? = some (hex, mutex))
    (other : Nat) :
    listed (inflight.eraseIdx position) other + (if mutex = other then 1 else 0) =
      listed inflight other := by
  have same : (inflight.eraseIdx position).map Prod.snd =
      (inflight.map Prod.snd).eraseIdx position := (List.eraseIdx_map _ _ _).symm
  have place : (inflight.map Prod.snd)[position]? = some mutex := by
    rw [List.getElem?_map, entry]
    rfl
  simp only [listed, same]
  by_cases erased : mutex = other
  · subst erased
    have gone : mutex ∉ (inflight.map Prod.snd).eraseIdx position := by
      rw [List.mem_eraseIdx_iff_getElem?]
      intro later
      rcases later with ⟨index, apart, again⟩
      exact apart ((List.getElem?_inj (Slots.lt_of_get again) ids).mp (again.trans place.symm))
    rw [if_neg gone, if_pos rfl, if_pos (List.mem_of_getElem? place)]
  · have kept : other ∈ (inflight.map Prod.snd).eraseIdx position ↔
        other ∈ inflight.map Prod.snd := by
      rw [List.mem_eraseIdx_iff_getElem?]
      constructor
      · intro later
        rcases later with ⟨index, _, held⟩
        exact List.mem_of_getElem? held
      · intro member
        obtain ⟨index, held⟩ := List.getElem?_of_mem member
        refine ⟨index, ?_, held⟩
        intro same
        rw [same, place] at held
        exact erased (Option.some.inj held)
    rw [if_neg erased]
    by_cases member : other ∈ inflight.map Prod.snd
    · rw [if_pos (kept.mpr member), if_pos member]
    · rw [if_neg (fun later => member (kept.mp later)), if_neg member]

theorem counted_erase {state : Flight} (mapped : Mapped state) (counted : Counted state)
    {pid position mutex : Nat} {process : Process} {hex : String}
    (found : state.processes[pid]? = some process) (was : process.stage = .condemned position)
    (entry : state.inflight[position]? = some (hex, mutex)) :
    Counted { (state.setStrong mutex (· - 1)).put pid process (.pruning position) with
      inflight := state.inflight.eraseIdx position } := by
  obtain ⟨_, _, again, none⟩ := counted.condemned pid position process found was
  rw [entry] at again
  cases again
  have handles : ∀ other, references (state.put pid process (.pruning position)).processes other =
      references state.processes other := references_same found (by rw [was]; rfl)
  have shorter := List.eraseIdx_sublist state.inflight position
  exact
    { keys := (shorter.map _).nodup counted.keys
      ids := (shorter.map _).nodup counted.ids
      known := by
        intro later member
        exact Nat.lt_of_lt_of_eq (counted.known later (shorter.subset member))
          (length_setStrong state mutex (· - 1)).symm
      held := by
        intro other moved handled after handle
        rcases Slots.get_set_cases after with ⟨_, rfl⟩ | ⟨_, standing⟩
        · cases handle
        · have member := counted.held other moved handled standing handle
          obtain ⟨index, place⟩ := List.getElem?_of_mem member
          rw [List.mem_eraseIdx_iff_getElem?]
          refine ⟨index, ?_, place⟩
          intro same
          rw [same, entry] at place
          cases place
          have counts := List.countP_eq_zero.mp none moved (List.mem_of_getElem? standing)
          exact counts (by simpa [refers] using handle)
      strong := by
        intro other cell after
        obtain ⟨before, present, rfl⟩ := Option.map_eq_some_iff.mp
          ((getElem?_setStrong state mutex (· - 1) other).symm.trans after)
        have value := counted.strong other before present
        have erased := listed_eraseIdx counted.ids entry other
        change _ = references (state.put pid process (.pruning position)).processes other +
          listed (state.inflight.eraseIdx position) other
        rw [handles other]
        split
        · rename_i here
          rw [if_pos here] at erased
          simp only
          omega
        · rename_i away
          rw [if_neg away] at erased
          omega
      condemned := by
        intro other place moved standing stage
        exact absurd stage (mapped.uncondemned found (by rw [was]; rfl) (by simp) standing) }

theorem counted_clone {state : Flight} (mapped : Mapped state) (counted : Counted state)
    {pid mutex : Nat} {process : Process} (found : state.processes[pid]? = some process)
    (was : process.stage = .cloning) (member : (process.hex, mutex) ∈ state.inflight) :
    Counted { (state.setStrong mutex (· + 1)).put pid process (.handle mutex) with
      mapHolder := none } where
  keys := counted.keys
  ids := counted.ids
  known := by
    intro entry present
    exact Nat.lt_of_lt_of_eq (counted.known entry present)
      (length_setStrong state mutex (· + 1)).symm
  held := by
    intro other moved handled after handle
    rcases Slots.get_set_cases after with ⟨_, rfl⟩ | ⟨_, standing⟩
    · cases handle
      exact member
    · exact counted.held other moved handled standing handle
  strong := by
    intro other cell after
    obtain ⟨before, present, rfl⟩ := Option.map_eq_some_iff.mp
      ((getElem?_setStrong state mutex (· + 1) other).symm.trans after)
    have value := counted.strong other before present
    have handles := references_put (.handle mutex) found other
    rw [was] at handles
    simp only [Stage.mutex, Option.some.injEq, reduceCtorEq, if_false, Nat.add_zero] at handles
    change _ = references (state.put pid process (.handle mutex)).processes other +
      listed state.inflight other
    rw [handles]
    split
    · simp only
      omega
    · omega
  condemned := by
    intro other place moved standing stage
    exact absurd stage (mapped.uncondemned found (by rw [was]; rfl) (by simp) standing)

theorem counted_create {state : Flight} (mapped : Mapped state) (counted : Counted state)
    {pid : Nat} {process : Process} (found : state.processes[pid]? = some process)
    (was : process.stage = .cloning) (absent : ∀ entry ∈ state.inflight, entry.1 ≠ process.hex) :
    Counted { state.put pid process (.handle state.mutexes.length) with
      inflight := state.inflight ++ [(process.hex, state.mutexes.length)]
      mutexes := state.mutexes ++ [⟨2, none⟩]
      mapHolder := none } := by
  have fresh : state.mutexes.length ∉ state.inflight.map Prod.snd := by
    intro member
    obtain ⟨entry, present, same⟩ := List.mem_map.mp member
    have known := counted.known entry present
    omega
  have handles := references_put (.handle state.mutexes.length) found
  rw [was] at handles
  simp only [Stage.mutex, Option.some.injEq, reduceCtorEq, if_false, Nat.add_zero] at handles
  have listing : ∀ other, listed (state.inflight ++ [(process.hex, state.mutexes.length)]) other =
      listed state.inflight other + (if state.mutexes.length = other then 1 else 0) := by
    intro other
    simp only [listed, List.map_append, List.map_cons, List.map_nil, List.mem_append,
      List.mem_singleton]
    by_cases new : state.mutexes.length = other
    · subst new
      rw [if_pos (Or.inr rfl), if_neg fresh, if_pos rfl]
    · rw [if_neg new, Nat.add_zero]
      exact if_congr (or_iff_left (Ne.symm new)) rfl rfl
  have unnamed : process.hex ∉ state.inflight.map Prod.fst := by
    intro member
    obtain ⟨entry, present, same⟩ := List.mem_map.mp member
    exact absent entry present same
  exact
    { keys := by simpa using List.Nodup.concat unnamed counted.keys
      ids := by simpa using List.Nodup.concat fresh counted.ids
      known := by
        intro entry present
        simp only [List.length_append, List.length_singleton]
        rcases List.mem_append.mp present with before | new
        · exact Nat.lt_succ_of_lt (counted.known entry before)
        · rw [List.mem_singleton.mp new]
          exact Nat.lt_succ_self _
      held := by
        intro other moved handled after handle
        rcases Slots.get_set_cases after with ⟨_, rfl⟩ | ⟨_, standing⟩
        · cases handle
          exact List.mem_append_right _ (List.mem_singleton.mpr rfl)
        · exact List.mem_append_left _ (counted.held other moved handled standing handle)
      strong := by
        intro other cell present
        change cell.strong =
          references (state.put pid process (.handle state.mutexes.length)).processes other +
            listed (state.inflight ++ [(process.hex, state.mutexes.length)]) other
        rw [handles, listing]
        by_cases new : state.mutexes.length = other
        · subst new
          rw [List.getElem?_concat_length] at present
          cases present
          rw [counted.unreferenced (Nat.le_refl _), listed, if_neg fresh]
          simp
        · have bound : other < state.mutexes.length := by
            have below := Slots.lt_of_get present
            rw [List.length_append, List.length_singleton] at below
            omega
          rw [List.getElem?_append_left bound] at present
          rw [if_neg new, counted.strong other cell present]
          rfl
      condemned := by
        intro other place moved standing stage
        exact absurd stage (mapped.uncondemned found (by rw [was]; rfl) (by simp) standing) }

theorem counted_drop {state : Flight} (counted : Counted state) {pid mutex : Nat}
    {process : Process} (found : state.processes[pid]? = some process)
    (was : process.stage = .releasing mutex) :
    Counted ((state.setStrong mutex (· - 1)).put pid process .ended) := by
  have handles := references_put .ended found
  rw [was] at handles
  simp only [Stage.mutex, Option.some.injEq, reduceCtorEq, if_false, Nat.add_zero] at handles
  exact
    { keys := counted.keys
      ids := counted.ids
      known := by
        intro entry present
        exact Nat.lt_of_lt_of_eq (counted.known entry present)
          (length_setStrong state mutex (· - 1)).symm
      held := by
        intro other moved handled after handle
        rcases Slots.get_set_cases after with ⟨_, rfl⟩ | ⟨_, standing⟩
        · cases handle
        · exact counted.held other moved handled standing handle
      strong := by
        intro other cell after
        obtain ⟨before, present, rfl⟩ := Option.map_eq_some_iff.mp
          ((getElem?_setStrong state mutex (· - 1) other).symm.trans after)
        have value := counted.strong other before present
        have fewer := handles other
        change _ = references (state.put pid process .ended).processes other +
          listed state.inflight other
        split
        · rename_i here
          rw [if_pos here] at fewer
          simp only
          omega
        · rename_i away
          rw [if_neg away] at fewer
          omega
      condemned := by
        intro other position moved after stage
        rcases Slots.get_set_cases after with ⟨_, rfl⟩ | ⟨_, standing⟩
        · cases stage
        · obtain ⟨hex, doomed, entry, none⟩ :=
            counted.condemned other position moved standing stage
          refine ⟨hex, doomed, entry, ?_⟩
          have fewer := handles doomed
          change references (state.put pid process .ended).processes doomed = 0
          omega }

theorem counted_step (state : Flight) (event : Event) (next : Flight)
    (sound : Mapped state ∧ Counted state) (taken : step state event = some next) :
    Mapped next ∧ Counted next := by
  obtain ⟨mapped, counted⟩ := sound
  refine ⟨mapped_step state event next mapped taken, ?_⟩
  cases step_cases taken with
  | shelve blobs =>
      exact ⟨counted.keys, counted.ids, counted.known, counted.held, counted.strong,
        counted.condemned⟩
  | walk found mutex guard mapping spared grounded =>
      exact counted_put counted found mutex (fun position same => absurd same (spared position))
  | @enter pid process after found was free inside =>
      have empty : after.mutex = process.stage.mutex := by
        rcases inside with rfl | rfl <;> rw [was] <;> rfl
      have spared : ∀ position, after ≠ .condemned position := by
        rcases inside with pruning | cloning
        · simp [pruning]
        · simp [cloning]
      have moved := counted_put counted found empty
        (fun position same => absurd same (spared position))
      exact ⟨moved.keys, moved.ids, moved.known, moved.held, moved.strong, moved.condemned⟩
  | condemn found was entry alone =>
      apply counted_put counted found (by rw [was]; rfl)
      intro place same
      cases same
      exact ⟨_, _, entry, counted.alone entry alone⟩
  | erase found was entry => exact counted_erase mapped counted found was entry
  | clone found was member => exact counted_clone mapped counted found was member
  | create found was absent => exact counted_create mapped counted found was absent
  | lock found was free =>
      exact counted_put (counted_setOwner counted _ _) found (by rw [was]; rfl) (by simp)
  | miss found was absent => exact counted_put counted found (by rw [was]; rfl) (by simp)
  | begin found was => exact counted_put counted found (by rw [was]; rfl) (by simp)
  | unlock found was same =>
      exact counted_put (counted_setOwner counted _ _) found (by rw [same]; rfl) (by simp)
  | drop found was => exact counted_drop counted found was

end WebProxy.SingleFlight

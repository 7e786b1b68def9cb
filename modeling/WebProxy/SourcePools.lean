import WebProxy.Library.Slots
import WebProxy.SourceSafety

/-! The source pools that follow one another: `save_sources_config` replaces the current one while requests,
downloads and probes still hold the others, and the prober of a pool ends by itself once it alone holds it. -/

namespace WebProxy.SourcePools

open SaveSettings (Paths)
open SourceConfig (Externals Files Saving SourceSpec parseValue save specsJson writeSources)

inductive Prober where
  | sleeping
  | probing
  | ended
  deriving DecidableEq, Repr

structure Pool where
  specs : List SourceSpec
  prober : Prober
  deriving DecidableEq, Repr

inductive Put where
  | locked (specs : List SourceSpec)
  | saved (specs : List SourceSpec)
  | created (pool : Nat)
  deriving DecidableEq, Repr

/-- `holders` has the pool of every clone that a task other than a prober holds. -/
structure State where
  pools : List Pool
  current : Nat
  holders : List Nat
  put : Option Put
  files : Files

def start (installed : List SourceSpec) (files : Files) : State := ⟨[⟨installed, .sleeping⟩], 0, [0], none, files⟩

def Prober.clones : Prober → Nat
  | .sleeping => 1
  | .probing => 2
  | .ended => 0

def Put.clones (pool : Nat) : Option Put → Nat
  | some (.created made) => if made = pool then 1 else 0
  | _ => 0

def State.strongCount (state : State) (id : Nat) (pool : Pool) : Nat :=
  (if state.current = id then 1 else 0) + pool.prober.clones + state.holders.count id + Put.clones id state.put

inductive Event where
  /-- A task reads `state.sources`. -/
  | read
  | clone (holder : Nat)
  | drop (holder : Nat)
  /-- A probe of one source starts. -/
  | fork (pool : Nat)
  /-- The sleep of a prober ends. -/
  | wake (pool : Nat)
  | probed (pool : Nat)
  | put (body : Json)
  | save (saving : Saving)
  | create
  | replace

def State.setProber (state : State) (id : Nat) (pool : Pool) (prober : Prober) : State :=
  { state with pools := state.pools.set id { pool with prober := prober } }

section Steps

variable (externals : Externals) (paths : Paths)

def step (state : State) : Event → Option State
  | .read => if state.put = none then some { state with holders := state.current :: state.holders } else none
  | .clone holder => (state.holders[holder]?).map (fun id => { state with holders := id :: state.holders })
  | .drop holder =>
      (state.holders[holder]?).map (fun _ => { state with holders := state.holders.eraseIdx holder })
  | .fork id =>
      (state.pools[id]?).bind (fun pool =>
        if pool.prober = .probing then some { state with holders := id :: state.holders } else none)
  | .wake id =>
      (state.pools[id]?).bind (fun pool =>
        if pool.prober = .sleeping then
          some (state.setProber id pool (if state.strongCount id pool = 1 then .ended else .probing))
        else none)
  | .probed id =>
      (state.pools[id]?).bind (fun pool =>
        if pool.prober = .probing then some (state.setProber id pool .sleeping) else none)
  | .put body =>
      match state.put, parseValue externals body with
      | none, .ok specs => some { state with put := some (.locked specs) }
      | _, _ => none
  | .save saving =>
      match state.put with
      | some (.locked specs) =>
          match save externals paths state.files specs saving with
          | .error _ => some { state with put := none }
          | .ok files => some { state with put := some (.saved specs), files := files }
      | _ => none
  | .create =>
      match state.put with
      | some (.saved specs) =>
          some { state with
            pools := state.pools ++ [⟨specs, .sleeping⟩]
            holders := state.pools.length :: state.holders
            put := some (.created state.pools.length) }
      | _ => none
  | .replace =>
      match state.put with
      | some (.created id) => some { state with current := id, put := none }
      | _ => none

end Steps

/-- Some task other than its prober has the pool in its hands. -/
def Held (state : State) (id : Nat) : Prop :=
  state.current = id ∨ id ∈ state.holders ∨ state.put = some (.created id)

def Written (externals : Externals) (paths : Paths) (files : Files) (specs : List SourceSpec) : Prop :=
  files paths.file = .text (externals.printJson (specsJson specs))

def Agrees (externals : Externals) (paths : Paths) (before : Files) (state : State) (id : Nat) : Prop :=
  (∃ pool, state.pools[id]? = some pool ∧ Written externals paths state.files pool.specs) ∨
    (id = 0 ∧ state.files = before)

def PutSound (externals : Externals) (paths : Paths) (before : Files) (state : State) : Option Put → Prop
  | none => Agrees externals paths before state state.current
  | some (.locked specs) => specs ≠ [] ∧ Agrees externals paths before state state.current
  | some (.saved specs) => specs ≠ [] ∧ Written externals paths state.files specs
  | some (.created id) => Agrees externals paths before state id

structure Inv (externals : Externals) (paths : Paths) (before : Files) (state : State) : Prop where
  alive : ∀ id, Held state id → ∃ pool, state.pools[id]? = some pool ∧ pool.prober ≠ .ended
  listed : ∀ pool ∈ state.pools, pool.specs ≠ []
  put : PutSound externals paths before state state.put

theorem not_held_of_count {state : State} {id : Nat} {pool : Pool} (sleeping : pool.prober = .sleeping)
    (alone : state.strongCount id pool = 1) : ¬ Held state id := by
  unfold State.strongCount at alone
  rw [sleeping, Prober.clones] at alone
  intro held
  cases held with
  | inl current =>
      rw [if_pos current] at alone
      omega
  | inr held =>
      cases held with
      | inl holder =>
          have some_clone := List.count_pos_iff.mpr holder
          omega
      | inr created =>
          have own : Put.clones id state.put = 1 := by
            rw [created]
            exact if_pos rfl
          omega

theorem count_of_not_held {state : State} {id : Nat} {pool : Pool} (sleeping : pool.prober = .sleeping)
    (free : ¬ Held state id) : state.strongCount id pool = 1 := by
  have current : ¬ state.current = id := fun same => free (Or.inl same)
  have holders : state.holders.count id = 0 :=
    List.count_eq_zero.mpr (fun member => free (Or.inr (Or.inl member)))
  have put : Put.clones id state.put = 0 := by
    unfold Put.clones
    split
    · rename_i made is
      exact if_neg (fun same => free (Or.inr (Or.inr (by rw [is, same]))))
    · rfl
  rw [State.strongCount, if_neg current, holders, put, sleeping, Prober.clones]

def Grown (state next : State) : Prop :=
  ∀ (id : Nat) (pool : Pool), state.pools[id]? = some pool →
    ∃ later : Pool, next.pools[id]? = some later ∧ later.specs = pool.specs

theorem grown_set {state : State} {id : Nat} {pool : Pool} (found : state.pools[id]? = some pool)
    (prober : Prober) : Grown state (state.setProber id pool prober) := by
  intro other held there
  by_cases same : other = id
  · subst same
    rw [found] at there
    cases there
    exact ⟨_, Slots.get_set_self _ found, rfl⟩
  · exact ⟨held, (List.getElem?_set_ne (Ne.symm same)).trans there, rfl⟩

section Kept

variable {externals : Externals} {paths : Paths} {before : Files} {state next : State}

theorem Agrees.mono (grown : Grown state next) (files : next.files = state.files) {id : Nat}
    (agrees : Agrees externals paths before state id) : Agrees externals paths before next id := by
  cases agrees with
  | inl listed =>
      obtain ⟨pool, found, written⟩ := listed
      obtain ⟨later, there, same⟩ := grown id pool found
      left
      rw [files]
      exact ⟨later, there, same ▸ written⟩
  | inr first => exact Or.inr ⟨first.1, files.trans first.2⟩

theorem PutSound.mono (grown : Grown state next) (files : next.files = state.files)
    (current : next.current = state.current) {put : Option Put}
    (sound : PutSound externals paths before state put) : PutSound externals paths before next put := by
  cases put with
  | none =>
      rw [PutSound, current]
      exact Agrees.mono grown files sound
  | some put =>
      cases put with
      | locked specs =>
          rw [PutSound, current]
          exact ⟨sound.1, sound.2.mono grown files⟩
      | saved specs =>
          rw [PutSound, files]
          exact sound
      | created id => exact Agrees.mono grown files sound

theorem Held.of_put {put : Option Put} {id : Nat} (other : ∀ made, put ≠ some (.created made))
    (held : Held { state with put := put } id) : Held state id := by
  cases held with
  | inl current => exact Or.inl current
  | inr held =>
      cases held with
      | inl holder => exact Or.inr (Or.inl holder)
      | inr created => exact absurd created (other id)

theorem inv_hold (inv : Inv externals paths before state) {id : Nat}
    (there : ∃ pool, state.pools[id]? = some pool ∧ pool.prober ≠ .ended) :
    Inv externals paths before { state with holders := id :: state.holders } where
  alive := by
    intro other held
    cases held with
    | inl current => exact inv.alive other (Or.inl current)
    | inr held =>
        cases held with
        | inl holder =>
            cases List.mem_cons.mp holder with
            | inl same => exact same ▸ there
            | inr old => exact inv.alive other (Or.inr (Or.inl old))
        | inr created => exact inv.alive other (Or.inr (Or.inr created))
  listed := inv.listed
  put := inv.put.mono (fun _ pool found => ⟨pool, found, rfl⟩) rfl rfl

theorem inv_drop (inv : Inv externals paths before state) (holder : Nat) :
    Inv externals paths before { state with holders := state.holders.eraseIdx holder } where
  alive := by
    intro other held
    apply inv.alive other
    cases held with
    | inl current => exact Or.inl current
    | inr held =>
        cases held with
        | inl holder => exact Or.inr (Or.inl (List.mem_of_mem_eraseIdx holder))
        | inr created => exact Or.inr (Or.inr created)
  listed := inv.listed
  put := inv.put.mono (fun _ pool found => ⟨pool, found, rfl⟩) rfl rfl

theorem inv_prober (inv : Inv externals paths before state) {id : Nat} {pool : Pool}
    (found : state.pools[id]? = some pool) {prober : Prober} (fine : prober = .ended → ¬ Held state id) :
    Inv externals paths before (state.setProber id pool prober) where
  alive := by
    intro other held
    by_cases same : other = id
    · subst same
      exact ⟨_, Slots.get_set_self _ found, fun ended => fine ended held⟩
    · obtain ⟨kept, there, runs⟩ := inv.alive other held
      exact ⟨kept, (List.getElem?_set_ne (Ne.symm same)).trans there, runs⟩
  listed := by
    intro other member
    cases List.mem_or_eq_of_mem_set member with
    | inl old => exact inv.listed other old
    | inr new =>
        subst new
        exact inv.listed pool (List.mem_of_getElem? found)
  put := inv.put.mono (grown_set found prober) rfl rfl

theorem save_ok {files written : Files} {specs : List SourceSpec} {saving : Saving}
    (saved : save externals paths files specs saving = .ok written) : Written externals paths written specs := by
  cases saving with
  | done =>
      cases saved
      exact if_pos rfl
  | createFails | writeFails | renameFails => cases saved

theorem inv_create (inv : Inv externals paths before state) {specs : List SourceSpec}
    (is : state.put = some (.saved specs)) :
    Inv externals paths before { state with
      pools := state.pools ++ [⟨specs, .sleeping⟩]
      holders := state.pools.length :: state.holders
      put := some (.created state.pools.length) } := by
  have sound := inv.put
  rw [is] at sound
  have new : (state.pools ++ [⟨specs, .sleeping⟩])[state.pools.length]? = some ⟨specs, .sleeping⟩ := by simp
  have runs : (Pool.mk specs .sleeping).prober ≠ .ended := Prober.noConfusion
  have old : ∀ id, Held state id → ∃ pool, (state.pools ++ [⟨specs, .sleeping⟩])[id]? = some pool ∧
      pool.prober ≠ .ended := by
    intro id held
    obtain ⟨pool, found, alive⟩ := inv.alive id held
    exact ⟨pool, Slots.get_snoc _ found, alive⟩
  constructor
  · intro id held
    cases held with
    | inl current => exact old id (Or.inl current)
    | inr held =>
        cases held with
        | inl holder =>
            cases List.mem_cons.mp holder with
            | inl same => exact ⟨_, same ▸ new, runs⟩
            | inr holder => exact old id (Or.inr (Or.inl holder))
        | inr created =>
            cases created
            exact ⟨_, new, runs⟩
  · intro pool member
    cases List.mem_append.mp member with
    | inl before => exact inv.listed pool before
    | inr last =>
        rw [List.mem_singleton.mp last]
        exact sound.1
  · exact Or.inl ⟨_, new, sound.2⟩

theorem inv_replace (inv : Inv externals paths before state) {id : Nat} (is : state.put = some (.created id)) :
    Inv externals paths before { state with current := id, put := none } where
  alive := by
    intro other held
    apply inv.alive other
    cases held with
    | inl current => exact Or.inr (Or.inr (current ▸ is))
    | inr held =>
        cases held with
        | inl holder => exact Or.inr (Or.inl holder)
        | inr created => cases created
  listed := inv.listed
  put := by
    have sound := inv.put
    rw [is] at sound
    exact sound

theorem inv_lock (inv : Inv externals paths before state) (free : state.put = none) {specs : List SourceSpec}
    (some_source : specs ≠ []) : Inv externals paths before { state with put := some (.locked specs) } where
  alive id held := inv.alive id (held.of_put (by simp))
  listed := inv.listed
  put := by
    have sound := inv.put
    rw [free] at sound
    exact ⟨some_source, sound⟩

theorem inv_step (inv : Inv externals paths before state) {event : Event}
    (taken : step externals paths state event = some next) : Inv externals paths before next := by
  cases event with
  | read =>
      rw [step] at taken
      split at taken <;> cases taken
      exact inv_hold inv (inv.alive _ (Or.inl rfl))
  | clone holder =>
      obtain ⟨id, found, rfl⟩ := Option.map_eq_some_iff.mp taken
      exact inv_hold inv (inv.alive id (Or.inr (Or.inl (List.mem_of_getElem? found))))
  | drop holder =>
      obtain ⟨id, found, rfl⟩ := Option.map_eq_some_iff.mp taken
      exact inv_drop inv holder
  | fork id =>
      obtain ⟨pool, found, taken⟩ := Option.bind_eq_some_iff.mp taken
      split at taken <;> cases taken
      rename_i probing
      exact inv_hold inv ⟨pool, found, by rw [probing]; exact Prober.noConfusion⟩
  | wake id =>
      obtain ⟨pool, found, taken⟩ := Option.bind_eq_some_iff.mp taken
      split at taken <;> cases taken
      rename_i sleeping
      apply inv_prober inv found
      intro ended
      split at ended
      · rename_i alone
        exact not_held_of_count sleeping alone
      · cases ended
  | probed id =>
      obtain ⟨pool, found, taken⟩ := Option.bind_eq_some_iff.mp taken
      split at taken <;> cases taken
      exact inv_prober inv found Prober.noConfusion
  | put body =>
      rw [step] at taken
      split at taken
      · rename_i specs free read
        cases taken
        obtain ⟨_, _, _, _, some_source, _⟩ := SourceConfig.parseValue_ok_iff.mp read
        exact inv_lock inv free some_source
      · cases taken
  | save saving =>
      rw [step] at taken
      split at taken
      · rename_i specs locked
        have sound := inv.put
        rw [locked] at sound
        split at taken
        · cases taken
          exact ⟨fun id held => inv.alive id (held.of_put (by simp)), inv.listed, sound.2⟩
        · rename_i files saved
          cases taken
          refine ⟨?_, inv.listed, sound.1, save_ok saved⟩
          intro id held
          have before_save : Held state id := Held.of_put (by simp) held
          exact inv.alive id before_save
      · cases taken
  | create =>
      rw [step] at taken
      split at taken
      · rename_i specs saved
        cases taken
        exact inv_create inv saved
      · cases taken
  | replace =>
      rw [step] at taken
      split at taken
      · rename_i id created
        cases taken
        exact inv_replace inv created
      · cases taken

end Kept

def Ended (state : State) (id : Nat) : Prop := ∃ pool, state.pools[id]? = some pool ∧ pool.prober = .ended

theorem ended_prober {state : State} {id : Nat} {pool : Pool} (found : state.pools[id]? = some pool)
    (running : pool.prober ≠ .ended) (prober : Prober) {other : Nat} (ended : Ended state other) :
    Ended (state.setProber id pool prober) other := by
  obtain ⟨held, there, past⟩ := ended
  have apart : other ≠ id := by
    intro same
    subst same
    rw [found] at there
    cases there
    exact running past
  exact ⟨held, (List.getElem?_set_ne (Ne.symm apart)).trans there, past⟩

theorem ended_step {externals : Externals} {paths : Paths} {state next : State} {event : Event}
    (taken : step externals paths state event = some next) {other : Nat} (ended : Ended state other) :
    Ended next other := by
  cases event with
  | read =>
      rw [step] at taken
      split at taken <;> cases taken
      exact ended
  | clone holder | drop holder =>
      obtain ⟨_, _, rfl⟩ := Option.map_eq_some_iff.mp taken
      exact ended
  | fork id =>
      obtain ⟨pool, found, taken⟩ := Option.bind_eq_some_iff.mp taken
      split at taken <;> cases taken
      exact ended
  | wake id | probed id =>
      obtain ⟨pool, found, taken⟩ := Option.bind_eq_some_iff.mp taken
      split at taken <;> cases taken
      rename_i stage
      exact ended_prober found (by rw [stage]; exact Prober.noConfusion) _ ended
  | put body | replace =>
      rw [step] at taken
      split at taken <;> cases taken
      exact ended
  | save saving =>
      rw [step] at taken
      split at taken
      · split at taken <;> cases taken <;> exact ended
      · cases taken
  | create =>
      rw [step] at taken
      split at taken <;> cases taken
      obtain ⟨pool, there, past⟩ := ended
      exact ⟨pool, Slots.get_snoc _ there, past⟩

theorem Inv.ended_free {externals : Externals} {paths : Paths} {before : Files} {state : State}
    (inv : Inv externals paths before state) {id : Nat} (ended : Ended state id) : ¬ Held state id := by
  intro held
  obtain ⟨pool, there, past⟩ := ended
  obtain ⟨same, found, running⟩ := inv.alive id held
  rw [there] at found
  cases found
  exact running past

theorem wake_ends_iff (externals : Externals) (paths : Paths) {state : State} {id : Nat} {pool : Pool}
    (found : state.pools[id]? = some pool) (sleeping : pool.prober = .sleeping) :
    ∃ next, step externals paths state (.wake id) = some next ∧ (Ended next id ↔ ¬ Held state id) := by
  have there := Slots.get_set_self
    { pool with prober := if state.strongCount id pool = 1 then .ended else .probing } found
  refine ⟨state.setProber id pool (if state.strongCount id pool = 1 then .ended else .probing), ?_, ?_⟩
  · rw [step, found, Option.bind_some, if_pos sleeping]
  · constructor
    · intro past
      obtain ⟨held, placed, ended⟩ := past
      change (state.pools.set id _)[id]? = some held at placed
      rw [there] at placed
      cases placed
      dsimp only at ended
      split at ended
      · rename_i alone
        exact not_held_of_count sleeping alone
      · cases ended
    · intro free
      exact ⟨_, there, if_pos (count_of_not_held sleeping free)⟩

theorem inv_start (externals : Externals) (paths : Paths) {installed : List SourceSpec} (files : Files)
    (some_source : installed ≠ []) : Inv externals paths files (start installed files) where
  alive := by
    intro id held
    have first : id = 0 := by simpa [Held, start, eq_comm] using held
    subst first
    exact ⟨_, rfl, Prober.noConfusion⟩
  listed := by
    intro pool member
    rw [List.mem_singleton.mp member]
    exact some_source
  put := Or.inr ⟨rfl, rfl⟩

/-- Over any replacements of the list: no pool is ever without a source; a pool in anybody's hands has its
prober; one whose prober has ended is never in anybody's hands again; the prober of a pool that was let go ends
when it wakes next, and no other does; and outside a replacement the file has the list of the current pool. -/
theorem source_pools (externals : Externals) (paths : Paths) (installed : List SourceSpec) (files : Files)
    (some_source : installed ≠ []) (events : List Event) (final : State)
    (ran : Machine.run (step externals paths) (start installed files) events = some final) :
    (∀ pool ∈ final.pools, pool.specs ≠ []) ∧
    (∀ id, Held final id → ∃ pool, final.pools[id]? = some pool ∧ pool.prober ≠ .ended) ∧
    (∀ front back middle id, events = front ++ back →
      Machine.run (step externals paths) (start installed files) front = some middle → Ended middle id →
        Ended final id ∧ ¬ Held final id) ∧
    (∀ id pool, final.pools[id]? = some pool → pool.prober = .sleeping →
      ∃ next, step externals paths final (.wake id) = some next ∧ (Ended next id ↔ ¬ Held final id)) ∧
    (final.put = none → Agrees externals paths files final final.current) := by
  have kept : ∀ state event next, Inv externals paths files state →
      step externals paths state event = some next → Inv externals paths files next :=
    fun _ _ _ inv taken => inv_step inv taken
  have inv : Inv externals paths files final :=
    Machine.run_invariant _ kept (inv_start externals paths files some_source) ran
  refine ⟨inv.listed, inv.alive, ?_, ?_, ?_⟩
  · intro front back middle id split reached ended
    subst split
    have past : Ended final id :=
      Machine.run_invariant (fun state => Ended state id) (fun _ _ _ ended taken => ended_step taken ended) ended
        (Machine.run_rest ran reached)
    exact ⟨past, inv.ended_free past⟩
  · intro id pool found sleeping
    exact wake_ends_iff externals paths found sleeping
  · intro free
    have sound := inv.put
    rw [free] at sound
    exact sound

def replacedEvents : List Event :=
  [.put (SourceConfig.singleSource "https://mirror.example/"), .save .done, .create, .replace, .drop 1, .wake 0]

theorem source_pools_replaced :
    ∃ final, Machine.run (step (SourceConfig.singleExternals "https://mirror.example") SourceConfig.samplePaths)
        (start [⟨"hub", "https://registry-1.docker.io", "", ""⟩] (fun _ => .notFound)) replacedEvents = some final ∧
      final.current = 1 ∧ Ended final 0 ∧ ¬ Held final 0 ∧
      ∃ pool, final.pools[1]? = some pool ∧ pool.prober ≠ .ended := by
  have ended : (Machine.run (step (SourceConfig.singleExternals "https://mirror.example") SourceConfig.samplePaths)
      (start [⟨"hub", "https://registry-1.docker.io", "", ""⟩] (fun _ => .notFound)) replacedEvents).map
        (fun final => (final.current, final.pools.map Pool.prober)) = some (1, [.ended, .sleeping]) := by
    decide +kernel
  obtain ⟨final, ran, shape⟩ := Option.map_eq_some_iff.mp ended
  obtain ⟨current, probers⟩ := Prod.mk.inj shape
  have first : Ended final 0 := by
    have there := congrArg (fun stages => stages[0]?) probers
    rw [List.getElem?_map] at there
    obtain ⟨pool, found, past⟩ := Option.map_eq_some_iff.mp there
    exact ⟨pool, found, past⟩
  obtain ⟨_, alive, gone, _⟩ := source_pools (SourceConfig.singleExternals "https://mirror.example")
    SourceConfig.samplePaths [⟨"hub", "https://registry-1.docker.io", "", ""⟩] (fun _ => .notFound) (by decide)
    replacedEvents final ran
  exact ⟨final, ran, current, first, (gone replacedEvents [] final 0 rfl ran first).2, alive 1 (Or.inl current)⟩

end WebProxy.SourcePools

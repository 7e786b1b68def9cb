import WebProxy.Library.Machine
import WebProxy.Library.Slots
import WebProxy.Library.Table
import WebProxy.Library.Text

/-! The registry of active downloads of `cache.rs`: `ActiveDownloadGuard` enters a download under
its digest, and a task that its drop spawns takes the entry out at some later time. -/

namespace WebProxy.ActiveDownloads

/-- The counters are those at the registration; nothing here reads them. -/
structure ActiveDownload where
  path : String
  digest : String
  total : Nat
  chunksTotal : Nat
  resumed : Bool
  started : Nat
  chunksDone : Nat
  bytesDone : Nat
  deriving DecidableEq, Repr

inductive Stage where
  | alive
  | dropped
  | removed
  deriving DecidableEq, Repr

structure Guard where
  hex : String
  handle : ActiveDownload
  stage : Stage
  deriving DecidableEq, Repr

/-- The guards in the order of their registration, and the map from a key to the guard whose handle
is stored there. The number of a guard is the address of its handle, which `Arc::ptr_eq` compares. -/
structure Registry where
  guards : List Guard
  map : List (String × Nat)
  deriving DecidableEq, Repr

/-- `ActiveDownloadGuard::new`, its drop, and the body of the task that the drop spawns. The first
and the last hold the lock of the map from their first access to their last. -/
inductive Event where
  | new (download : ActiveDownload)
  | drop (number : Nat)
  | remove (number : Nat)
  deriving DecidableEq, Repr

def start : Registry := ⟨[], []⟩

def keyOf (download : ActiveDownload) : String := Text.trimStartMatches download.digest "sha256:"

theorem keyOf_bare (download : ActiveDownload) :
    Text.stripPrefix (keyOf download) "sha256:" = none :=
  Text.stripPrefix_trimStartMatches download.digest (by decide)

def new (registry : Registry) (download : ActiveDownload) : Registry :=
  { guards := registry.guards ++ [⟨keyOf download, download, .alive⟩]
    map := Table.insert registry.map (keyOf download) registry.guards.length }

def Registry.mark (registry : Registry) (number : Nat) (guard : Guard) (stage : Stage) : Registry :=
  { registry with guards := registry.guards.set number { guard with stage := stage } }

/-- The entry is taken out only while it is this guard's own. -/
def removeOwn (map : List (String × Nat)) (hex : String) (number : Nat) : List (String × Nat) :=
  if Table.lookup map hex = some number then Table.remove map hex else map

def step (registry : Registry) : Event → Option Registry
  | .new download => some (new registry download)
  | .drop number =>
      match registry.guards[number]? with
      | some guard =>
          if guard.stage = .alive then some (registry.mark number guard .dropped) else none
      | none => none
  | .remove number =>
      match registry.guards[number]? with
      | some guard =>
          if guard.stage = .dropped then
            some { registry.mark number guard .removed with
              map := removeOwn registry.map guard.hex number }
          else none
      | none => none

inductive Move (registry : Registry) : Event → Registry → Prop
  | new (download : ActiveDownload) : Move registry (.new download) (new registry download)
  | drop (number : Nat) (guard : Guard) : registry.guards[number]? = some guard →
      guard.stage = .alive → Move registry (.drop number) (registry.mark number guard .dropped)
  | remove (number : Nat) (guard : Guard) : registry.guards[number]? = some guard →
      guard.stage = .dropped →
      Move registry (.remove number)
        { registry.mark number guard .removed with map := removeOwn registry.map guard.hex number }

theorem step_cases {registry next : Registry} {event : Event}
    (taken : step registry event = some next) : Move registry event next := by
  cases event with
  | new download =>
      cases taken
      exact .new download
  | drop number =>
      rw [step] at taken
      split at taken
      · rename_i guard held
        split at taken
        · rename_i alive
          cases taken
          exact .drop number guard held alive
        · cases taken
      · cases taken
  | remove number =>
      rw [step] at taken
      split at taken
      · rename_i guard held
        split at taken
        · rename_i dropped
          cases taken
          exact .remove number guard held dropped
        · cases taken
      · cases taken

/-- No guard is registered for the key after this one. -/
def Newest (registry : Registry) (number : Nat) (hex : String) : Prop :=
  ∀ (later : Nat) (other : Guard), registry.guards[later]? = some other → number < later →
    other.hex ≠ hex

/-- An entry belongs to a guard of its key whose removal has not run, and the newest guard of a key
has its entry until then. -/
structure Inv (registry : Registry) : Prop where
  owned : ∀ (hex : String) (number : Nat), Table.lookup registry.map hex = some number →
    ∃ guard, registry.guards[number]? = some guard ∧ guard.hex = hex ∧ guard.stage ≠ .removed
  present : ∀ (number : Nat) (guard : Guard), registry.guards[number]? = some guard →
    guard.stage ≠ .removed → Newest registry number guard.hex →
    Table.lookup registry.map guard.hex = some number

theorem inv_start : Inv start := by
  constructor
  · intro hex number found
    cases found
  · intro number guard held
    cases held

theorem inv_new {registry : Registry} (inv : Inv registry) (download : ActiveDownload) :
    Inv (new registry download) := by
  constructor
  · intro hex number found
    by_cases own : hex = keyOf download
    · subst own
      have last : Table.lookup (new registry download).map (keyOf download) =
          some registry.guards.length := Table.lookup_insert_self ..
      rw [last] at found
      cases found
      exact ⟨_, List.getElem?_concat_length, rfl, by simp⟩
    · have earlier : Table.lookup registry.map hex = some number :=
        (Table.lookup_insert_other registry.map _ own).symm.trans found
      obtain ⟨guard, held, rest⟩ := inv.owned hex number earlier
      exact ⟨guard, Slots.get_snoc _ held, rest⟩
  · intro number guard held stays newest
    rcases Slots.get_snoc_cases held with earlier | ⟨rfl, rfl⟩
    · -- the new guard is later, so it has another key
      have other : guard.hex ≠ keyOf download := by
        intro same
        exact newest registry.guards.length _ List.getElem?_concat_length
          (Slots.lt_of_get earlier) same.symm
      have before := inv.present number guard earlier stays (by
        intro later next there
        exact newest later next (Slots.get_snoc _ there))
      exact (Table.lookup_insert_other registry.map _ other).trans before
    · exact Table.lookup_insert_self ..

theorem newest_of_mark {registry : Registry} {number : Nat} {guard : Guard} {stage : Stage}
    (held : registry.guards[number]? = some guard) {index : Nat} {hex : String}
    (newest : Newest (registry.mark number guard stage) index hex) : Newest registry index hex := by
  intro later other there after same
  have keeps : ∃ found, (registry.mark number guard stage).guards[later]? = some found ∧
      found.hex = other.hex :=
    Slots.set_keeps held id ⟨other, there, rfl⟩
  obtain ⟨found, marked, alike⟩ := keeps
  exact newest later found marked after (alike.trans same)

theorem inv_drop {registry : Registry} (inv : Inv registry) {number : Nat} {guard : Guard}
    (held : registry.guards[number]? = some guard) (alive : guard.stage = .alive) :
    Inv (registry.mark number guard .dropped) := by
  constructor
  · intro hex owner found
    obtain ⟨holder, there, same, stays⟩ := inv.owned hex owner found
    have keeps : ∃ found, (registry.mark number guard .dropped).guards[owner]? = some found ∧
        (found.hex = hex ∧ found.stage ≠ .removed) :=
      Slots.set_keeps held (fun kept => ⟨kept.1, by simp⟩) ⟨holder, there, same, stays⟩
    exact keeps
  · intro index other there stays newest
    have before := newest_of_mark held newest
    rcases Slots.get_set_cases there with ⟨rfl, rfl⟩ | ⟨_, earlier⟩
    · exact inv.present index guard held (by simp [alive]) before
    · exact inv.present index other earlier stays before

theorem lookup_removeOwn_other {map : List (String × Nat)} {hex other : String} (number : Nat)
    (apart : other ≠ hex) :
    Table.lookup (removeOwn map hex number) other = Table.lookup map other := by
  rw [removeOwn]
  split
  · exact Table.lookup_remove_other map apart
  · rfl

theorem lookup_removeOwn {map : List (String × Nat)} {hex key : String} {number owner : Nat}
    (found : Table.lookup map key = some owner) (apart : owner ≠ number) :
    Table.lookup (removeOwn map hex number) key = some owner := by
  by_cases same : key = hex
  · subst same
    rw [removeOwn, if_neg (by simp [found, apart])]
    exact found
  · rw [lookup_removeOwn_other number same, found]

theorem owner_of_removeOwn {map : List (String × Nat)} {hex : String} {number owner : Nat}
    (found : Table.lookup (removeOwn map hex number) hex = some owner) :
    Table.lookup map hex = some owner ∧ owner ≠ number := by
  rw [removeOwn] at found
  split at found
  · rw [Table.lookup_remove_self] at found
    cases found
  · rename_i foreign
    refine ⟨found, ?_⟩
    intro same
    exact foreign (same ▸ found)

theorem inv_remove {registry : Registry} (inv : Inv registry) {number : Nat} {guard : Guard}
    (held : registry.guards[number]? = some guard) :
    Inv { registry.mark number guard .removed with
      map := removeOwn registry.map guard.hex number } := by
  constructor
  · intro hex owner found
    have other : Table.lookup registry.map hex = some owner ∧ owner ≠ number := by
      by_cases same : hex = guard.hex
      · subst same
        exact owner_of_removeOwn found
      · have earlier : Table.lookup registry.map hex = some owner :=
          (lookup_removeOwn_other number same).symm.trans found
        refine ⟨earlier, ?_⟩
        rintro rfl
        obtain ⟨holder, there, alike, _⟩ := inv.owned hex owner earlier
        rw [held] at there
        cases there
        exact same alike.symm
    obtain ⟨holder, there, rest⟩ := inv.owned hex owner other.1
    exact ⟨holder, (List.getElem?_set_ne (Ne.symm other.2)).trans there, rest⟩
  · intro index other there stays newest
    rcases Slots.get_set_cases there with ⟨_, rfl⟩ | ⟨apart, earlier⟩
    · exact absurd rfl stays
    · exact lookup_removeOwn (inv.present index other earlier stays (newest_of_mark held newest))
        apart

theorem inv_step {registry next : Registry} {event : Event} (inv : Inv registry)
    (taken : step registry event = some next) : Inv next := by
  cases step_cases taken with
  | new download => exact inv_new inv download
  | drop number guard held alive => exact inv_drop inv held alive
  | remove number guard held _ => exact inv_remove inv held

theorem inv_run {registry : Registry} {events : List Event}
    (ran : Machine.run step start events = some registry) : Inv registry :=
  Machine.run_invariant Inv (fun _ _ _ inv taken => inv_step inv taken) inv_start ran

theorem Inv.empty {registry : Registry} (inv : Inv registry)
    (finished : ∀ guard ∈ registry.guards, guard.stage = .removed) : registry.map = [] := by
  apply List.eq_nil_iff_forall_not_mem.mpr
  intro entry member
  cases found : Table.lookup registry.map entry.1 with
  | none => exact Table.lookup_none_iff.mp found entry member rfl
  | some number =>
      obtain ⟨guard, held, _, stays⟩ := inv.owned entry.1 number found
      exact stays (finished guard (List.mem_of_getElem? held))

/-- After every interleaving: a removal leaves the entries of other guards, a live guard that was
the last to register for its key has its entry, and when all removals have run the map is empty. -/
theorem active_downloads_sound (events : List Event) (registry : Registry)
    (ran : Machine.run step start events = some registry) :
    (∀ (number : Nat) (next : Registry), step registry (.remove number) = some next →
      ∀ (hex : String) (owner : Nat), Table.lookup registry.map hex = some owner →
        owner ≠ number → Table.lookup next.map hex = some owner) ∧
    (∀ (number : Nat) (guard : Guard), registry.guards[number]? = some guard →
      guard.stage = .alive → Newest registry number guard.hex →
        Table.lookup registry.map guard.hex = some number) ∧
    ((∀ guard ∈ registry.guards, guard.stage = .removed) → registry.map = []) := by
  have inv := inv_run ran
  refine ⟨?_, ?_, inv.empty⟩
  · intro number next taken hex owner found apart
    cases step_cases taken with
    | remove _ guard held dropped => exact lookup_removeOwn found apart
  · intro number guard held alive newest
    exact inv.present number guard held (by simp [alive]) newest

def sampleDownload (digest : String) : ActiveDownload := ⟨"/v2/app", digest, 10, 2, false, 0, 0, 0⟩

def retryEvents : List Event :=
  [.new (sampleDownload "sha256:ab"), .drop 0, .new (sampleDownload "sha256:ab"), .remove 0,
    .drop 1, .remove 1]

def retryRegistry (stage : Stage) (map : List (String × Nat)) : Registry :=
  ⟨[⟨"ab", sampleDownload "sha256:ab", .removed⟩, ⟨"ab", sampleDownload "sha256:ab", stage⟩], map⟩

theorem active_downloads_sound_retry :
    Machine.run step start (retryEvents.take 4) = some (retryRegistry .alive [("ab", 1)]) ∧
      Table.lookup (retryRegistry .alive [("ab", 1)]).map "ab" = some 1 ∧
      Machine.run step start retryEvents = some (retryRegistry .removed []) ∧
      (retryRegistry .removed []).map = [] := by
  have middle : Machine.run step start (retryEvents.take 4) =
      some (retryRegistry .alive [("ab", 1)]) := by decide
  have final : Machine.run step start retryEvents = some (retryRegistry .removed []) := by decide
  refine ⟨middle, ?_, final, ?_⟩
  · apply (active_downloads_sound _ _ middle).2.1 1 ⟨"ab", sampleDownload "sha256:ab", .alive⟩ rfl rfl
    intro later other held after
    have bound := Slots.lt_of_get held
    simp only [retryRegistry, List.length_cons, List.length_nil] at bound
    omega
  · exact (active_downloads_sound _ _ final).2.2 (by decide)

end WebProxy.ActiveDownloads

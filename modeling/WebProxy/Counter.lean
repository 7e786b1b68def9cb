import WebProxy.DiskCache
import WebProxy.Library.Slots

/-! The counter of the cache under concurrency: any number of `committed` and `evict_old` calls,
interleaved at their atomic steps. -/

namespace WebProxy.Counter

open Disk (evictTarget)
open Weights (weight)

/-- Where one call stands. After `locking` it holds `evict_lock` until it is done. -/
inductive Stage where
  | adding (size : Nat)
  | locking
  | checking
  | listing
  | loading (sizes : List Nat)
  | removing (sizes : List Nat) (total : Nat)
  | done
  deriving DecidableEq, Repr

inductive Call where
  | committed (size : Nat)
  | evictOld
  deriving DecidableEq, Repr

def Call.stage : Call → Stage
  | .committed size => .adding size
  | .evictOld => .locking

/-- What the calls share. `removed` is not in the program: the sizes of the files that were
removed, added up. -/
structure Race where
  maxBytes : Nat
  counter : Nat
  holder : Option Nat
  calls : List Stage
  removed : Nat
  deriving DecidableEq, Repr

def start (maxBytes counter : Nat) (calls : List Call) : Race :=
  ⟨maxBytes, counter, none, calls.map Call.stage, 0⟩

/-- The atomic steps of call `pid`. `list` finds the evictable files in order of age, by their
sizes; `removes` says whether a removal succeeds. -/
inductive Event where
  | add (pid : Nat)
  | lock (pid : Nat)
  | check (pid : Nat)
  | list (pid : Nat) (sizes : List Nat)
  | listFails (pid : Nat)
  | load (pid : Nat)
  | remove (pid : Nat) (removes : Bool)
  | store (pid : Nat)
  deriving DecidableEq, Repr

def Race.set (race : Race) (pid : Nat) (stage : Stage) : Race :=
  { race with calls := race.calls.set pid stage }

def Race.release (race : Race) (pid : Nat) : Race := { race.set pid .done with holder := none }

def step (race : Race) : Event → Option Race
  | .add pid =>
      match race.calls[pid]? with
      | some (.adding size) =>
          let total := race.counter + size
          some { race.set pid (if race.maxBytes < total then .locking else .done) with
            counter := total }
      | _ => none
  | .lock pid =>
      match race.calls[pid]?, race.holder with
      | some .locking, none => some { race.set pid .checking with holder := some pid }
      | _, _ => none
  | .check pid =>
      match race.calls[pid]? with
      | some .checking =>
          if race.counter ≤ race.maxBytes then some (race.release pid)
          else some (race.set pid .listing)
      | _ => none
  | .list pid sizes =>
      match race.calls[pid]? with
      | some .listing => some (race.set pid (.loading sizes))
      | _ => none
  | .listFails pid =>
      match race.calls[pid]? with
      | some .listing => some (race.release pid)
      | _ => none
  | .load pid =>
      match race.calls[pid]? with
      | some (.loading sizes) => some (race.set pid (.removing sizes race.counter))
      | _ => none
  | .remove pid removes =>
      match race.calls[pid]? with
      | some (.removing (size :: sizes) total) =>
          if total ≤ evictTarget race.maxBytes then none
          else if removes then
            some { race.set pid (.removing sizes (total - size)) with removed := race.removed + size }
          else some (race.set pid (.removing sizes total))
      | _ => none
  | .store pid =>
      match race.calls[pid]? with
      | some (.removing sizes total) =>
          if total ≤ evictTarget race.maxBytes ∨ sizes = [] then
            some { race.release pid with counter := total }
          else none
      | _ => none

def Stage.total : Stage → Option Nat
  | .removing _ total => some total
  | _ => none

def Stage.pending : Stage → Nat
  | .adding size => size
  | _ => 0

def Stage.critical : Stage → Bool
  | .checking | .listing | .loading _ | .removing _ _ => true
  | _ => false

/-- What a running eviction is going to store: it is open from its second load of the counter to
its store. -/
def Race.window (race : Race) : Option Nat :=
  (race.holder.bind (fun pid => race.calls[pid]?)).bind Stage.total

def Race.settled (race : Race) : Nat := race.window.getD race.counter

/-- What a `fetch_add` adds while an eviction is open. -/
def lateSize (race : Race) : Event → Nat
  | .add pid =>
      match race.calls[pid]? with
      | some (.adding size) => if race.window.isSome then size else 0
      | _ => 0
  | _ => 0

/-- No removal takes more from the counter than is left. -/
def unsaturated (race : Race) : Event → Bool
  | .remove pid true =>
      match race.calls[pid]? with
      | some (.removing (size :: _) total) => size ≤ total
      | _ => true
  | _ => true

def Race.ledger (race : Race) : Nat :=
  race.settled + race.removed + weight Stage.pending race.calls

def Locked (race : Race) : Prop :=
  ∀ (pid : Nat) (stage : Stage), race.calls[pid]? = some stage → stage.critical = true →
    race.holder = some pid

theorem Locked.set {race : Race} (locked : Locked race) {pid : Nat} {stage : Stage}
    (held : stage.critical = true → race.holder = some pid) : Locked (race.set pid stage) := by
  intro other found member critical
  rcases Slots.get_set_cases member with ⟨rfl, rfl⟩ | ⟨_, member⟩
  · exact held critical
  · exact locked other found member critical

theorem Locked.release {race : Race} (locked : Locked race) {pid : Nat} {stage : Stage}
    (held : race.calls[pid]? = some stage) (critical : stage.critical = true) :
    Locked (race.release pid) := by
  intro other found member inside
  rcases Slots.get_set_cases member with ⟨_, rfl⟩ | ⟨apart, member⟩
  · cases inside
  · have owner := locked pid stage held critical
    rw [locked other found member inside] at owner
    exact absurd (Option.some.inj owner) apart

inductive Move (race : Race) : Event → Race → Prop where
  | add {pid size : Nat} {stage : Stage} (held : race.calls[pid]? = some (.adding size))
      (after : stage = .locking ∨ stage = .done) :
      Move race (.add pid) { race.set pid stage with counter := race.counter + size }
  | lock {pid : Nat} (held : race.calls[pid]? = some .locking) (free : race.holder = none) :
      Move race (.lock pid) { race.set pid .checking with holder := some pid }
  | advance {event : Event} {pid : Nat} {before after : Stage}
      (held : race.calls[pid]? = some before) (critical : before.critical = true)
      (shut : before.total = none) (inside : after.critical = true)
      (total : after.total = none ∨ after.total = some race.counter)
      (quiet : lateSize race event = 0) :
      Move race event (race.set pid after)
  | leave {event : Event} {pid : Nat} {before : Stage} (held : race.calls[pid]? = some before)
      (critical : before.critical = true) (shut : before.total = none)
      (quiet : lateSize race event = 0) : Move race event (race.release pid)
  | remove {pid size total : Nat} {sizes : List Nat}
      (held : race.calls[pid]? = some (.removing (size :: sizes) total)) :
      Move race (.remove pid true)
        { race.set pid (.removing sizes (total - size)) with removed := race.removed + size }
  | stuck {pid size total : Nat} {sizes : List Nat}
      (held : race.calls[pid]? = some (.removing (size :: sizes) total)) :
      Move race (.remove pid false) (race.set pid (.removing sizes total))
  | store {pid total : Nat} {sizes : List Nat}
      (held : race.calls[pid]? = some (.removing sizes total)) :
      Move race (.store pid) { race.release pid with counter := total }

theorem step_cases {race next : Race} {event : Event} (taken : step race event = some next) :
    Move race event next := by
  cases event with
  | add pid =>
      simp only [step] at taken
      split at taken
      · rename_i size held
        cases taken
        refine .add held ?_
        split
        · exact Or.inl rfl
        · exact Or.inr rfl
      · cases taken
  | lock pid =>
      simp only [step] at taken
      split at taken
      · rename_i held free
        cases taken
        exact .lock held free
      · cases taken
  | check pid =>
      simp only [step] at taken
      split at taken
      · rename_i held
        split at taken
        · cases taken
          exact .leave held rfl rfl rfl
        · cases taken
          exact .advance held rfl rfl rfl (Or.inl rfl) rfl
      · cases taken
  | list pid sizes =>
      simp only [step] at taken
      split at taken
      · rename_i held
        cases taken
        exact .advance held rfl rfl rfl (Or.inl rfl) rfl
      · cases taken
  | listFails pid =>
      simp only [step] at taken
      split at taken
      · rename_i held
        cases taken
        exact .leave held rfl rfl rfl
      · cases taken
  | load pid =>
      simp only [step] at taken
      split at taken
      · rename_i held
        cases taken
        exact .advance held rfl rfl rfl (Or.inr rfl) rfl
      · cases taken
  | remove pid removes =>
      simp only [step] at taken
      split at taken
      · rename_i held
        split at taken
        · cases taken
        · split at taken
          · rename_i removed
            cases taken
            cases removed
            exact .remove held
          · rename_i failed
            cases taken
            rw [Bool.not_eq_true] at failed
            subst failed
            exact .stuck held
      · cases taken
  | store pid =>
      simp only [step] at taken
      split at taken
      · rename_i held
        split at taken
        · cases taken
          exact .store held
        · cases taken
      · cases taken

theorem locked_start (maxBytes counter : Nat) (calls : List Call) :
    Locked (start maxBytes counter calls) := by
  intro pid stage held critical
  simp only [start, List.getElem?_map, Option.map_eq_some_iff] at held
  obtain ⟨call, _, rfl⟩ := held
  cases call <;> cases critical

theorem locked_step (race : Race) (event : Event) (next : Race) (locked : Locked race)
    (taken : step race event = some next) : Locked next := by
  cases step_cases taken with
  | add held after =>
      apply Locked.set locked
      intro critical
      rcases after with rfl | rfl <;> cases critical
  | lock held free =>
      intro other stage member critical
      rcases Slots.get_set_cases member with ⟨rfl, _⟩ | ⟨_, member⟩
      · rfl
      · have owner := locked other stage member critical
        rw [free] at owner
        cases owner
  | advance held critical shut inside total quiet =>
      exact locked.set (fun _ => locked _ _ held critical)
  | leave held critical shut quiet => exact locked.release held critical
  | remove held => exact locked.set (fun _ => locked _ _ held rfl)
  | stuck held => exact locked.set (fun _ => locked _ _ held rfl)
  | store held => exact locked.release held rfl

theorem window_held {race : Race} {pid : Nat} {stage : Stage} (owner : race.holder = some pid)
    (held : race.calls[pid]? = some stage) : race.window = stage.total := by
  simp only [Race.window, owner, Option.bind_some, held]

theorem window_set {race : Race} {pid : Nat} {before : Stage} (after : Stage)
    (owner : race.holder = some pid) (held : race.calls[pid]? = some before) :
    (race.set pid after).window = after.total :=
  window_held owner (Slots.get_set_self after held)

theorem window_release (race : Race) (pid : Nat) : (race.release pid).window = none := rfl

theorem window_add {race : Race} {pid size : Nat} {stage : Stage}
    (held : race.calls[pid]? = some (.adding size)) (after : stage = .locking ∨ stage = .done) :
    (race.set pid stage).window = race.window := by
  have shut : stage.total = none := by rcases after with rfl | rfl <;> rfl
  cases owner : race.holder with
  | none => simp [Race.window, Race.set, owner]
  | some other =>
      by_cases same : other = pid
      · subst same
        rw [window_set stage owner held, window_held owner held, shut]
        rfl
      · simp [Race.window, Race.set, owner, List.getElem?_set_ne (Ne.symm same)]

theorem pending_set {race : Race} {pid : Nat} {before : Stage} (after : Stage)
    (held : race.calls[pid]? = some before) :
    weight Stage.pending (race.set pid after).calls + before.pending =
      weight Stage.pending race.calls + after.pending :=
  Weights.weight_set Stage.pending after held

theorem pending_critical {stage : Stage} (critical : stage.critical = true) : stage.pending = 0 := by
  cases stage with
  | adding => cases critical
  | locking | checking | listing | loading | removing | done => rfl

theorem ledger_step {race next : Race} {event : Event} (locked : Locked race)
    (enough : unsaturated race event = true) (taken : step race event = some next) :
    next.ledger + lateSize race event = race.ledger := by
  cases step_cases taken with
  | @add pid size stage held after =>
      have window := window_add held after
      have calls := pending_set stage held
      have idle : stage.pending = 0 := by rcases after with rfl | rfl <;> rfl
      have same : (Race.window { race.set pid stage with counter := race.counter + size }) =
          race.window := window
      rw [idle] at calls
      simp only [lateSize, held, Race.ledger, Race.settled, same]
      simp only [Race.set, Stage.pending.eq_1] at calls ⊢
      cases race.window with
      | none =>
          simp only [Option.getD_none, Option.isSome_none, Bool.false_eq_true, if_false]
          omega
      | some total =>
          simp only [Option.getD_some, Option.isSome_some, if_true]
          omega
  | @lock pid held free =>
      have calls := pending_set .checking held
      have before : race.window = none := by simp [Race.window, free]
      have after : (Race.window { race.set pid .checking with holder := some pid }) = none := by
        simp only [Race.window, Race.set, Option.bind_some, Slots.get_set_self _ held, Stage.total]
      simp only [lateSize, Race.ledger, Race.settled, before, after, Option.getD_none]
      simp only [Race.set, Stage.pending] at calls ⊢
      omega
  | @advance _ pid before after held critical shut inside total quiet =>
      have owner := locked pid before held critical
      have calls := pending_set after held
      have opened : (race.set pid after).settled = race.counter := by
        rw [Race.settled, window_set after owner held]
        rcases total with none | some
        · rw [none]
          rfl
        · rw [some]
          rfl
      rw [pending_critical critical, pending_critical inside] at calls
      rw [quiet, Race.ledger, Race.ledger, opened, Race.settled, window_held owner held, shut]
      simp only [Race.set, Option.getD_none] at calls ⊢
      omega
  | @leave _ pid before held critical shut quiet =>
      have owner := locked pid before held critical
      have calls := pending_set .done held
      rw [pending_critical critical] at calls
      rw [quiet, Race.ledger, Race.ledger, Race.settled, Race.settled, window_release,
        window_held owner held, shut]
      simp only [Race.set, Race.release, Stage.pending, Option.getD_none] at calls ⊢
      omega
  | @remove pid size total sizes held =>
      have owner := locked pid _ held rfl
      have calls := pending_set (.removing sizes (total - size)) held
      have after : (Race.window { race.set pid (.removing sizes (total - size)) with
          removed := race.removed + size }) = some (total - size) := by
        simp only [Race.window, Race.set, owner, Option.bind_some, Slots.get_set_self _ held,
          Stage.total]
      simp only [unsaturated, held, decide_eq_true_eq] at enough
      simp only [lateSize, Race.ledger, Race.settled, after, window_held owner held, Stage.total,
        Option.getD_some]
      simp only [Race.set, Stage.pending] at calls ⊢
      omega
  | @stuck pid size total sizes held =>
      have owner := locked pid _ held rfl
      have calls := pending_set (.removing sizes total) held
      rw [Race.ledger, Race.ledger, Race.settled, Race.settled, window_set _ owner held,
        window_held owner held]
      simp only [lateSize, Race.set, Stage.pending, Stage.total, Option.getD_some] at calls ⊢
      omega
  | @store pid total sizes held =>
      have owner := locked pid _ held rfl
      have calls := pending_set .done held
      have after : (Race.window { race.release pid with counter := total }) = none := rfl
      simp only [lateSize, Race.ledger, Race.settled, after, window_held owner held, Stage.total,
        Option.getD_some, Option.getD_none]
      simp only [Race.set, Race.release, Stage.pending] at calls ⊢
      omega

/-- No positive amount is added while an eviction is open. -/
def quiet (race : Race) (event : Event) : Bool := lateSize race event = 0

theorem ledger_run {race final : Race} {events : List Event} (locked : Locked race)
    (enough : Machine.Along step (fun race event => unsaturated race event = true) race events)
    (ran : Machine.run step race events = some final) :
    final.ledger ≤ race.ledger ∧
      (final.ledger = race.ledger ↔
        Machine.Along step (fun race event => quiet race event = true) race events) := by
  induction events generalizing race with
  | nil =>
      rw [Machine.run_nil] at ran
      cases ran
      exact ⟨Nat.le_refl _, iff_of_true rfl trivial⟩
  | cons event events ih =>
      obtain ⟨next, taken, rest⟩ := Machine.run_cons_some ran
      obtain ⟨below, exact⟩ := ih (locked_step race event next locked taken)
        (enough.2 next taken) rest
      have stepped := ledger_step locked enough.1 taken
      refine ⟨by omega, ?_⟩
      constructor
      · intro kept
        refine ⟨?_, ?_⟩
        · simp only [quiet, decide_eq_true_eq]
          omega
        · intro other same
          rw [taken] at same
          cases same
          exact exact.mp (by omega)
      · intro met
        have whole := exact.mpr (met.2 next taken)
        have now := met.1
        simp only [quiet, decide_eq_true_eq] at now
        omega

def Call.size : Call → Nat
  | .committed size => size
  | .evictOld => 0

theorem ledger_start (maxBytes counter : Nat) (calls : List Call) :
    (start maxBytes counter calls).ledger = counter + weight Call.size calls := by
  have pending : weight Stage.pending (calls.map Call.stage) = weight Call.size calls := by
    rw [Weights.weight_map]
    apply Weights.weight_congr
    intro call _
    cases call <;> rfl
  simp only [Race.ledger, Race.settled, start, pending]
  rfl

theorem ledger_done {race : Race} (complete : ∀ stage ∈ race.calls, stage = .done) :
    race.ledger = race.counter + race.removed := by
  have shut : race.window = none := by
    simp only [Race.window, Option.bind_eq_none_iff]
    intro stage found
    obtain ⟨_, _, held⟩ := Option.bind_eq_some_iff.mp found
    rw [complete stage (List.mem_of_getElem? held)]
    rfl
  have idle : weight Stage.pending race.calls = 0 := by
    apply Weights.weight_zero
    intro stage member
    rw [complete stage member]
    rfl
  rw [Race.ledger, Race.settled, shut, idle]
  rfl

/-- When all calls have finished, the counter is its initial value plus what was committed minus
what was removed exactly when nothing was added while an eviction was open. -/
theorem counter_conserved_iff (maxBytes counter : Nat) (calls : List Call) (events : List Event)
    (final : Race)
    (ran : Machine.run step (start maxBytes counter calls) events = some final)
    (complete : ∀ stage ∈ final.calls, stage = .done)
    (enough : Machine.Along step (fun race event => unsaturated race event = true)
      (start maxBytes counter calls) events) :
    final.counter + final.removed = counter + weight Call.size calls ↔
      Machine.Along step (fun race event => quiet race event = true)
        (start maxBytes counter calls) events := by
  have exact := (ledger_run (locked_start maxBytes counter calls) enough ran).2
  rw [ledger_done complete, ledger_start] at exact
  exact exact

def orderlyEvents : List Event :=
  [.add 0, .add 1, .lock 1, .check 1, .list 1 [8, 8], .load 1, .remove 1 true, .store 1]

theorem counter_conserved_orderly :
    ∃ final, Machine.run step (start 10 0 [.committed 8, .committed 8]) orderlyEvents = some final ∧
      final.counter + final.removed = 0 + weight Call.size [.committed 8, .committed 8] := by
  have ended : (Machine.run step (start 10 0 [.committed 8, .committed 8]) orderlyEvents).map
      Race.calls = some [.done, .done] := by decide
  obtain ⟨final, ran, calls⟩ := Option.map_eq_some_iff.mp ended
  refine ⟨final, ran, (counter_conserved_iff 10 0 _ _ final ran ?_ (by decide)).mpr (by decide)⟩
  rw [calls]
  decide

/-- A blob of eight bytes is on disk and the capacity is ten. While the eviction for a second one
is open, four bytes are committed; its store forgets them. -/
theorem late_commit_is_lost :
    ∃ final, Machine.run step (start 10 8 [.committed 8, .committed 4])
        [.add 0, .lock 0, .check 0, .list 0 [8, 8], .load 0, .add 1, .remove 0 true, .store 0,
         .lock 1, .check 1] = some final ∧
      (∀ stage ∈ final.calls, stage = .done) ∧
      final.counter = 8 ∧ final.removed = 8 ∧
      final.counter + final.removed ≠ 8 + weight Call.size [.committed 8, .committed 4] := by
  have ended : Machine.run step (start 10 8 [.committed 8, .committed 4])
      [.add 0, .lock 0, .check 0, .list 0 [8, 8], .load 0, .add 1, .remove 0 true, .store 0,
       .lock 1, .check 1] = some ⟨10, 8, none, [.done, .done], 8⟩ := by decide
  exact ⟨_, ended, by decide, rfl, rfl, by decide⟩

def evictEvents (target : Nat) (removes : Disk.Entry → Bool) (pid : Nat) :
    List Disk.Entry → Nat → List Event
  | [], _ => [.store pid]
  | file :: rest, total =>
      if total ≤ target then [.store pid]
      else if removes file then
        .remove pid true :: evictEvents target removes pid rest (total - file.length)
      else .remove pid false :: evictEvents target removes pid rest total

theorem step_store {race : Race} {pid total : Nat} {sizes : List Nat}
    (held : race.calls[pid]? = some (.removing sizes total))
    (stops : total ≤ evictTarget race.maxBytes ∨ sizes = []) :
    step race (.store pid) = some { race.release pid with counter := total } := by
  simp only [step, held, if_pos stops]

theorem run_evictEvents (removes : Disk.Entry → Bool) (pid : Nat) (files : List Disk.Entry)
    (total : Nat) (race : Race)
    (held : race.calls[pid]? = some (.removing (files.map Disk.Entry.length) total)) :
    ∃ final, Machine.run step race
        (evictEvents (evictTarget race.maxBytes) removes pid files total) = some final ∧
      final.counter = (Disk.evictLoop (evictTarget race.maxBytes) removes files total).total ∧
      final.removed = race.removed + weight Disk.Entry.length
        (Disk.evictLoop (evictTarget race.maxBytes) removes files total).removed := by
  induction files generalizing total race with
  | nil =>
      refine ⟨{ race.release pid with counter := total }, ?_, rfl, rfl⟩
      rw [evictEvents, Machine.run_cons, step_store held (Or.inr rfl)]
      rfl
  | cons file rest ih =>
      by_cases reached : total ≤ evictTarget race.maxBytes
      · rw [evictEvents, Disk.evictLoop, if_pos reached, if_pos reached]
        refine ⟨{ race.release pid with counter := total }, ?_, rfl, rfl⟩
        rw [Machine.run_cons, step_store held (Or.inl reached)]
        rfl
      · rw [evictEvents, Disk.evictLoop, if_neg reached, if_neg reached]
        rw [List.map_cons] at held
        cases removable : removes file with
        | true =>
            have taken : step race (.remove pid true) =
                some { race.set pid (.removing (rest.map Disk.Entry.length) (total - file.length)) with
                  removed := race.removed + file.length } := by
              simp only [step, held, if_neg reached, if_true]
            obtain ⟨final, ran, counter, removed⟩ := ih (total - file.length)
              { race.set pid (.removing (rest.map Disk.Entry.length) (total - file.length)) with
                removed := race.removed + file.length } (Slots.get_set_self _ held)
            refine ⟨final, ?_, counter, ?_⟩
            · rw [if_pos rfl, Machine.run_cons, taken]
              exact ran
            · rw [removed, if_pos rfl, Weights.weight_cons, Nat.add_assoc]
              rfl
        | false =>
            have taken : step race (.remove pid false) =
                some (race.set pid (.removing (rest.map Disk.Entry.length) total)) := by
              simp only [step, held, if_neg reached, Bool.false_eq_true, if_false]
            obtain ⟨final, ran, counter, removed⟩ := ih total
              (race.set pid (.removing (rest.map Disk.Entry.length) total))
              (Slots.get_set_self _ held)
            refine ⟨final, ?_, counter, removed⟩
            rw [if_neg (by decide), Machine.run_cons, taken]
            exact ran

end WebProxy.Counter

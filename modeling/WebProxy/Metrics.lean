import Mathlib.Algebra.Order.Field.Basic
import Mathlib.Tactic.Linarith
import WebProxy.Library.Machine
import WebProxy.Library.Ring
import WebProxy.Library.Slots
import WebProxy.Sources

/-! The samples of the dashboard: the sampler's rounds and the answers of `metrics_history`, which load the
counters one by one while requests go on counting. Floats are exact rationals. -/

namespace WebProxy.Metrics

def cap : Nat := 240

structure Sample where
  epochSecs : Int
  hitPct : ℚ
  diskPct : ℚ
  activeDownloads : Nat
  throughputBps : Nat
  deriving DecidableEq, Repr

def hitPct (total hits : Nat) : ℚ := if 0 < total then 100 * hits / total else 0

def diskPct (used capacity : Nat) : ℚ := min (if 0 < capacity then 100 * used / capacity else 0) 100

def sumBps (snapshot : List (ℚ × Nat)) : Nat :=
  snapshot.foldl (fun sum source => if 0 < source.1 then Sources.wrap (sum + source.2) else sum) 0

/-- What a round finds besides the two counters. `active` is what `try_lock` comes to. -/
structure Heard where
  epochSecs : Int
  used : Nat
  active : Option Nat
  snapshot : List (ℚ × Nat)
  deriving DecidableEq, Repr

structure Load where
  time : Nat
  count : Nat
  deriving DecidableEq, Repr

structure Loads where
  first : Load
  misses : Load
  second : Load
  deriving DecidableEq, Repr

def Loads.hitPct (loads : Loads) : ℚ := Metrics.hitPct (loads.first.count + loads.misses.count) loads.second.count

/-- A sample and the loads it was made from, which nothing reads. -/
structure Reported where
  loads : Loads
  sample : Sample
  deriving DecidableEq, Repr

def sampled (capacity : Nat) (loads : Loads) (heard : Heard) : Sample where
  epochSecs := heard.epochSecs
  hitPct := loads.hitPct
  diskPct := diskPct heard.used capacity
  activeDownloads := heard.active.getD 0
  throughputBps := sumBps heard.snapshot

def snapshotNow (capacity : Nat) (loads : Loads) (heard : Heard) : Sample where
  epochSecs := heard.epochSecs
  hitPct := loads.hitPct
  diskPct := diskPct heard.used capacity
  activeDownloads := 0
  throughputBps := 0

inductive Stage where
  | begun
  | hitsLoaded (first : Load)
  | missesLoaded (first misses : Load)
  | loaded (loads : Loads)
  | made (reported : Reported)
  /-- What `history_json` shows: the current sample and the series. -/
  | answered (current : Reported) (series : List Reported)
  deriving DecidableEq, Repr

structure Reader where
  sampler : Bool
  stage : Stage
  deriving DecidableEq, Repr

structure State where
  hits : Nat
  misses : Nat
  time : Nat
  history : List Reported
  pushed : List Reported
  readers : List Reader

def start : State := ⟨0, 0, 0, [], [], [⟨true, .begun⟩]⟩

inductive Event where
  | hit
  | miss
  | request
  | advance (reader : Nat) (heard : Heard)
  deriving DecidableEq, Repr

def State.put (state : State) (index : Nat) (reader : Reader) (stage : Stage) : State :=
  { state with readers := state.readers.set index { reader with stage := stage } }

/-- The sampler's last step is `History::push`; a call answers with what the history holds. -/
def State.advance (capacity : Nat) (state : State) (index : Nat) (reader : Reader) (heard : Heard) :
    Option State :=
  match reader.stage with
  | .begun => some (state.put index reader (.hitsLoaded ⟨state.time, state.hits⟩))
  | .hitsLoaded first => some (state.put index reader (.missesLoaded first ⟨state.time, state.misses⟩))
  | .missesLoaded first misses =>
      some (state.put index reader (.loaded ⟨first, misses, ⟨state.time, state.hits⟩⟩))
  | .loaded loads =>
      let sample := if reader.sampler then sampled capacity loads heard else snapshotNow capacity loads heard
      some (state.put index reader (.made ⟨loads, sample⟩))
  | .made reported =>
      if reader.sampler then
        some { state.put index reader .begun with
          history := Ring.push cap state.history reported
          pushed := state.pushed ++ [reported] }
      else some (state.put index reader (.answered reported state.history))
  | .answered _ _ => none

def State.tick (state : State) : State := { state with time := state.time + 1 }

def step (capacity : Nat) (state : State) : Event → Option State
  | .hit => some { state.tick with hits := state.hits + 1 }
  | .miss => some { state.tick with misses := state.misses + 1 }
  | .request => some { state.tick with readers := state.readers ++ [⟨false, .begun⟩] }
  | .advance index heard =>
      match state.readers[index]? with
      | none => none
      | some reader => (state.advance capacity index reader heard).map State.tick

def Event.isHit : Event → Bool
  | .hit => true
  | _ => false

def Event.isMiss : Event → Bool
  | .miss => true
  | _ => false

theorem hitPct_nonneg (total hits : Nat) : 0 ≤ hitPct total hits := by
  unfold hitPct
  split
  · positivity
  · exact le_rfl

theorem hitPct_le_iff (first misses between : Nat) :
    hitPct (first + misses) (first + between) ≤ 100 ↔ first + misses = 0 ∨ between ≤ misses := by
  unfold hitPct
  by_cases some_call : 0 < first + misses
  · have positive : (0 : ℚ) < ((first + misses : Nat) : ℚ) := by exact_mod_cast some_call
    rw [if_pos some_call, div_le_iff₀ positive]
    constructor
    · intro small
      right
      have cancelled : ((first + between : Nat) : ℚ) ≤ ((first + misses : Nat) : ℚ) := by linarith
      have counts : first + between ≤ first + misses := by exact_mod_cast cancelled
      omega
    · intro few
      have counts : first + between ≤ first + misses := by omega
      have cast : ((first + between : Nat) : ℚ) ≤ ((first + misses : Nat) : ℚ) := by exact_mod_cast counts
      linarith
  · rw [if_neg some_call]
    have none_there : first + misses = 0 := by omega
    simp [none_there]

theorem diskPct_range (used capacity : Nat) : 0 ≤ diskPct used capacity ∧ diskPct used capacity ≤ 100 := by
  constructor
  · apply le_min
    · split
      · positivity
      · exact le_rfl
    · norm_num
  · exact min_le_right _ _

structure Load.Is (events : List Event) (counts : Event → Bool) (load : Load) : Prop where
  past : load.time ≤ events.length
  count : load.count = (events.take load.time).countP counts

structure Loads.Sound (events : List Event) (loads : Loads) : Prop where
  first : loads.first.Is events Event.isHit
  misses : loads.misses.Is events Event.isMiss
  second : loads.second.Is events Event.isHit
  ordered : loads.first.time ≤ loads.second.time

structure Reported.Sound (events : List Event) (reported : Reported) : Prop where
  loads : reported.loads.Sound events
  hit : reported.sample.hitPct = reported.loads.hitPct
  disk : 0 ≤ reported.sample.diskPct ∧ reported.sample.diskPct ≤ 100

def Stage.Sound (events : List Event) (pushed : List Reported) : Stage → Prop
  | .begun => True
  | .hitsLoaded first => first.Is events Event.isHit
  | .missesLoaded first misses => first.Is events Event.isHit ∧ misses.Is events Event.isMiss
  | .loaded loads => loads.Sound events
  | .made reported => reported.Sound events
  | .answered current series =>
      current.Sound events ∧ ∃ earlier, earlier <+: pushed ∧ series = Ring.latest cap earlier

structure Inv (events : List Event) (state : State) : Prop where
  time : state.time = events.length
  hits : state.hits = events.countP Event.isHit
  misses : state.misses = events.countP Event.isMiss
  history : state.history = Ring.latest cap state.pushed
  pushed : ∀ reported ∈ state.pushed, reported.Sound events
  readers : ∀ reader ∈ state.readers, reader.stage.Sound events state.pushed

section Growth

variable {events : List Event} (event : Event)

theorem Load.Is.later {counts : Event → Bool} {load : Load} (known : load.Is events counts) :
    load.Is (events ++ [event]) counts where
  past := by
    rw [List.length_append]
    exact Nat.le_add_right_of_le known.past
  count := by
    rw [List.take_append_of_le_length known.past]
    exact known.count

theorem Loads.Sound.later {loads : Loads} (sound : loads.Sound events) : loads.Sound (events ++ [event]) :=
  ⟨sound.first.later event, sound.misses.later event, sound.second.later event, sound.ordered⟩

theorem Reported.Sound.later {reported : Reported} (sound : reported.Sound events) :
    reported.Sound (events ++ [event]) :=
  ⟨sound.loads.later event, sound.hit, sound.disk⟩

theorem Stage.Sound.later {stage : Stage} {pushed more : List Reported} (sound : stage.Sound events pushed)
    (grown : pushed <+: more) : stage.Sound (events ++ [event]) more := by
  cases stage with
  | begun => trivial
  | hitsLoaded first => exact Load.Is.later event sound
  | missesLoaded first misses => exact ⟨sound.1.later event, sound.2.later event⟩
  | loaded loads => exact Loads.Sound.later event sound
  | made reported => exact Reported.Sound.later event sound
  | answered current series =>
      obtain ⟨now, earlier, front, shown⟩ := sound
      exact ⟨now.later event, earlier, front.trans grown, shown⟩

theorem Load.Is.now {counts : Event → Bool} :
    (Load.mk events.length (events.countP counts)).Is (events ++ [event]) counts where
  past := by simp
  count := by simp

end Growth

theorem Loads.Sound.second_count {events : List Event} {loads : Loads} (sound : loads.Sound events) :
    loads.second.count = loads.first.count +
      ((events.take loads.second.time).drop loads.first.time).countP Event.isHit := by
  have cut := List.take_append_drop loads.first.time (events.take loads.second.time)
  rw [List.take_take, Nat.min_eq_left sound.ordered] at cut
  rw [sound.first.count, sound.second.count, ← List.countP_append, cut]

section Steps

variable {events : List Event} {state : State}

theorem inv_readers (inv : Inv events state) (event : Event) {more : List Reported} (grown : state.pushed <+: more)
    (index : Nat) (reader : Reader) {stage : Stage} (sound : stage.Sound (events ++ [event]) more) :
    ∀ other ∈ state.readers.set index { reader with stage := stage },
      other.stage.Sound (events ++ [event]) more := by
  intro other member
  cases List.mem_or_eq_of_mem_set member with
  | inl kept => exact (inv.readers other kept).later event grown
  | inr new =>
      subst new
      exact sound

theorem inv_put (inv : Inv events state) {index : Nat} (reader : Reader) {heard : Heard} {stage : Stage}
    (sound : stage.Sound (events ++ [.advance index heard]) state.pushed) :
    Inv (events ++ [.advance index heard]) (state.put index reader stage).tick where
  time := by simp [State.tick, State.put, inv.time]
  hits := by simp [State.tick, State.put, inv.hits, Event.isHit]
  misses := by simp [State.tick, State.put, inv.misses, Event.isMiss]
  history := inv.history
  pushed reported member := (inv.pushed reported member).later _
  readers := inv_readers inv _ (List.prefix_refl _) index reader sound

theorem inv_push (inv : Inv events state) {index : Nat} (reader : Reader) {heard : Heard} {reported : Reported}
    (sound : reported.Sound events) :
    Inv (events ++ [.advance index heard]) { (state.put index reader .begun).tick with
      history := Ring.push cap state.history reported
      pushed := state.pushed ++ [reported] } where
  time := by simp [State.tick, State.put, inv.time]
  hits := by simp [State.tick, State.put, inv.hits, Event.isHit]
  misses := by simp [State.tick, State.put, inv.misses, Event.isMiss]
  history := by
    change Ring.push cap state.history reported = _
    rw [inv.history, Ring.push_latest (by decide)]
  pushed := by
    intro other member
    cases List.mem_append.mp member with
    | inl old => exact (inv.pushed other old).later _
    | inr new =>
        rw [List.mem_singleton.mp new]
        exact sound.later _
  readers := inv_readers inv _ (List.prefix_append _ _) index reader trivial

theorem sample_sound (capacity : Nat) {loads : Loads} (sound : loads.Sound events) (sampler : Bool) (heard : Heard) :
    Reported.Sound events
      ⟨loads, if sampler then sampled capacity loads heard else snapshotNow capacity loads heard⟩ := by
  refine ⟨sound, ?_, ?_⟩
  · cases sampler <;> rfl
  · cases sampler with
    | true => exact diskPct_range heard.used capacity
    | false => exact diskPct_range heard.used capacity

theorem inv_advance {capacity : Nat} (inv : Inv events state) {index : Nat} {reader : Reader} {heard : Heard}
    {next : State} (found : state.readers[index]? = some reader)
    (taken : state.advance capacity index reader heard = some next) :
    Inv (events ++ [.advance index heard]) next.tick := by
  have sound := inv.readers reader (List.mem_of_getElem? found)
  obtain ⟨sampler, stage⟩ := reader
  unfold State.advance at taken
  cases stage with
  | begun =>
      cases taken
      apply inv_put inv
      rw [inv.time, inv.hits]
      exact Load.Is.now _
  | hitsLoaded first =>
      cases taken
      apply inv_put inv
      rw [inv.time, inv.misses]
      exact ⟨Load.Is.later _ sound, Load.Is.now _⟩
  | missesLoaded first misses =>
      cases taken
      apply inv_put inv
      rw [inv.time, inv.hits]
      exact ⟨sound.1.later _, sound.2.later _, Load.Is.now _, sound.1.past⟩
  | loaded loads =>
      cases taken
      apply inv_put inv
      exact (sample_sound capacity sound sampler heard).later _
  | made reported =>
      cases sampler with
      | true =>
          cases taken
          exact inv_push inv _ sound
      | false =>
          cases taken
          apply inv_put inv
          exact ⟨Reported.Sound.later _ sound, state.pushed, List.prefix_refl _, inv.history⟩
  | answered current series => cases taken

theorem inv_step {capacity : Nat} (inv : Inv events state) {event : Event} {next : State}
    (taken : step capacity state event = some next) : Inv (events ++ [event]) next := by
  have old : ∀ reader ∈ state.readers, reader.stage.Sound (events ++ [event]) state.pushed := by
    intro reader member
    exact (inv.readers reader member).later event (List.prefix_refl _)
  have pushed : ∀ reported ∈ state.pushed, reported.Sound (events ++ [event]) := by
    intro reported member
    exact (inv.pushed reported member).later event
  cases event with
  | hit =>
      cases taken
      exact ⟨by simp [State.tick, inv.time], by simp [inv.hits, Event.isHit], by simp [State.tick, inv.misses, Event.isMiss],
        inv.history, pushed, old⟩
  | miss =>
      cases taken
      exact ⟨by simp [State.tick, inv.time], by simp [State.tick, inv.hits, Event.isHit], by simp [inv.misses, Event.isMiss],
        inv.history, pushed, old⟩
  | request =>
      cases taken
      refine ⟨by simp [State.tick, inv.time], by simp [State.tick, inv.hits, Event.isHit],
        by simp [State.tick, inv.misses, Event.isMiss], inv.history, pushed, ?_⟩
      intro reader member
      cases List.mem_append.mp member with
      | inl before => exact old reader before
      | inr new =>
          rw [List.mem_singleton.mp new]
          trivial
  | advance index heard =>
      cases found : state.readers[index]? with
      | none => simp [step, found] at taken
      | some reader =>
          simp only [step, found] at taken
          obtain ⟨reached, advanced, rfl⟩ := Option.map_eq_some_iff.mp taken
          exact inv_advance inv found advanced

end Steps

theorem inv_start : Inv [] start where
  time := rfl
  hits := rfl
  misses := rfl
  history := rfl
  pushed := by
    intro reported member
    cases member
  readers := by
    intro reader member
    rw [List.mem_singleton.mp member]
    trivial

/-- What a viewer can be shown: a sample of the history, or of an answer. -/
def Shown (state : State) (reported : Reported) : Prop :=
  reported ∈ state.history ∨
    ∃ reader ∈ state.readers, ∃ current series, reader.stage = .answered current series ∧
      (reported = current ∨ reported ∈ series)

theorem shown_sound {events : List Event} {state : State} (inv : Inv events state) {reported : Reported}
    (shown : Shown state reported) : reported.Sound events := by
  cases shown with
  | inl held =>
      rw [inv.history] at held
      exact inv.pushed reported (Ring.mem_of_mem_latest held)
  | inr answer =>
      obtain ⟨reader, member, current, series, stage, place⟩ := answer
      have sound := inv.readers reader member
      rw [stage] at sound
      obtain ⟨now, earlier, front, same⟩ := sound
      cases place with
      | inl here => exact here ▸ now
      | inr inside =>
          rw [same] at inside
          exact inv.pushed reported (front.subset (Ring.mem_of_mem_latest inside))

/-- The history is the end of what the sampler pushed, and an answer shows the end of what it had pushed then.
Every disk share lies in the hundred; a hit share does unless more hits came between its two loads of them
than misses had come before its load of those. -/
theorem dashboard_samples (capacity : Nat) (events : List Event) (final : State)
    (ran : Machine.run (step capacity) start events = some final) :
    final.history = Ring.latest cap final.pushed ∧
    (∀ reader ∈ final.readers, ∀ current series, reader.stage = .answered current series →
      ∃ earlier, earlier <+: final.pushed ∧ series = Ring.latest cap earlier) ∧
    ∀ reported, Shown final reported →
      (0 ≤ reported.sample.diskPct ∧ reported.sample.diskPct ≤ 100 ∧ 0 ≤ reported.sample.hitPct) ∧
      (reported.sample.hitPct ≤ 100 ↔
        (events.take reported.loads.first.time).countP Event.isHit +
            (events.take reported.loads.misses.time).countP Event.isMiss = 0 ∨
          ((events.take reported.loads.second.time).drop reported.loads.first.time).countP Event.isHit ≤
            (events.take reported.loads.misses.time).countP Event.isMiss) := by
  have inv : Inv events final :=
    Machine.run_history Inv inv_start (fun _ _ _ _ inv taken => inv_step inv taken) ran
  refine ⟨inv.history, ?_, ?_⟩
  · intro reader member current series answered
    have sound := inv.readers reader member
    rw [answered] at sound
    exact sound.2
  · intro reported shown
    have sound := shown_sound inv shown
    refine ⟨⟨sound.disk.1, sound.disk.2, ?_⟩, ?_⟩
    · rw [sound.hit]
      exact hitPct_nonneg _ _
    · rw [sound.hit, Loads.hitPct, sound.loads.second_count, ← sound.loads.first.count, ← sound.loads.misses.count]
      exact hitPct_le_iff _ _ _

def silent : Heard := ⟨0, 0, none, []⟩

def lateHit : List Event :=
  [.hit, .advance 0 silent, .advance 0 silent, .hit, .advance 0 silent, .advance 0 silent, .advance 0 silent]

/-- The dashboard then shows a hit share of two hundred per cent. -/
theorem dashboard_samples_late_hit :
    ∃ final, Machine.run (step 0) start lateHit = some final ∧
      final.history = Ring.latest cap final.pushed ∧
      final.history.map (fun reported => reported.sample.hitPct) = [200] := by
  have ended : (Machine.run (step 0) start lateHit).map
      (fun final => final.history.map (fun reported => reported.sample.hitPct)) = some [200] := by decide +kernel
  obtain ⟨final, ran, shares⟩ := Option.map_eq_some_iff.mp ended
  exact ⟨final, ran, (dashboard_samples 0 lateHit final ran).1, shares⟩

end WebProxy.Metrics

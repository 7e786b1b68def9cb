import Mathlib.Data.List.Basic
import Mathlib.Data.List.Induction

/-! Runs of a partial step function, and the rules that carry an invariant along them. -/

namespace Machine

variable {σ ε : Type}

/-- The events are taken in order; an event the state refuses ends the run with `none`. -/
def run (step : σ → ε → Option σ) (state : σ) (events : List ε) : Option σ :=
  events.foldlM step state

/-- Every event of the run meets `condition` in the state it is taken in. -/
def Along (step : σ → ε → Option σ) (condition : σ → ε → Prop) : σ → List ε → Prop
  | _, [] => True
  | state, event :: events =>
      condition state event ∧ ∀ next, step state event = some next → Along step condition next events

variable {step : σ → ε → Option σ} {condition : σ → ε → Prop}

instance decidableAlong [∀ state event, Decidable (condition state event)] :
    ∀ (state : σ) (events : List ε), Decidable (Along step condition state events)
  | _, [] => isTrue trivial
  | state, event :: events =>
      match taken : step state event with
      | none =>
          decidable_of_iff (condition state event)
            ⟨fun met => ⟨met, by simp [taken]⟩, fun met => met.1⟩
      | some next =>
          have := decidableAlong next events
          decidable_of_iff (condition state event ∧ Along step condition next events)
            ⟨fun met => ⟨met.1, by simpa [taken] using met.2⟩, fun met => ⟨met.1, met.2 next taken⟩⟩

@[simp] theorem run_nil (state : σ) : run step state [] = some state := rfl

theorem run_cons (state : σ) (event : ε) (events : List ε) :
    run step state (event :: events) = (step state event).bind (fun next => run step next events) := rfl

theorem run_cons_some {state final : σ} {event : ε} {events : List ε}
    (ran : run step state (event :: events) = some final) :
    ∃ next, step state event = some next ∧ run step next events = some final := by
  rw [run_cons] at ran
  exact Option.bind_eq_some_iff.mp ran

theorem run_append (state : σ) (front back : List ε) :
    run step state (front ++ back) = (run step state front).bind (fun next => run step next back) := by
  induction front generalizing state with
  | nil => rfl
  | cons event events ih =>
      rw [List.cons_append, run_cons, run_cons, Option.bind_assoc]
      congr 1
      funext next
      exact ih next

theorem run_append_some {state final : σ} {front back : List ε}
    (ran : run step state (front ++ back) = some final) :
    ∃ middle, run step state front = some middle ∧ run step middle back = some final := by
  rw [run_append] at ran
  exact Option.bind_eq_some_iff.mp ran

theorem run_rest {state middle final : σ} {front back : List ε}
    (ran : run step state (front ++ back) = some final) (reached : run step state front = some middle) :
    run step middle back = some final := by
  rw [run_append, reached, Option.bind_some] at ran
  exact ran

theorem run_through {state middle final : σ} {front back : List ε} (reached : run step state front = some middle)
    (rest : run step middle back = some final) : run step state (front ++ back) = some final := by
  rw [run_append, reached, Option.bind_some, rest]

theorem run_snoc {state middle next : σ} {front : List ε} {event : ε}
    (reached : run step state front = some middle) (taken : step middle event = some next) :
    run step state (front ++ [event]) = some next := by
  apply run_through reached
  rw [run_cons, taken, Option.bind_some, run_nil]

theorem run_split {state middle final : σ} {event : ε} {front back : List ε}
    (ran : run step state (front ++ event :: back) = some final)
    (reached : run step state front = some middle) :
    ∃ next, step middle event = some next ∧ run step next back = some final :=
  run_cons_some (run_rest ran reached)

theorem run_snoc_some {state final : σ} {events : List ε} {event : ε}
    (ran : run step state (events ++ [event]) = some final) :
    ∃ middle, run step state events = some middle ∧ step middle event = some final := by
  obtain ⟨middle, front, last⟩ := run_append_some ran
  obtain ⟨next, taken, rest⟩ := run_cons_some last
  rw [run_nil] at rest
  exact ⟨middle, front, taken.trans rest⟩

/-- The invariant rule: what every step keeps holds after every run. -/
theorem run_invariant (invariant : σ → Prop)
    (kept : ∀ state event next, invariant state → step state event = some next → invariant next)
    {state final : σ} {events : List ε} (start : invariant state)
    (ran : run step state events = some final) : invariant final := by
  induction events generalizing state with
  | nil =>
      rw [run_nil] at ran
      cases ran
      exact start
  | cons event events ih =>
      obtain ⟨next, taken, rest⟩ := run_cons_some ran
      exact ih (kept state event next start taken) rest

theorem run_history (invariant : List ε → σ → Prop) {start : σ} (starts : invariant [] start)
    (kept : ∀ front state event next, invariant front state → step state event = some next →
      invariant (front ++ [event]) next)
    {final : σ} {events : List ε} (ran : run step start events = some final) : invariant events final := by
  induction events using List.reverseRecOn generalizing final with
  | nil =>
      rw [run_nil] at ran
      cases ran
      exact starts
  | append_singleton front event ih =>
      obtain ⟨middle, reached, taken⟩ := run_snoc_some ran
      exact kept front middle event final (ih reached) taken

theorem along_invariant (invariant : σ → Prop)
    (kept : ∀ state event next, invariant state → condition state event →
      step state event = some next → invariant next)
    {state final : σ} {events : List ε} (start : invariant state)
    (met : Along step condition state events)
    (ran : run step state events = some final) : invariant final := by
  induction events generalizing state with
  | nil =>
      rw [run_nil] at ran
      cases ran
      exact start
  | cons event events ih =>
      obtain ⟨next, taken, rest⟩ := run_cons_some ran
      exact ih (kept state event next start met.1 taken) (met.2 next taken) rest

theorem along_mono {weaker : σ → ε → Prop} (implies : ∀ state event, condition state event → weaker state event)
    {state : σ} {events : List ε} (met : Along step condition state events) :
    Along step weaker state events := by
  induction events generalizing state with
  | nil => trivial
  | cons event events ih => exact ⟨implies _ _ met.1, fun next taken => ih (met.2 next taken)⟩

theorem along_append {state middle : σ} {front back : List ε}
    (met : Along step condition state (front ++ back)) (ran : run step state front = some middle) :
    Along step condition state front ∧ Along step condition middle back := by
  induction front generalizing state with
  | nil =>
      rw [run_nil] at ran
      cases ran
      exact ⟨trivial, met⟩
  | cons event events ih =>
      obtain ⟨next, taken, rest⟩ := run_cons_some ran
      obtain ⟨early, late⟩ := ih (met.2 next taken) rest
      refine ⟨⟨met.1, ?_⟩, late⟩
      intro other same
      rw [taken] at same
      cases same
      exact early

theorem along_iff {state : σ} {events : List ε} :
    Along step condition state events ↔ ∀ (front : List ε) (event : ε) (back : List ε) (middle : σ),
      events = front ++ event :: back → run step state front = some middle → condition middle event := by
  constructor
  · intro met front event back middle split reached
    subst split
    exact (along_append met reached).2.1
  · intro met
    induction events generalizing state with
    | nil => trivial
    | cons event events ih =>
        refine ⟨met [] event events state rfl rfl, fun next taken => ih ?_⟩
        intro front later back middle split reached
        apply met (event :: front) later back middle
        · rw [split, List.cons_append]
        · rw [run_cons, taken, Option.bind_some, reached]

theorem along_of_prefixes {state final : σ} {events : List ε}
    (ran : run step state events = some final)
    (met : ∀ (front : List ε) (event : ε) (back : List ε) (middle next : σ),
      events = front ++ event :: back → run step state front = some middle →
      step middle event = some next → condition middle event) : Along step condition state events := by
  rw [along_iff]
  intro front event back middle split reached
  subst split
  obtain ⟨next, taken, _⟩ := run_split ran reached
  exact met front event back middle next rfl reached taken

theorem run_relation (invariant : σ → Prop) (relation : σ → σ → Prop)
    (kept : ∀ state event next, invariant state → step state event = some next → invariant next)
    (reflexive : ∀ state, relation state state)
    (transitive : ∀ first second third, relation first second → relation second third →
      relation first third)
    (stepped : ∀ state event next, invariant state → step state event = some next →
      relation state next)
    {state final : σ} {events : List ε} (start : invariant state)
    (ran : run step state events = some final) : relation state final := by
  induction events generalizing state with
  | nil =>
      rw [run_nil] at ran
      cases ran
      exact reflexive _
  | cons event events ih =>
      obtain ⟨next, taken, rest⟩ := run_cons_some ran
      exact transitive _ _ _ (stepped state event next start taken)
        (ih (kept state event next start taken) rest)

theorem run_lockstep {τ δ : Type} {other : τ → δ → Option τ} (view : ε → δ) (condition : ε → Prop)
    (related : σ → τ → Prop)
    (together : ∀ state image event, related state image → condition event →
      Option.Rel related (step state event) (other image (view event)))
    {state : σ} {image : τ} (start : related state image) {events : List ε}
    (met : ∀ event ∈ events, condition event) :
    Option.Rel related (run step state events) (run other image (events.map view)) := by
  induction events generalizing state image with
  | nil => exact Option.Rel.some start
  | cons event events ih =>
      have first := together state image event start (met event List.mem_cons_self)
      rw [List.map_cons, run_cons, run_cons]
      revert first
      generalize step state event = next
      generalize other image (view event) = shown
      intro first
      cases first with
      | some reached => exact ih reached (fun later member => met later (List.mem_cons_of_mem _ member))
      | none => exact Option.Rel.none

theorem run_length_le (invariant : σ → Prop) (measure : σ → Nat)
    (kept : ∀ state event next, invariant state → step state event = some next → invariant next)
    (lower : ∀ state event next, invariant state → step state event = some next →
      measure next < measure state)
    {state final : σ} {events : List ε} (start : invariant state)
    (ran : run step state events = some final) : events.length + measure final ≤ measure state := by
  induction events generalizing state with
  | nil =>
      rw [run_nil] at ran
      cases ran
      simp
  | cons event events ih =>
      obtain ⟨next, taken, rest⟩ := run_cons_some ran
      have shorter := ih (kept state event next start taken) rest
      have fall := lower state event next start taken
      rw [List.length_cons]
      omega

end Machine

import WebProxy.Library.Machine
import WebProxy.Library.Slots

/-! Programs that ask their surroundings and go on with what they are answered: how they are put one after
the other, how several of them run side by side in surroundings with a state, and the rules for one program,
for two that should look alike, and for those that run beside others. -/

namespace Interaction

structure Interface where
  kind : Type
  sends : kind → Type
  hears : kind → Type

/-- A program asks, and goes on with any answer there can be, or is done. -/
inductive Program (face : Interface) (β : Type) where
  | done (result : β)
  | ask (kind : face.kind) (request : face.sends kind) (next : face.hears kind → Program face β)

variable {face : Interface} {β γ ε κ σ : Type}

namespace Program

def bind : Program face β → (β → Program face γ) → Program face γ
  | .done result, next => next result
  | .ask kind request more, next => .ask kind request (fun heard => (more heard).bind next)

def andThen (program : Program face (Except ε β)) (next : β → Program face (Except ε γ)) :
    Program face (Except ε γ) :=
  program.bind (fun result =>
    match result with
    | .ok value => next value
    | .error error => .done (.error error))

inductive Alike (related : (kind : face.kind) → face.sends kind → face.sends kind → Prop)
    (results : β → β → Prop) : Program face β → Program face β → Prop
  | done {first second : β} : results first second → Alike related results (.done first) (.done second)
  | ask {kind : face.kind} {first second : face.sends kind}
      {firstNext secondNext : face.hears kind → Program face β} : related kind first second →
      (∀ heard, Alike related results (firstNext heard) (secondNext heard)) →
      Alike related results (.ask kind first firstNext) (.ask kind second secondNext)

variable {related : (kind : face.kind) → face.sends kind → face.sends kind → Prop}

theorem Alike.refl {results : β → β → Prop} (reflexive : ∀ kind request, related kind request request)
    (agree : ∀ result, results result result) (program : Program face β) :
    Alike related results program program := by
  induction program with
  | done result => exact .done (agree result)
  | ask kind request next ih => exact .ask (reflexive kind request) ih

theorem Alike.bind {results : β → β → Prop} {after : γ → γ → Prop} {first second : Program face β}
    {firstNext secondNext : β → Program face γ} (alike : Alike related results first second)
    (next : ∀ one two, results one two → Alike related after (firstNext one) (secondNext two)) :
    Alike related after (first.bind firstNext) (second.bind secondNext) := by
  induction alike with
  | done agree => exact next _ _ agree
  | ask asked _ ih => exact .ask asked ih

theorem Alike.andThen {first second : Program face (Except ε β)}
    {firstNext secondNext : β → Program face (Except ε γ)} (alike : Alike related Eq first second)
    (next : ∀ value, Alike related Eq (firstNext value) (secondNext value)) :
    Alike related Eq (first.andThen firstNext) (second.andThen secondNext) := by
  refine alike.bind ?_
  rintro result _ rfl
  cases result with
  | ok value => exact next value
  | error error => exact .done rfl

def Asks (allowed : (kind : face.kind) → face.sends kind → Prop) : Program face β → Prop
  | .done _ => True
  | .ask kind request next => allowed kind request ∧ ∀ heard, Asks allowed (next heard)

variable {allowed : (kind : face.kind) → face.sends kind → Prop}

theorem Asks.bind {program : Program face β} {next : β → Program face γ} (asks : program.Asks allowed)
    (rest : ∀ result, (next result).Asks allowed) : (program.bind next).Asks allowed := by
  induction program with
  | done result => exact rest result
  | ask kind request more ih => exact ⟨asks.1, fun heard => ih heard (asks.2 heard)⟩

theorem Asks.andThen {program : Program face (Except ε β)} {next : β → Program face (Except ε γ)}
    (asks : program.Asks allowed) (rest : ∀ value, (next value).Asks allowed) :
    (program.andThen next).Asks allowed := by
  refine asks.bind ?_
  intro result
  cases result with
  | ok value => exact rest value
  | error error => trivial

end Program

/-- How the surroundings answer a request, and what becomes of them; they have a choice. -/
abbrev Host (face : Interface) (κ σ : Type) : Type :=
  κ → (kind : face.kind) → face.sends kind → σ → face.hears kind × σ

/-- Programs that run side by side. A finished one is kept, a dropped one leaves `none`. -/
structure Server (face : Interface) (β σ : Type) where
  state : σ
  programs : List (Option (Program face β))

def Server.result (server : Server face β σ) (number : Nat) : Option β :=
  match server.programs[number]? with
  | some (some (.done result)) => some result
  | _ => none

theorem Server.result_done {server : Server face β σ} {number : Nat} {result : β}
    (ended : server.result number = some result) :
    server.programs[number]? = some (some (.done result)) := by
  rw [Server.result] at ended
  split at ended
  · rename_i held
    cases ended
    exact held
  · cases ended

inductive Event (face : Interface) (β κ : Type) where
  | spawn (program : Program face β)
  | answer (number : Nat) (choice : κ)
  | drop (number : Nat)

def step (host : Host face κ σ) (server : Server face β σ) : Event face β κ → Option (Server face β σ)
  | .spawn program => some { server with programs := server.programs ++ [some program] }
  | .answer number choice =>
      match server.programs[number]? with
      | some (some (.ask kind request next)) =>
          let heard := host choice kind request server.state
          some ⟨heard.2, server.programs.set number (some (next heard.1))⟩
      | _ => none
  | .drop number =>
      match server.programs[number]? with
      | some (some (.ask _ _ _)) => some { server with programs := server.programs.set number none }
      | _ => none

inductive Move (host : Host face κ σ) (server : Server face β σ) : Event face β κ → Server face β σ → Prop
  | spawn (program : Program face β) :
      Move host server (.spawn program) { server with programs := server.programs ++ [some program] }
  | answer (number : Nat) (choice : κ) (kind : face.kind) (request : face.sends kind)
      (next : face.hears kind → Program face β) :
      server.programs[number]? = some (some (.ask kind request next)) →
      Move host server (.answer number choice) ⟨(host choice kind request server.state).2,
        server.programs.set number (some (next (host choice kind request server.state).1))⟩
  | drop (number : Nat) (kind : face.kind) (request : face.sends kind)
      (next : face.hears kind → Program face β) :
      server.programs[number]? = some (some (.ask kind request next)) →
      Move host server (.drop number) { server with programs := server.programs.set number none }

theorem step_cases {host : Host face κ σ} {server next : Server face β σ} {event : Event face β κ}
    (taken : step host server event = some next) : Move host server event next := by
  cases event with
  | spawn program =>
      cases taken
      exact .spawn program
  | answer number choice =>
      rw [step] at taken
      split at taken
      · rename_i kind request more held
        cases taken
        exact .answer number choice kind request more held
      · cases taken
  | drop number =>
      rw [step] at taken
      split at taken
      · rename_i kind request more held
        cases taken
        exact .drop number kind request more held
      · cases taken

section Alike

variable {related : (kind : face.kind) → face.sends kind → face.sends kind → Prop} {results : β → β → Prop}

structure Server.Alike (related : (kind : face.kind) → face.sends kind → face.sends kind → Prop)
    (results : β → β → Prop) (first second : Server face β σ) : Prop where
  state : first.state = second.state
  programs : List.Forall₂ (Option.Rel (Program.Alike related results)) first.programs second.programs

inductive Event.Alike (related : (kind : face.kind) → face.sends kind → face.sends kind → Prop)
    (results : β → β → Prop) : Event face β κ → Event face β κ → Prop
  | spawn {first second : Program face β} : first.Alike related results second →
      Alike related results (.spawn first) (.spawn second)
  | answer (number : Nat) (choice : κ) : Alike related results (.answer number choice) (.answer number choice)
  | drop (number : Nat) : Alike related results (.drop number) (.drop number)

theorem Server.Alike.asking {first second : Server face β σ} (alike : first.Alike related results second)
    {number : Nat} {kind : face.kind} {request : face.sends kind} {next : face.hears kind → Program face β}
    (held : first.programs[number]? = some (some (.ask kind request next))) :
    ∃ other otherNext, second.programs[number]? = some (some (.ask kind other otherNext)) ∧
      related kind request other ∧ ∀ heard, (next heard).Alike related results (otherNext heard) := by
  have slots := alike.programs
  obtain ⟨inside, got⟩ := List.getElem?_eq_some_iff.mp held
  have within : number < second.programs.length := slots.length_eq ▸ inside
  have same := (List.forall₂_iff_get.mp slots).2 number inside within
  rw [List.get_eq_getElem, got] at same
  cases found : second.programs[number] with
  | none =>
      rw [List.get_eq_getElem, found] at same
      cases same
  | some program =>
      rw [List.get_eq_getElem, found] at same
      cases same with
      | some programs =>
          cases programs with
          | ask asked rest =>
              exact ⟨_, _, List.getElem?_eq_some_iff.mpr ⟨within, found⟩, asked, rest⟩

theorem Server.Alike.result {first second : Server face β σ} (alike : first.Alike related Eq second)
    (number : Nat) : first.result number = second.result number := by
  unfold Server.result
  have slots := alike.programs
  by_cases inside : number < first.programs.length
  · have within : number < second.programs.length := slots.length_eq ▸ inside
    have same := (List.forall₂_iff_get.mp slots).2 number inside within
    rw [List.getElem?_eq_getElem inside, List.getElem?_eq_getElem within]
    change Option.Rel _ first.programs[number] second.programs[number] at same
    generalize first.programs[number] = one at same ⊢
    generalize second.programs[number] = two at same ⊢
    cases same with
    | none => rfl
    | some programs =>
        cases programs with
        | done agree => rw [agree]
        | ask asked rest => rfl
  · have outside : ¬ number < second.programs.length := slots.length_eq ▸ inside
    rw [List.getElem?_eq_none (Nat.le_of_not_lt inside), List.getElem?_eq_none (Nat.le_of_not_lt outside)]

theorem alike_step {host : Host face κ σ}
    (blind : ∀ choice kind first second state, related kind first second →
      host choice kind first state = host choice kind second state)
    {first second next : Server face β σ} {event other : Event face β κ}
    (alike : first.Alike related results second) (events : event.Alike related results other)
    (taken : step host first event = some next) :
    ∃ after, step host second other = some after ∧ next.Alike related results after := by
  cases step_cases taken with
  | spawn program =>
      cases events with
      | spawn programs =>
          exact ⟨_, rfl, alike.state, List.rel_append alike.programs (.cons (.some programs) .nil)⟩
  | answer number choice kind request more held =>
      cases events
      obtain ⟨request', more', held', asked, rest⟩ := alike.asking held
      refine ⟨_, by rw [step, held'], ?_, ?_⟩
      · rw [← alike.state, blind choice kind request request' first.state asked]
      · rw [← alike.state, ← blind choice kind request request' first.state asked]
        exact Slots.forall₂_set alike.programs (.some (rest _)) number
  | drop number kind request more held =>
      cases events
      obtain ⟨request', more', held', _, _⟩ := alike.asking held
      exact ⟨{ second with programs := second.programs.set number none }, by rw [step, held'], alike.state,
        Slots.forall₂_set alike.programs .none number⟩

theorem alike_run {host : Host face κ σ}
    (blind : ∀ choice kind first second state, related kind first second →
      host choice kind first state = host choice kind second state)
    {first second final : Server face β σ} {events others : List (Event face β κ)}
    (alike : first.Alike related results second)
    (events_alike : List.Forall₂ (Event.Alike related results) events others)
    (ran : Machine.run (step host) first events = some final) :
    ∃ after, Machine.run (step host) second others = some after ∧ final.Alike related results after := by
  induction events_alike generalizing first second with
  | nil =>
      cases ran
      exact ⟨second, rfl, alike⟩
  | cons same _ ih =>
      obtain ⟨next, taken, rest⟩ := Machine.run_cons_some ran
      obtain ⟨after, taken', alike'⟩ := alike_step blind alike same taken
      obtain ⟨last, ran', ended⟩ := ih alike' rest
      exact ⟨last, by rw [Machine.run_cons, taken', Option.bind_some, ran'], ended⟩

end Alike

section Holds

/-- What programs are judged by: the surroundings, the choices of theirs that are considered, what the others
may make of the state and what a program's own steps may make of it. -/
structure Rules (face : Interface) (κ σ : Type) where
  host : Host face κ σ
  admits : κ → (kind : face.kind) → face.sends kind → σ → Prop
  rely : σ → σ → Prop
  guar : σ → σ → Prop

variable (rules : Rules face κ σ) {post : β → σ → Prop}

/-- What a program does beside others: whatever these make of the state within `rely`, its own steps stay
within `guar`, and its result meets `post` then and later. -/
def Program.Holds (post : β → σ → Prop) : Program face β → σ → Prop
  | .done result, state => ∀ later, rules.rely state later → post result later
  | .ask kind request next, state => ∀ later, rules.rely state later →
      ∀ choice, rules.admits choice kind request later →
        rules.guar later (rules.host choice kind request later).2 ∧
          Holds post (next (rules.host choice kind request later).1) (rules.host choice kind request later).2

structure Rules.Steady : Prop where
  reflexive : ∀ state, rules.rely state state
  transitive : ∀ first second third, rules.rely first second → rules.rely second third →
    rules.rely first third

variable {rules}

theorem Program.Holds.later (steady : rules.Steady) {program : Program face β} {state next : σ}
    (holds : program.Holds rules post state) (moved : rules.rely state next) :
    program.Holds rules post next := by
  cases program with
  | done result => exact fun later more => holds later (steady.transitive _ _ _ moved more)
  | ask kind request more => exact fun later far => holds later (steady.transitive _ _ _ moved far)

theorem Program.Holds.mono {first second : β → σ → Prop}
    (weaker : ∀ result state, first result state → second result state) {program : Program face β} {state : σ}
    (holds : program.Holds rules first state) : program.Holds rules second state := by
  induction program generalizing state with
  | done result => exact fun later moved => weaker result later (holds later moved)
  | ask kind request more ih =>
      intro later moved choice admitted
      obtain ⟨guarded, goes⟩ := holds later moved choice admitted
      exact ⟨guarded, ih _ goes⟩

theorem Program.Holds.bind (steady : rules.Steady) {after : γ → σ → Prop} {program : Program face β}
    {next : β → Program face γ} {state : σ} (holds : program.Holds rules post state)
    (rest : ∀ result later, post result later → (next result).Holds rules after later) :
    (program.bind next).Holds rules after state := by
  induction program generalizing state with
  | done result => exact rest result state (holds state (steady.reflexive state))
  | ask kind request more ih =>
      intro later moved choice admitted
      obtain ⟨guarded, goes⟩ := holds later moved choice admitted
      exact ⟨guarded, ih _ goes⟩

theorem Program.Asks.holds (invariant : σ → Prop) {allowed : (kind : face.kind) → face.sends kind → Prop}
    (stable : ∀ state next, invariant state → rules.rely state next → invariant next)
    (keeps : ∀ kind request state choice, allowed kind request → invariant state →
      rules.admits choice kind request state → rules.guar state (rules.host choice kind request state).2 ∧
        invariant (rules.host choice kind request state).2)
    {program : Program face β} (asks : program.Asks allowed) {state : σ} (holds : invariant state) :
    program.Holds rules (fun _ => invariant) state := by
  induction program generalizing state with
  | done result => exact fun later moved => stable state later holds moved
  | ask kind request more ih =>
      intro later moved choice admitted
      obtain ⟨guarded, kept⟩ := keeps kind request later choice asks.1 (stable state later holds moved) admitted
      exact ⟨guarded, ih _ (asks.2 _) kept⟩

theorem Program.Holds.andThen (steady : rules.Steady) {first : Except ε β → σ → Prop}
    {after : Except ε γ → σ → Prop} {program : Program face (Except ε β)}
    {next : β → Program face (Except ε γ)} {state : σ} (holds : program.Holds rules first state)
    (good : ∀ value later, first (.ok value) later → (next value).Holds rules after later)
    (bad : ∀ error later, first (.error error) later →
      ∀ further, rules.rely later further → after (.error error) further) :
    (program.andThen next).Holds rules after state := by
  refine holds.bind steady ?_
  intro result later met
  cases result with
  | ok value => exact good value later met
  | error error => exact bad error later met

def Admitted (rules : Rules face κ σ) (server : Server face β σ) : Event face β κ → Prop
  | .answer number choice => ∀ (kind : face.kind) (request : face.sends kind)
      (next : face.hears kind → Program face β),
      server.programs[number]? = some (some (.ask kind request next)) →
      rules.admits choice kind request server.state
  | _ => True

/-- Every program that is not dropped holds in the present state; what is asked of a result depends on whose it
is. -/
def Server.Sound (rules : Rules face κ σ) (posts : Nat → β → σ → Prop) (server : Server face β σ) : Prop :=
  ∀ (number : Nat) (program : Program face β), server.programs[number]? = some (some program) →
    program.Holds rules (posts number) server.state

/-- The rule for programs beside each other: what each guarantees, the others rely on. -/
theorem sound_step (steady : rules.Steady)
    (suits : ∀ state next, rules.guar state next → rules.rely state next) {posts : Nat → β → σ → Prop}
    {server next : Server face β σ} {event : Event face β κ} (sound : server.Sound rules posts)
    (starts : ∀ program, event = .spawn program →
      program.Holds rules (posts server.programs.length) server.state)
    (admitted : Admitted rules server event) (taken : step rules.host server event = some next) :
    next.Sound rules posts ∧ (next.state = server.state ∨ rules.guar server.state next.state) := by
  cases step_cases taken with
  | spawn program =>
      refine ⟨?_, Or.inl rfl⟩
      intro number other found
      rcases Slots.get_snoc_cases found with old | ⟨here, new⟩
      · exact sound number other old
      · cases new
        rw [here]
        exact starts program rfl
  | answer number choice kind request more held =>
      obtain ⟨guarded, goes⟩ := sound number _ held server.state (steady.reflexive _) choice
        (admitted kind request more held)
      refine ⟨?_, Or.inr guarded⟩
      intro other program found
      rcases Slots.get_set_cases found with ⟨here, new⟩ | ⟨_, old⟩
      · cases new
        rw [here]
        exact goes
      · exact (sound other program old).later steady (suits _ _ guarded)
  | drop number kind request more held =>
      refine ⟨?_, Or.inl rfl⟩
      intro other program found
      rcases Slots.get_set_cases found with ⟨_, new⟩ | ⟨_, old⟩
      · cases new
      · exact sound other program old

def Program.asking : Program face β → Bool
  | .done _ => false
  | .ask _ _ _ => true

def Server.Idle (server : Server face β σ) : Prop :=
  ∀ (number : Nat) (program : Program face β), server.programs[number]? = some (some program) →
    program.asking = false

def Serial (server : Server face β σ) : Event face β κ → Prop
  | .spawn _ => server.Idle
  | _ => True

structure Server.Alone (rules : Rules face κ σ) (post : β → σ → Prop) (server : Server face β σ) : Prop where
  holds : ∀ (number : Nat) (program : Program face β), server.programs[number]? = some (some program) →
    program.asking = true → program.Holds rules post server.state
  single : ∀ (number other : Nat) (program beside : Program face β),
    server.programs[number]? = some (some program) → server.programs[other]? = some (some beside) →
    program.asking = true → beside.asking = true → number = other

theorem sound_start (rules : Rules face κ σ) (posts : Nat → β → σ → Prop) (state : σ) :
    Server.Sound rules posts ⟨state, []⟩ :=
  fun _ _ found => by simp at found

theorem alone_start (rules : Rules face κ σ) (post : β → σ → Prop) (state : σ) :
    Server.Alone rules post ⟨state, []⟩ :=
  ⟨fun _ _ found => by simp at found, fun _ _ _ _ found => by simp at found⟩

/-- What stands in the slots after one changed: the new content, or a program whose slot is another one. -/
theorem slot_cases {programs : List (Option (Program face β))} {number other : Nat}
    {kept : Option (Program face β)} {program : Program face β}
    (found : (programs.set number kept)[other]? = some (some program)) :
    other = number ∧ kept = some program ∨ other ≠ number ∧ programs[other]? = some (some program) := by
  rcases Slots.get_set_cases found with ⟨same, new⟩ | ⟨differs, old⟩
  · exact Or.inl ⟨same, new.symm⟩
  · exact Or.inr ⟨differs, old⟩

/-- The rule for programs one after the other: nobody else changes the state. -/
theorem alone_step (reflexive : ∀ state, rules.rely state state) {server next : Server face β σ}
    {event : Event face β κ} (alone : server.Alone rules post) (serial : Serial server event)
    (starts : ∀ program, event = .spawn program → program.Holds rules post server.state)
    (admitted : Admitted rules server event) (taken : step rules.host server event = some next) :
    next.Alone rules post ∧ (next.state = server.state ∨ rules.guar server.state next.state) := by
  cases step_cases taken with
  | spawn program =>
      refine ⟨⟨?_, ?_⟩, Or.inl rfl⟩
      · intro number other found asks
        rcases Slots.get_snoc_cases found with old | ⟨_, new⟩
        · exact alone.holds number other old asks
        · cases new
          exact starts program rfl
      · intro number other first second found beside asks also
        rcases Slots.get_snoc_cases found with old | ⟨here, _⟩
        · rw [serial number first old] at asks
          cases asks
        · rcases Slots.get_snoc_cases beside with old | ⟨there, _⟩
          · rw [serial other second old] at also
            cases also
          · rw [here, there]
  | answer number choice kind request more held =>
      obtain ⟨guarded, goes⟩ := alone.holds number _ held rfl server.state (reflexive _) choice
        (admitted kind request more held)
      have lone : ∀ other program, server.programs[other]? = some (some program) →
          program.asking = true → other = number :=
        fun other program found asks => alone.single other number program _ found held asks rfl
      refine ⟨⟨?_, ?_⟩, Or.inr guarded⟩
      · intro other program found asks
        rcases slot_cases found with ⟨_, new⟩ | ⟨differs, old⟩
        · cases new
          exact goes
        · exact absurd (lone other program old asks) differs
      · intro one two first second found beside asks also
        rcases slot_cases found with ⟨here, _⟩ | ⟨differs, old⟩
        · rcases slot_cases beside with ⟨there, _⟩ | ⟨differs, old⟩
          · rw [here, there]
          · exact absurd (lone two second old also) differs
        · exact absurd (lone one first old asks) differs
  | drop number kind request more held =>
      refine ⟨⟨?_, ?_⟩, Or.inl rfl⟩
      · intro other program found asks
        rcases slot_cases found with ⟨_, new⟩ | ⟨_, old⟩
        · cases new
        · exact alone.holds other program old asks
      · intro one two first second found beside asks also
        rcases slot_cases found with ⟨_, new⟩ | ⟨_, old⟩
        · cases new
        · rcases slot_cases beside with ⟨_, new⟩ | ⟨_, later⟩
          · cases new
          · exact alone.single one two first second old later asks also

theorem alone_ended (reflexive : ∀ state, rules.rely state state) {server next : Server face β σ}
    {event : Event face β κ} (alone : server.Alone rules post)
    (starts : ∀ program, event = .spawn program → program.Holds rules post server.state)
    (admitted : Admitted rules server event) (taken : step rules.host server event = some next)
    {number : Nat} {result : β} (before : server.result number ≠ some result)
    (after : next.result number = some result) : post result next.state := by
  have ended := Server.result_done after
  have kept : server.programs[number]? ≠ some (some (.done result)) := by
    intro same
    exact before (by rw [Server.result, same])
  cases step_cases taken with
  | spawn program =>
      rcases Slots.get_snoc_cases ended with old | ⟨_, new⟩
      · exact absurd old kept
      · cases new
        exact starts _ rfl server.state (reflexive _)
  | answer other choice kind request more held =>
      rcases slot_cases ended with ⟨_, new⟩ | ⟨_, old⟩
      · have goes := (alone.holds other _ held rfl server.state (reflexive _) choice
          (admitted kind request more held)).2
        rw [Option.some.inj new] at goes
        exact goes _ (reflexive _)
      · exact absurd old kept
  | drop other kind request more held =>
      rcases slot_cases ended with ⟨_, new⟩ | ⟨_, old⟩
      · cases new
      · exact absurd old kept

end Holds

end Interaction

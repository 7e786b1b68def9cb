import WebProxy.Library.Table
import WebProxy.PullStream
import WebProxy.Sources

/-! The progress of a pull as `snapshot` shows it: the layers in order, their sums and the percentage,
along the lines of the daemon's stream. -/

namespace WebProxy.Pulls

open ByteFile (Bytes)
open ImageRef (PullSpec)
open Machine (run Along)
open Sources (wrap)
open Weights (weight)

def JobStatus.asStr : JobStatus → String
  | .pulling => "pulling"
  | .retagging => "retagging"
  | .done => "done"
  | .failed => "failed"

def JobState.sums (state : JobState) : Nat × Nat :=
  state.layerOrder.foldl (fun sums id =>
    match Table.lookup state.layers id with
    | none => sums
    | some layer => (wrap (sums.1 + layer.current), wrap (sums.2 + layer.total))) (0, 0)

def JobState.percent (state : JobState) : Nat :=
  if 0 < state.sums.2 then wrap (state.sums.1 * 100) / state.sums.2 else 0

def natJson (value : Nat) : Json := .number (.posInt value)

def layerJson (id : String) (layer : LayerState) : Json :=
  .object [("id", .string id), ("status", .string layer.status), ("current", natJson layer.current),
    ("total", natJson layer.total)]

def Job.snapshot (job : Job) (elapsed : Nat) : Json :=
  .object [("id", natJson job.id), ("image", .string job.spec.image),
    ("status", .string job.state.status.asStr), ("message", .string job.state.message),
    ("error", (job.state.error.map Json.string).getD .null), ("elapsed_secs", natJson elapsed),
    ("percent", natJson job.state.percent),
    ("layers", .array (job.state.layerOrder.filterMap (fun id =>
      (Table.lookup job.state.layers id).map (layerJson id))))]

def State.snapshot (state : State) (elapsed : Nat → Nat) : List Json :=
  state.listed.reverse.filterMap (fun number =>
    (state.jobs[number]?).map (fun job => job.snapshot (elapsed number)))

/-- What `layer_order` and `layers` are to each other: the same keys, each of them once. -/
structure Layered (state : JobState) : Prop where
  order : state.layerOrder = state.layers.map (·.1)
  distinct : (state.layers.map (·.1)).Nodup

def layerCurrent (layer : String × LayerState) : Nat := layer.2.current

def layerTotal (layer : String × LayerState) : Nat := layer.2.total

def Bounded (state : JobState) (bound : Nat) : Prop :=
  weight layerCurrent state.layers ≤ bound ∧ weight layerTotal state.layers ≤ bound

/-- No layer is ahead of its total. -/
def Within (state : JobState) : Prop := ∀ layer ∈ state.layers, layer.2.current ≤ layer.2.total

theorem Layered.sums_eq {state : JobState} (layered : Layered state) {bound : Nat}
    (bounded : Bounded state bound) (small : bound < 2 ^ 64) :
    state.sums = (weight layerCurrent state.layers, weight layerTotal state.layers) := by
  have fold : ∀ (layers : List (String × LayerState)) (current total : Nat),
      (∀ layer ∈ layers, Table.lookup state.layers layer.1 = some layer.2) →
      current + weight layerCurrent layers < 2 ^ 64 → total + weight layerTotal layers < 2 ^ 64 →
      (layers.map (·.1)).foldl (fun sums id =>
        match Table.lookup state.layers id with
        | none => sums
        | some layer => (wrap (sums.1 + layer.current), wrap (sums.2 + layer.total))) (current, total) =
      (current + weight layerCurrent layers, total + weight layerTotal layers) := by
    intro layers
    induction layers with
    | nil =>
        intro current total _ _ _
        rfl
    | cons layer layers ih =>
        intro current total found less fewer
        rw [List.forall_mem_cons] at found
        rw [Weights.weight_cons] at less fewer
        rw [Weights.weight_cons, Weights.weight_cons, List.map_cons, List.foldl_cons, found.1]
        have first : wrap (current + layer.2.current) = current + layerCurrent layer :=
          Nat.mod_eq_of_lt (by rw [layerCurrent] at less; omega)
        have second : wrap (total + layer.2.total) = total + layerTotal layer :=
          Nat.mod_eq_of_lt (by rw [layerTotal] at fewer; omega)
        simp only [first, second]
        rw [ih _ _ found.2 (by omega) (by omega), Nat.add_assoc, Nat.add_assoc]
  have whole := fold state.layers 0 0
    (fun layer member => Table.lookup_of_mem layered.distinct member)
    (by rw [Nat.zero_add]; exact bounded.1.trans_lt small)
    (by rw [Nat.zero_add]; exact bounded.2.trans_lt small)
  rw [Nat.zero_add, Nat.zero_add] at whole
  rw [JobState.sums, layered.order]
  exact whole

theorem weight_le_of_within {layers : List (String × LayerState)}
    (within : ∀ layer ∈ layers, layer.2.current ≤ layer.2.total) :
    weight layerCurrent layers ≤ weight layerTotal layers := by
  induction layers with
  | nil => exact le_rfl
  | cons layer layers ih =>
      rw [List.forall_mem_cons] at within
      rw [Weights.weight_cons, Weights.weight_cons]
      exact Nat.add_le_add within.1 (ih within.2)

theorem Layered.percent_le {state : JobState} (layered : Layered state) {bound : Nat}
    (bounded : Bounded state bound) (small : bound < 2 ^ 57) (within : Within state) :
    state.percent ≤ 100 := by
  have ahead := weight_le_of_within within
  have fits : weight layerCurrent state.layers * 100 < 2 ^ 64 := by
    have less := bounded.1
    omega
  rw [JobState.percent, layered.sums_eq bounded (by omega)]
  split
  · rw [wrap, Nat.mod_eq_of_lt fits]
    apply Nat.div_le_of_le_mul
    exact Nat.mul_le_mul_right 100 ahead
  · exact Nat.zero_le 100

theorem progress_layers (state : JobState) (line : ProgressLine) :
    (line.id = none ∧ (state.progress line).layers = state.layers ∧
      (state.progress line).layerOrder = state.layerOrder) ∨
    ∃ id, line.id = some id ∧
      ((id ∈ state.layers.map (·.1) ∧ (state.progress line).layerOrder = state.layerOrder ∧
        (state.progress line).layers = Table.update state.layers id (fun layer => layer.report line)) ∨
      (id ∉ state.layers.map (·.1) ∧ (state.progress line).layerOrder = state.layerOrder ++ [id] ∧
        (state.progress line).layers =
          state.layers ++ [(id, ⟨line.status, line.current, line.total⟩)])) := by
  have fresh : (⟨line.status, 0, 0⟩ : LayerState).report line =
      ⟨line.status, line.current, line.total⟩ := by
    simp only [LayerState.report, LayerState.mk.injEq, true_and]
    constructor
    · split <;> omega
    · split <;> omega
  rw [JobState.progress]
  cases named : line.id with
  | none => exact Or.inl ⟨rfl, rfl, rfl⟩
  | some id =>
      refine Or.inr ⟨id, rfl, ?_⟩
      by_cases known : state.layers.any (fun layer => layer.1 = id) = true
      · simp only [known, if_true]
        exact Or.inl ⟨by simpa using known, trivial, rfl⟩
      · simp only [known, fresh]
        exact Or.inr ⟨by simpa using known, rfl, rfl⟩

theorem progress_layered {state : JobState} (layered : Layered state) (line : ProgressLine) :
    Layered (state.progress line) := by
  obtain ⟨order, distinct⟩ := layered
  rcases progress_layers state line with
    ⟨_, layers, listed⟩ | ⟨id, _, ⟨_, listed, layers⟩ | ⟨absent, listed, layers⟩⟩
  · exact ⟨by rw [listed, layers, order], by rw [layers]; exact distinct⟩
  · refine ⟨?_, ?_⟩
    · rw [listed, layers, Table.keys_update, order]
    · rw [layers, Table.keys_update]
      exact distinct
  · refine ⟨?_, ?_⟩
    · rw [listed, layers, order, List.map_append]
      rfl
    · rw [layers, List.map_append, List.map_singleton]
      exact List.nodup_append.mpr ⟨distinct, List.nodup_singleton id, by
        intro key member other last same
        have named : key = id := same.trans (List.mem_singleton.mp last)
        exact absent (named ▸ member)⟩

theorem progress_bounded {state : JobState} (layered : Layered state) {bound : Nat}
    (bounded : Bounded state bound) {line : ProgressLine} (ordered : line.current ≤ line.total) :
    Bounded (state.progress line) (bound + line.total) := by
  obtain ⟨current, total⟩ := bounded
  rcases progress_layers state line with
    ⟨_, layers, _⟩ | ⟨id, _, ⟨_, _, layers⟩ | ⟨_, _, layers⟩⟩
  · rw [Bounded, layers]
    exact ⟨by omega, by omega⟩
  · have spent := Table.weight_update layerCurrent id (fun layer => layer.report line) line.total
      layered.distinct (by
        intro layer
        simp only [layerCurrent, LayerState.report]
        split <;> omega)
    have announced := Table.weight_update layerTotal id (fun layer => layer.report line) line.total
      layered.distinct (by
        intro layer
        simp only [layerTotal, LayerState.report]
        split <;> omega)
    rw [Bounded, layers]
    exact ⟨by omega, by omega⟩
  · rw [Bounded, layers, Weights.weight_append, Weights.weight_append]
    simp only [Weights.weight_cons, Weights.weight_nil, layerCurrent, layerTotal] at *
    exact ⟨by omega, by omega⟩

/-- The line takes no layer behind the progress it has: a current of 0 counts as not reported, so a
total that comes with it must not be below the current the layer has. -/
def Reached (state : JobState) (line : ProgressLine) : Prop :=
  ∀ layer ∈ state.layers, line.id = some layer.1 → line.current = 0 → 0 < line.total →
    layer.2.current ≤ line.total

instance decidableReached (state : JobState) (line : ProgressLine) : Decidable (Reached state line) :=
  inferInstanceAs (Decidable (∀ layer ∈ state.layers, line.id = some layer.1 → line.current = 0 →
    0 < line.total → layer.2.current ≤ line.total))

theorem report_within_iff {layer : LayerState} {line : ProgressLine}
    (within : layer.current ≤ layer.total) (ordered : line.current ≤ line.total) :
    (layer.report line).current ≤ (layer.report line).total ↔
      (line.current = 0 → 0 < line.total → layer.current ≤ line.total) := by
  simp only [LayerState.report]
  by_cases moved : 0 < line.current
  · have announced : 0 < line.total := by omega
    rw [if_pos moved, if_pos announced]
    exact ⟨fun _ none => by omega, fun _ => ordered⟩
  · rw [if_neg moved]
    split
    · rename_i announced
      exact ⟨fun reached _ _ => reached, fun reached => reached (by omega) announced⟩
    · rename_i silent
      exact ⟨fun _ _ announced => absurd announced silent, fun _ => within⟩

theorem progress_within_iff {state : JobState} (within : Within state) {line : ProgressLine}
    (ordered : line.current ≤ line.total) : Within (state.progress line) ↔ Reached state line := by
  rcases progress_layers state line with
    ⟨unnamed, layers, _⟩ | ⟨id, named, ⟨_, _, layers⟩ | ⟨absent, _, layers⟩⟩
  · rw [Within, layers, Reached, unnamed]
    exact ⟨fun _ => nofun, fun _ => within⟩
  · rw [Within, layers, Table.update, List.forall_mem_map, Reached, named]
    constructor
    · intro after layer member same
      have kept := after layer member
      rw [if_pos (Option.some.inj same).symm] at kept
      exact (report_within_iff (within layer member) ordered).mp kept
    · intro reached layer member
      split
      · rename_i same
        exact (report_within_iff (within layer member) ordered).mpr
          (reached layer member (congrArg some same.symm))
      · exact within layer member
  · rw [Within, layers, Reached, named]
    constructor
    · intro _ layer member same
      exact absurd (List.mem_map.mpr ⟨layer, member, (Option.some.inj same).symm⟩) absent
    · intro _ layer member
      rcases List.mem_append.mp member with old | new
      · exact within layer old
      · rw [List.mem_singleton.mp new]
        exact ordered

def ReadLine.reported : ReadLine → Nat × Nat
  | .progress line => (line.current, line.total)
  | _ => (0, 0)

def ReadLine.reached (state : JobState) : ReadLine → Prop
  | .progress line => Reached state line
  | _ => True

instance ReadLine.decidableReached (state : JobState) : ∀ read : ReadLine, Decidable (read.reached state)
  | .progress line => Pulls.decidableReached state line
  | .ignored => isTrue trivial
  | .failure _ => isTrue trivial

structure Percentage (state : JobState) : Prop where
  listed : state.layerOrder.Nodup ∧ ∀ id, id ∈ state.layerOrder ↔ id ∈ state.layers.map (·.1)
  within : ∀ layer ∈ state.layers, layer.2.current ≤ layer.2.total
  percent : state.percent ≤ 100

theorem snapshot_percent {state : State} (sound : ∀ job ∈ state.jobs, Percentage job.state)
    (elapsed : Nat → Nat) {entry : Json} (shown : entry ∈ state.snapshot elapsed) :
    ∃ percent, percent ≤ 100 ∧ entry.get "percent" = some (natJson percent) := by
  obtain ⟨number, _, found⟩ := List.mem_filterMap.mp shown
  obtain ⟨job, held, rfl⟩ := Option.map_eq_some_iff.mp found
  exact ⟨job.state.percent, (sound job (List.mem_of_getElem? held)).percent, rfl⟩

section Lines

variable (readJson : String → Option Json)

/-- A line of the stream as a step of the job's state; an error line ends the run. -/
def lineStep (state : JobState) (line : Bytes) : Option JobState :=
  (applyProgressLine readJson state line).toOption

def reported (line : Bytes) : Nat × Nat := (readLine readJson line).reported

def LineReached (state : JobState) (line : Bytes) : Prop := (readLine readJson line).reached state

instance decidableLineReached (state : JobState) (line : Bytes) :
    Decidable (LineReached readJson state line) :=
  ReadLine.decidableReached state (readLine readJson line)

theorem lineStep_progress (state : JobState) {line : Bytes} {read : ProgressLine}
    (reads : readLine readJson line = .progress read) :
    lineStep readJson state line = some (state.progress read) := by
  rw [lineStep, applyProgressLine, reads]
  rfl

theorem lineStep_cases (state : JobState) (line : Bytes) :
    (∃ read, readLine readJson line = .progress read ∧
      lineStep readJson state line = some (state.progress read)) ∨
    (∀ read, readLine readJson line ≠ .progress read) ∧
      ∀ next, lineStep readJson state line = some next → next = state := by
  cases reads : readLine readJson line with
  | ignored =>
      refine Or.inr ⟨by simp, ?_⟩
      intro next taken
      rw [lineStep, applyProgressLine, reads] at taken
      exact (Option.some.inj taken).symm
  | failure error =>
      refine Or.inr ⟨by simp, ?_⟩
      intro next taken
      rw [lineStep, applyProgressLine, reads] at taken
      cases taken
  | progress read => exact Or.inl ⟨read, rfl, lineStep_progress readJson state reads⟩

theorem reported_other {line : Bytes} (other : ∀ read, readLine readJson line ≠ .progress read) :
    reported readJson line = (0, 0) := by
  rw [reported]
  cases found : readLine readJson line with
  | ignored => rfl
  | failure error => rfl
  | progress read => exact absurd found (other read)

theorem lineReached_other (state : JobState) {line : Bytes}
    (other : ∀ read, readLine readJson line ≠ .progress read) : LineReached readJson state line := by
  rw [LineReached]
  cases found : readLine readJson line with
  | ignored => trivial
  | failure error => trivial
  | progress read => exact absurd found (other read)

/-- The layers after some lines: their keys are in order, and their sums are below what was
announced. -/
theorem run_layered {state final : JobState} {lines : List Bytes} {bound : Nat}
    (layered : Layered state) (bounded : Bounded state bound)
    (ordered : ∀ line ∈ lines, (reported readJson line).1 ≤ (reported readJson line).2)
    (ran : run (lineStep readJson) state lines = some final) :
    Layered final ∧ Bounded final (bound + weight (fun line => (reported readJson line).2) lines) := by
  induction lines generalizing state bound with
  | nil =>
      rw [Machine.run_nil] at ran
      cases ran
      exact ⟨layered, bounded⟩
  | cons line lines ih =>
      obtain ⟨next, taken, rest⟩ := Machine.run_cons_some ran
      rw [List.forall_mem_cons] at ordered
      rw [Weights.weight_cons, ← Nat.add_assoc]
      rcases lineStep_cases readJson state line with ⟨read, reads, moves⟩ | ⟨other, stays⟩
      · rw [moves] at taken
        cases taken
        rw [reported, reads] at ordered ⊢
        exact ih (progress_layered layered read) (progress_bounded layered bounded ordered.1)
          ordered.2 rest
      · rw [stays next taken] at rest
        rw [reported_other readJson other]
        exact ih layered bounded ordered.2 rest

theorem run_within {state final : JobState} {lines : List Bytes} (within : Within state)
    (ordered : ∀ line ∈ lines, (reported readJson line).1 ≤ (reported readJson line).2)
    (met : Along (lineStep readJson) (LineReached readJson) state lines)
    (ran : run (lineStep readJson) state lines = some final) : Within final := by
  -- the order of each line's own numbers goes along with the condition
  have both : Along (lineStep readJson) (fun state line => LineReached readJson state line ∧
      (reported readJson line).1 ≤ (reported readJson line).2) state lines := by
    rw [Machine.along_iff] at met ⊢
    intro front line back middle split reached
    refine ⟨met front line back middle split reached, ordered line ?_⟩
    rw [split]
    simp
  refine Machine.along_invariant Within ?_ within both ran
  intro middle line next kept condition taken
  rcases lineStep_cases readJson middle line with ⟨read, reads, moves⟩ | ⟨_, stays⟩
  · rw [moves] at taken
    cases taken
    rw [LineReached, reported, reads] at condition
    exact (progress_within_iff kept condition.2).mpr condition.1
  · rw [stays next taken]
    exact kept

/-- For lines whose numbers are in order and whose totals are not huge, the layers are listed once, none
is ahead of its total and the percentage is at most 100, in every state on the way, just when no line
that reports a current of 0 comes with a total below the current of its layer. -/
theorem pull_percentage_iff (id : Nat) (spec : PullSpec) (lines : List Bytes)
    (ordered : ∀ line ∈ lines, (reported readJson line).1 ≤ (reported readJson line).2)
    (small : weight (fun line => (reported readJson line).2) lines < 2 ^ 57) :
    (∀ (front : List Bytes) (state : JobState), front <+: lines →
      run (lineStep readJson) (Job.new id spec).state front = some state → Percentage state) ↔
    Along (lineStep readJson) (LineReached readJson) (Job.new id spec).state lines := by
  constructor
  · intro sound
    rw [Machine.along_iff]
    intro front line back middle split reached
    have before := sound front middle ⟨line :: back, split.symm⟩ reached
    rcases lineStep_cases readJson middle line with ⟨read, reads, moves⟩ | ⟨other, _⟩
    · have onward : run (lineStep readJson) (Job.new id spec).state (front ++ [line]) =
          some (middle.progress read) := Machine.run_snoc reached moves
      have after := sound (front ++ [line]) _ ⟨back, by rw [split, List.append_assoc]; rfl⟩ onward
      have inOrder := ordered line (by rw [split]; simp)
      rw [reported, reads] at inOrder
      rw [LineReached, reads]
      exact (progress_within_iff before.within inOrder).mp after.within
    · exact lineReached_other readJson middle other
  · intro met front state leads ran
    obtain ⟨back, rfl⟩ := leads
    have inOrder := fun line member => ordered line (List.mem_append_left back member)
    have within : Within state :=
      run_within readJson (by simp [Within, Job.new]) inOrder (Machine.along_append met ran).1 ran
    have empty : Layered (Job.new id spec).state ∧ Bounded (Job.new id spec).state 0 :=
      ⟨⟨rfl, List.nodup_nil⟩, le_rfl, le_rfl⟩
    obtain ⟨layered, bounded⟩ := run_layered readJson empty.1 empty.2 inOrder ran
    rw [Weights.weight_append] at small
    refine ⟨⟨?_, ?_⟩, within, layered.percent_le bounded (by omega) within⟩
    · rw [layered.order]
      exact layered.distinct
    · intro key
      rw [layered.order]

end Lines

def extractingText : String :=
  "\x7b\"id\":\"a\",\"status\":\"Extracting\",\"progressDetail\":\x7b\"current\":0,\"total\":2\x7d\x7d"

def downloadingText : String :=
  "\x7b\"id\":\"a\",\"status\":\"Downloading\",\"progressDetail\":\x7b\"current\":5,\"total\":9\x7d\x7d"

def knowsTwo (text : String) : Option Json :=
  if text = downloadingText then
    some (.object [("id", .string "a"), ("status", .string "Downloading"),
      ("progressDetail", .object [("current", natJson 5), ("total", natJson 9)])])
  else if text = extractingText then
    some (.object [("id", .string "a"), ("status", .string "Extracting"),
      ("progressDetail", .object [("current", natJson 0), ("total", natJson 2)])])
  else none

def downloading : Bytes := utf8Bytes downloadingText ++ [newline]

def extracting : Bytes := utf8Bytes extractingText ++ [newline]

theorem read_downloading : readLine knowsTwo downloading = .progress ⟨some "a", "Downloading", 5, 9⟩ := by
  decide +kernel

theorem read_extracting : readLine knowsTwo extracting = .progress ⟨some "a", "Extracting", 0, 2⟩ := by
  decide +kernel

theorem reported_two :
    reported knowsTwo downloading = (5, 9) ∧ reported knowsTwo extracting = (0, 2) := by
  rw [reported, read_downloading, reported, read_extracting]
  exact ⟨rfl, rfl⟩

theorem pull_percentage_extracting_first :
    run (lineStep knowsTwo) (Job.new 1 redisPull).state [extracting, downloading] = some
        ⟨.pulling, "connecting to docker daemon", none, [("a", ⟨"Downloading", 5, 9⟩)], ["a"]⟩ ∧
      Percentage ⟨.pulling, "connecting to docker daemon", none, [("a", ⟨"Downloading", 5, 9⟩)], ["a"]⟩ := by
  have ran : run (lineStep knowsTwo) (Job.new 1 redisPull).state [extracting, downloading] = some
      ⟨.pulling, "connecting to docker daemon", none, [("a", ⟨"Downloading", 5, 9⟩)], ["a"]⟩ := by
    rw [Machine.run_cons, lineStep_progress knowsTwo _ read_extracting, Option.bind_some,
      Machine.run_cons, lineStep_progress knowsTwo _ read_downloading]
    decide
  have condition : Along (lineStep knowsTwo) (LineReached knowsTwo) (Job.new 1 redisPull).state
      [extracting, downloading] := by
    refine ⟨?_, fun next taken => ⟨?_, fun _ _ => trivial⟩⟩
    · rw [LineReached, read_extracting]
      decide
    · rw [lineStep_progress knowsTwo _ read_extracting] at taken
      cases taken
      rw [LineReached, read_downloading]
      decide
  refine ⟨ran, (pull_percentage_iff knowsTwo 1 redisPull [extracting, downloading] ?_ ?_).mpr condition
    _ _ List.prefix_rfl ran⟩
  · simp [reported_two]
  · rw [← Weights.weight_map Prod.snd (reported knowsTwo), List.map_cons, List.map_cons,
      reported_two.1, reported_two.2]
    decide

def overtaken : JobState :=
  ⟨.pulling, "connecting to docker daemon", none, [("a", ⟨"Extracting", 5, 2⟩)], ["a"]⟩

/-- The second line leaves the 5 of the first one under its own total of 2. -/
theorem late_total_below_current :
    (∀ line ∈ [downloading, extracting], (reported knowsTwo line).1 ≤ (reported knowsTwo line).2) ∧
      weight (fun line => (reported knowsTwo line).2) [downloading, extracting] < 2 ^ 57 ∧
      run (lineStep knowsTwo) (Job.new 1 redisPull).state [downloading, extracting] = some overtaken ∧
      overtaken.percent = 250 ∧ ¬ Percentage overtaken := by
  refine ⟨by simp [reported_two], ?_, ?_, by decide, ?_⟩
  · rw [← Weights.weight_map Prod.snd (reported knowsTwo), List.map_cons, List.map_cons,
      reported_two.1, reported_two.2]
    decide
  · rw [Machine.run_cons, lineStep_progress knowsTwo _ read_downloading, Option.bind_some,
      Machine.run_cons, lineStep_progress knowsTwo _ read_extracting]
    decide
  · intro sound
    have high := sound.percent
    revert high
    decide

end WebProxy.Pulls

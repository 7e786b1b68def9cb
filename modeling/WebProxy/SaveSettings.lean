import Mathlib.Data.List.Nodup
import WebProxy.Library.Machine
import WebProxy.Library.Slots
import WebProxy.Settings

/-! `save_settings`: any number of requests that load, patch and replace one file, each inside the
lock, interleaved in any way. -/

namespace WebProxy.SaveSettings

structure Serde where
  print : Json → String
  parse : String → Option Json

/-- A file holds a text, or bytes that are none. -/
inductive Content where
  | text (text : String)
  | invalid (bytes : List UInt8)
  deriving DecidableEq, Repr

def load (serde : Serde) : Option Content → Settings
  | some (.text text) => Settings.fromJson ((serde.parse text).getD .null)
  | some (.invalid _) => Settings.default
  | none => Settings.default

/-- How a request gets as far as its body: it is refused, it is no PATCH, its body does not arrive
or is no JSON, or it has a value. -/
inductive Received where
  | refused (status : Nat) (text : String)
  | otherMethod
  | noBody
  | notJson
  | json (value : Json)

inductive Stage where
  | entering
  | waiting (body : Json)
  | locked (body : Json)
  | merged (body : Json) (settings : Settings)
  | written (body : Json) (settings : Settings)
  | saved (body : Json) (view : Json)
  | failed (status : Nat) (text : String)
  | abandoned

def Stage.holding : Stage → Bool
  | .locked _ => true
  | .merged _ _ => true
  | .written _ _ => true
  | _ => false

/-- The settings file, its temporary sibling and the requests. `order` is a ghost: the requests that
got the lock, in that order. -/
structure Store where
  file : Option Content
  tmp : Option Content
  holder : Option Nat
  order : List Nat
  requests : List Stage

def start (file tmp : Option Content) : Store := ⟨file, tmp, none, [], []⟩

/-- How `save` gets to its rename: the directory or the temporary file fails, the latter with some
of the text in it, or the text is written. -/
inductive Writing where
  | createFails (error : String)
  | writeFails (error : String) (left : Option Content)
  | done
  deriving DecidableEq, Repr

/-- The steps of the requests. A client may leave while its request waits for the body or the
lock; inside the lock nothing waits. -/
inductive Event where
  | arrive
  | receive (number : Nat) (received : Received)
  | abandon (number : Nat)
  | lock (number : Nat)
  | load (number : Nat)
  | write (number : Nat) (writing : Writing)
  | rename (number : Nat) (failure : Option String)

def Event.number : Event → Option Nat
  | .arrive => none
  | .receive number _ => some number
  | .abandon number => some number
  | .lock number => some number
  | .load number => some number
  | .write number _ => some number
  | .rename number _ => some number

def Store.advance (store : Store) (number : Nat) (stage : Stage) : Store :=
  { store with requests := store.requests.set number stage }

/-- The response goes out and the guard is dropped. -/
def Store.finish (store : Store) (number : Nat) (stage : Stage) : Store :=
  { store.advance number stage with holder := none }

def afterBody : Received → Stage
  | .refused status text => .failed status text
  | .otherMethod => .failed 405 ""
  | .noBody => .failed 400 "invalid body\n"
  | .notJson => .failed 400 "expected json body\n"
  | .json value => .waiting value

structure Paths where
  directory : String
  file : String
  tmp : String

variable (serde : Serde) (paths : Paths)

def Store.merge (store : Store) (number : Nat) (body : Json) : Store :=
  let settings := (load serde store.file).merge (Settings.patchFromBody body)
  match settings.validate with
  | .ok () => store.advance number (.merged body settings)
  | .error text => store.finish number (.failed 400 (text ++ "\n"))

def Store.write (store : Store) (number : Nat) (body : Json) (settings : Settings) :
    Writing → Store
  | .createFails error =>
      store.finish number (.failed 400 ("create " ++ paths.directory ++ ": " ++ error ++ "\n"))
  | .writeFails error left =>
      { store.finish number (.failed 400 ("write " ++ paths.tmp ++ ": " ++ error ++ "\n")) with
        tmp := left }
  | .done =>
      { store.advance number (.written body settings) with
        tmp := some (.text (serde.print settings.toDiskJson)) }

def Store.rename (store : Store) (number : Nat) (body : Json) (settings : Settings) :
    Option String → Store
  | some error =>
      store.finish number
        (.failed 400 ("rename " ++ paths.tmp ++ " -> " ++ paths.file ++ ": " ++ error ++ "\n"))
  | none =>
      { store.finish number (.saved body settings.toJson) with file := store.tmp, tmp := none }

def step (store : Store) : Event → Option Store
  | .arrive => some { store with requests := store.requests ++ [.entering] }
  | .receive number received =>
      match store.requests[number]? with
      | some .entering => some (store.advance number (afterBody received))
      | _ => none
  | .abandon number =>
      match store.requests[number]? with
      | some .entering => some (store.advance number .abandoned)
      | some (.waiting _) => some (store.advance number .abandoned)
      | _ => none
  | .lock number =>
      match store.requests[number]?, store.holder with
      | some (.waiting body), none =>
          some { store.advance number (.locked body) with
            holder := some number, order := store.order ++ [number] }
      | _, _ => none
  | .load number =>
      match store.requests[number]? with
      | some (.locked body) => some (store.merge serde number body)
      | _ => none
  | .write number writing =>
      match store.requests[number]? with
      | some (.merged body settings) => some (store.write serde paths number body settings writing)
      | _ => none
  | .rename number failure =>
      match store.requests[number]? with
      | some (.written body settings) => some (store.rename paths number body settings failure)
      | _ => none

def Stage.early : Stage → Bool
  | .entering => true
  | .waiting _ => true
  | _ => false

def Stage.savedPatch : Stage → Option SettingsPatch
  | .saved body _ => some (Settings.patchFromBody body)
  | _ => none

variable {serde paths}

/-- What a step can do: a new request, a request outside the lock, the lock, and inside of it a
merge, a written temporary file, a failure, or the new file. -/
inductive Move (serde : Serde) (store : Store) : Event → Store → Prop
  | arrive : Move serde store .arrive { store with requests := store.requests ++ [.entering] }
  | early {event : Event} (number : Nat) (old new : Stage) : event.number = some number →
      store.requests[number]? = some old → old.early = true → new.holding = false →
      new.savedPatch = none → Move serde store event (store.advance number new)
  | lock (number : Nat) (body : Json) : store.requests[number]? = some (.waiting body) →
      store.holder = none →
      Move serde store (.lock number) { store.advance number (.locked body) with
        holder := some number, order := store.order ++ [number] }
  | merge (number : Nat) (body : Json) : store.requests[number]? = some (.locked body) →
      Move serde store (.load number) (store.advance number
        (.merged body ((load serde store.file).merge (Settings.patchFromBody body))))
  | write (number : Nat) (body : Json) (settings : Settings) :
      store.requests[number]? = some (.merged body settings) →
      Move serde store (.write number .done) { store.advance number (.written body settings) with
        tmp := some (.text (serde.print settings.toDiskJson)) }
  | fail {event : Event} (number : Nat) (old : Stage) (status : Nat) (text : String)
      (left : Option Content) : event.number = some number →
      store.requests[number]? = some old → old.holding = true →
      Move serde store event { store.finish number (.failed status text) with tmp := left }
  | save (number : Nat) (body : Json) (settings : Settings) :
      store.requests[number]? = some (.written body settings) →
      Move serde store (.rename number none)
        { store.finish number (.saved body settings.toJson) with file := store.tmp, tmp := none }

theorem afterBody_early (received : Received) :
    (afterBody received).holding = false ∧ (afterBody received).savedPatch = none := by
  cases received <;> exact ⟨rfl, rfl⟩

theorem step_cases {store next : Store} {event : Event}
    (taken : step serde paths store event = some next) : Move serde store event next := by
  cases event with
  | arrive =>
      cases taken
      exact .arrive
  | receive number received =>
      rw [step] at taken
      split at taken
      · rename_i held
        cases taken
        exact .early number _ _ rfl held rfl (afterBody_early received).1 (afterBody_early received).2
      · cases taken
  | abandon number =>
      rw [step] at taken
      split at taken
      · rename_i held
        cases taken
        exact .early number _ _ rfl held rfl rfl rfl
      · rename_i body held
        cases taken
        exact .early number _ _ rfl held rfl rfl rfl
      · cases taken
  | lock number =>
      rw [step] at taken
      split at taken
      · rename_i body held free
        cases taken
        exact .lock number body held free
      · cases taken
  | load number =>
      rw [step] at taken
      split at taken
      · rename_i body held
        cases taken
        rw [Store.merge]
        split
        · exact .merge number body held
        · exact .fail number _ 400 _ store.tmp rfl held rfl
      · cases taken
  | write number writing =>
      rw [step] at taken
      split at taken
      · rename_i body settings held
        cases taken
        cases writing with
        | createFails error => exact .fail number _ 400 _ store.tmp rfl held rfl
        | writeFails error left => exact .fail number _ 400 _ left rfl held rfl
        | done => exact .write number body settings held
      · cases taken
  | rename number failure =>
      rw [step] at taken
      split at taken
      · rename_i body settings held
        cases taken
        cases failure with
        | some error => exact .fail number _ 400 _ store.tmp rfl held rfl
        | none => exact .save number body settings held
      · cases taken

def Store.savedPatches (store : Store) : List SettingsPatch :=
  store.order.filterMap (fun number => (store.requests[number]?).bind Stage.savedPatch)

theorem savedPatches_set {requests : List Stage} {number : Nat} {old new : Stage} (order : List Nat)
    (held : requests[number]? = some old) (same : new.savedPatch = old.savedPatch) :
    order.filterMap (fun index => ((requests.set number new)[index]?).bind Stage.savedPatch) =
      order.filterMap (fun index => (requests[index]?).bind Stage.savedPatch) := by
  apply List.filterMap_congr
  intro index _
  by_cases here : index = number
  · subst here
    rw [Slots.get_set_self new held, held, Option.bind_some, Option.bind_some, same]
  · rw [List.getElem?_set_ne (Ne.symm here)]

structure Inv (serde : Serde) (initial : Settings) (store : Store) : Prop where
  inside : ∀ (number : Nat) (stage : Stage), store.requests[number]? = some stage →
    stage.holding = true → store.holder = some number
  last : ∀ number, store.holder = some number → ∃ front, store.order = front ++ [number]
  distinct : store.order.Nodup
  entered : ∀ number ∈ store.order, ∃ stage, store.requests[number]? = some stage ∧
    stage.early = false
  counted : ∀ (number : Nat) (stage : Stage), store.requests[number]? = some stage →
    stage.holding = true ∨ stage.savedPatch ≠ none → number ∈ store.order
  merged : ∀ (number : Nat) (body : Json) (settings : Settings),
    store.requests[number]? = some (.merged body settings) →
    settings = (load serde store.file).merge (Settings.patchFromBody body)
  written : ∀ (number : Nat) (body : Json) (settings : Settings),
    store.requests[number]? = some (.written body settings) →
    settings = (load serde store.file).merge (Settings.patchFromBody body) ∧
      load serde store.tmp = settings
  latest : load serde store.file = initial.latest store.savedPatches
  storable : (load serde store.file).Storable

theorem load_storable (serde : Serde) (file : Option Content) : (load serde file).Storable := by
  have empty : Settings.default.Storable := by
    constructor <;> simp [Settings.default]
  cases file with
  | none => exact empty
  | some content =>
      cases content with
      | text text => exact Settings.fromJson_storable _
      | invalid bytes => exact empty

variable {initial : Settings} {store next : Store}

theorem inv_start (serde : Serde) (file tmp : Option Content) :
    Inv serde (load serde file) (start file tmp) where
  inside := by
    intro number stage held
    cases held
  last := by
    intro number held
    cases held
  distinct := List.nodup_nil
  entered := by
    intro number member
    cases member
  counted := by
    intro number stage held
    cases held
  merged := by
    intro number body settings held
    cases held
  written := by
    intro number body settings held
    cases held
  latest := rfl
  storable := load_storable serde file

theorem Inv.not_ordered (inv : Inv serde initial store) {number : Nat} {stage : Stage}
    (held : store.requests[number]? = some stage) (early : stage.early = true) :
    number ∉ store.order := by
  intro member
  obtain ⟨found, there, late⟩ := inv.entered number member
  rw [held] at there
  cases there
  rw [early] at late
  cases late

theorem Inv.alone (inv : Inv serde initial store) {number other : Nat} {stage found : Stage}
    (held : store.requests[number]? = some stage) (inside : stage.holding = true)
    (there : store.requests[other]? = some found) (also : found.holding = true) : other = number := by
  have first := inv.inside number stage held inside
  have second := inv.inside other found there also
  rw [first] at second
  exact (Option.some.inj second).symm

theorem inv_arrive (inv : Inv serde initial store) :
    Inv serde initial { store with requests := store.requests ++ [.entering] } := by
  have back : ∀ {number : Nat} {stage : Stage},
      (store.requests ++ [Stage.entering])[number]? = some stage →
      store.requests[number]? = some stage ∨ stage = .entering := by
    intro number stage held
    rcases Slots.get_snoc_cases held with kept | ⟨_, same⟩
    · exact Or.inl kept
    · exact Or.inr same
  have same : ({ store with requests := store.requests ++ [.entering] } : Store).savedPatches =
      store.savedPatches := by
    apply List.filterMap_congr
    intro number member
    obtain ⟨stage, held, _⟩ := inv.entered number member
    rw [Slots.get_snoc _ held, held]
  constructor
  · intro number stage held inside
    rcases back held with kept | rfl
    · exact inv.inside number stage kept inside
    · cases inside
  · exact inv.last
  · exact inv.distinct
  · intro number member
    obtain ⟨stage, held, late⟩ := inv.entered number member
    exact ⟨stage, Slots.get_snoc _ held, late⟩
  · intro number stage held counts
    rcases back held with kept | rfl
    · exact inv.counted number stage kept counts
    · rcases counts with inside | saved
      · cases inside
      · exact absurd rfl saved
  · intro number body settings held
    rcases back held with kept | same
    · exact inv.merged number body settings kept
    · cases same
  · intro number body settings held
    rcases back held with kept | same
    · exact inv.written number body settings kept
    · cases same
  · rw [same]
    exact inv.latest
  · exact inv.storable

theorem inv_early (inv : Inv serde initial store) {number : Nat} {old new : Stage}
    (held : store.requests[number]? = some old) (early : old.early = true)
    (outside : new.holding = false) (unsaved : new.savedPatch = none) :
    Inv serde initial (store.advance number new) := by
  have absent := inv.not_ordered held early
  have silent : old.savedPatch = none := by
    cases old <;> first | rfl | cases early
  constructor
  · intro index stage there inside
    have differs : stage ≠ new := by
      rintro rfl
      rw [outside] at inside
      cases inside
    exact inv.inside index stage (Slots.get_set_other there differs).2 inside
  · exact inv.last
  · exact inv.distinct
  · intro index member
    have apart : index ≠ number := by
      rintro rfl
      exact absent member
    obtain ⟨stage, there, late⟩ := inv.entered index member
    exact ⟨stage, (List.getElem?_set_ne (Ne.symm apart)).trans there, late⟩
  · intro index stage there counts
    have differs : stage ≠ new := by
      rintro rfl
      rcases counts with inside | saved
      · rw [outside] at inside
        cases inside
      · exact saved unsaved
    exact inv.counted index stage (Slots.get_set_other there differs).2 counts
  · intro index body settings there
    have differs : Stage.merged body settings ≠ new := by
      rintro rfl
      cases outside
    exact inv.merged index body settings (Slots.get_set_other there differs).2
  · intro index body settings there
    have differs : Stage.written body settings ≠ new := by
      rintro rfl
      cases outside
    exact inv.written index body settings (Slots.get_set_other there differs).2
  · have same := savedPatches_set store.order held (unsaved.trans silent.symm)
    exact inv.latest.trans (congrArg initial.latest same.symm)
  · exact inv.storable

theorem inv_lock (inv : Inv serde initial store) {number : Nat} {body : Json}
    (held : store.requests[number]? = some (.waiting body)) (free : store.holder = none) :
    Inv serde initial { store.advance number (.locked body) with
      holder := some number, order := store.order ++ [number] } := by
  have absent := inv.not_ordered held rfl
  have nobody : ∀ {index : Nat} {stage : Stage}, store.requests[index]? = some stage →
      stage.holding = true → False := by
    intro index stage there inside
    have holder := inv.inside index stage there inside
    rw [free] at holder
    cases holder
  constructor
  · intro index stage there inside
    rcases Slots.get_set_cases there with ⟨rfl, _⟩ | ⟨_, kept⟩
    · rfl
    · exact (nobody kept inside).elim
  · intro index holder
    cases holder
    exact ⟨store.order, rfl⟩
  · rw [List.nodup_append]
    refine ⟨inv.distinct, List.nodup_singleton _, ?_⟩
    intro first member second last same
    rw [List.mem_singleton.mp last] at same
    exact absent (same ▸ member)
  · intro index member
    rcases List.mem_append.mp member with earlier | last
    · have apart : index ≠ number := by
        rintro rfl
        exact absent earlier
      obtain ⟨stage, there, late⟩ := inv.entered index earlier
      exact ⟨stage, (List.getElem?_set_ne (Ne.symm apart)).trans there, late⟩
    · rw [List.mem_singleton.mp last]
      exact ⟨.locked body, Slots.get_set_self _ held, rfl⟩
  · intro index stage there counts
    rcases Slots.get_set_cases there with ⟨rfl, _⟩ | ⟨_, kept⟩
    · exact List.mem_append_right _ List.mem_cons_self
    · exact List.mem_append_left _ (inv.counted index stage kept counts)
  · intro index merging settings there
    exact (nobody (Slots.get_set_other there (by simp)).2 rfl).elim
  · intro index merging settings there
    exact (nobody (Slots.get_set_other there (by simp)).2 rfl).elim
  · have same := savedPatches_set store.order held
      (show (Stage.locked body).savedPatch = (Stage.waiting body).savedPatch from rfl)
    have last : (store.requests.set number (.locked body))[number]? = some (.locked body) :=
      Slots.get_set_self _ held
    apply inv.latest.trans (congrArg initial.latest _)
    change store.savedPatches = (store.order ++ [number]).filterMap (fun index =>
      ((store.requests.set number (.locked body))[index]?).bind Stage.savedPatch)
    rw [List.filterMap_append, same, List.filterMap_cons, last]
    exact (List.append_nil _).symm
  · exact inv.storable

/-- What the holder's own steps keep: they change its slot, and the file only with the answer. -/
theorem Inv.others (inv : Inv serde initial store) {number : Nat} {old new : Stage}
    (held : store.requests[number]? = some old) (inside : old.holding = true) {index : Nat}
    {found : Stage} (there : (store.requests.set number new)[index]? = some found)
    (also : found.holding = true) : index = number ∧ found = new := by
  rcases Slots.get_set_cases there with same | ⟨apart, kept⟩
  · exact same
  · exact absurd (inv.alone held inside kept also) apart

theorem Inv.entered_set (inv : Inv serde initial store) {number : Nat} {old new : Stage}
    (held : store.requests[number]? = some old) (late : new.early = false) :
    ∀ index ∈ store.order, ∃ stage, (store.requests.set number new)[index]? = some stage ∧
      stage.early = false := by
  intro index member
  exact Slots.set_keeps held (fun _ => late) (inv.entered index member)

theorem Inv.counted_set (inv : Inv serde initial store) {number : Nat} {old new : Stage}
    (held : store.requests[number]? = some old) (inside : old.holding = true) :
    ∀ (index : Nat) (stage : Stage), (store.requests.set number new)[index]? = some stage →
      stage.holding = true ∨ stage.savedPatch ≠ none → index ∈ store.order := by
  intro index stage there counts
  rcases Slots.get_set_cases there with ⟨rfl, _⟩ | ⟨_, kept⟩
  · exact inv.counted index old held (Or.inl inside)
  · exact inv.counted index stage kept counts

theorem early_of_holding {stage : Stage} (inside : stage.holding = true) : stage.early = false := by
  cases stage <;> first | rfl | cases inside

theorem savedPatch_of_holding {stage : Stage} (inside : stage.holding = true) :
    stage.savedPatch = none := by
  cases stage <;> first | rfl | cases inside

theorem inv_inside (inv : Inv serde initial store) {number : Nat} {old new : Stage}
    (tmp : Option Content) (held : store.requests[number]? = some old) (inside : old.holding = true)
    (stays : new.holding = true)
    (merged : ∀ body settings, new = .merged body settings →
      settings = (load serde store.file).merge (Settings.patchFromBody body))
    (written : ∀ body settings, new = .written body settings →
      settings = (load serde store.file).merge (Settings.patchFromBody body) ∧
        load serde tmp = settings) :
    Inv serde initial { store.advance number new with tmp := tmp } := by
  constructor
  · intro index stage there also
    rw [(inv.others held inside there also).1]
    exact inv.inside number old held inside
  · exact inv.last
  · exact inv.distinct
  · exact inv.entered_set held (early_of_holding stays)
  · exact inv.counted_set held inside
  · intro index body settings there
    exact merged body settings (inv.others held inside there rfl).2.symm
  · intro index body settings there
    exact written body settings (inv.others held inside there rfl).2.symm
  · have same := savedPatches_set store.order held
      ((savedPatch_of_holding stays).trans (savedPatch_of_holding inside).symm)
    exact inv.latest.trans (congrArg initial.latest same.symm)
  · exact inv.storable

theorem inv_leave (inv : Inv serde initial store) {number : Nat} {old new : Stage}
    (file tmp : Option Content) (held : store.requests[number]? = some old)
    (inside : old.holding = true) (outside : new.holding = false) (late : new.early = false)
    (latest : load serde file = initial.latest (store.order.filterMap
      (fun index => ((store.requests.set number new)[index]?).bind Stage.savedPatch))) :
    Inv serde initial { store.finish number new with file := file, tmp := tmp } := by
  have nobody : ∀ {index : Nat} {found : Stage},
      (store.requests.set number new)[index]? = some found → found.holding = true → False := by
    intro index found there also
    rw [(inv.others held inside there also).2, outside] at also
    cases also
  constructor
  · intro index stage there also
    exact (nobody there also).elim
  · intro index holder
    cases holder
  · exact inv.distinct
  · exact inv.entered_set held late
  · exact inv.counted_set held inside
  · intro index body settings there
    exact (nobody there rfl).elim
  · intro index body settings there
    exact (nobody there rfl).elim
  · exact latest
  · exact load_storable serde file

theorem inv_merge (inv : Inv serde initial store) {number : Nat} {body : Json}
    (held : store.requests[number]? = some (.locked body)) :
    Inv serde initial (store.advance number
      (.merged body ((load serde store.file).merge (Settings.patchFromBody body)))) := by
  apply inv_inside inv store.tmp held rfl rfl
  · intro other settings same
    cases same
    rfl
  · intro other settings same
    cases same

/-- The text that is written is read back as the settings. -/
def Faithful (serde : Serde) (store : Store) : Event → Prop
  | .write number _ => ∀ (body : Json) (settings : Settings),
      store.requests[number]? = some (.merged body settings) →
      serde.parse (serde.print settings.toDiskJson) = some settings.toDiskJson
  | _ => True

theorem inv_write (inv : Inv serde initial store) {number : Nat} {body : Json} {settings : Settings}
    (held : store.requests[number]? = some (.merged body settings))
    (faithful : serde.parse (serde.print settings.toDiskJson) = some settings.toDiskJson) :
    Inv serde initial { store.advance number (.written body settings) with
      tmp := some (.text (serde.print settings.toDiskJson)) } := by
  have chosen := inv.merged number body settings held
  have storable : settings.Storable := by
    rw [chosen]
    exact Settings.merge_storable inv.storable body
  apply inv_inside inv _ held rfl rfl
  · intro other found same
    cases same
  · intro other found same
    cases same
    refine ⟨chosen, ?_⟩
    rw [load, faithful, Option.getD_some, Settings.fromJson_toDiskJson storable]

theorem inv_fail (inv : Inv serde initial store) {number : Nat} {old : Stage} {status : Nat}
    {text : String} {left : Option Content} (held : store.requests[number]? = some old)
    (inside : old.holding = true) :
    Inv serde initial { store.finish number (.failed status text) with tmp := left } := by
  apply inv_leave inv store.file left held inside rfl rfl
  have same := savedPatches_set store.order held
    (show (Stage.failed status text).savedPatch = old.savedPatch from
      (savedPatch_of_holding inside).symm)
  exact inv.latest.trans (congrArg initial.latest same.symm)

theorem savedPatches_save (inv : Inv serde initial store) {number : Nat} {body view : Json}
    {old : Stage} (held : store.requests[number]? = some old) (inside : old.holding = true) :
    store.order.filterMap (fun index =>
        ((store.requests.set number (.saved body view))[index]?).bind Stage.savedPatch) =
      store.savedPatches ++ [Settings.patchFromBody body] := by
  obtain ⟨front, order⟩ := inv.last number (inv.inside number old held inside)
  have apart : number ∉ front := by
    have distinct := inv.distinct
    rw [order, List.nodup_append] at distinct
    intro member
    exact distinct.2.2 number member number List.mem_cons_self rfl
  have earlier : front.filterMap (fun index =>
      ((store.requests.set number (.saved body view))[index]?).bind Stage.savedPatch) =
      front.filterMap (fun index => (store.requests[index]?).bind Stage.savedPatch) := by
    apply List.filterMap_congr
    intro index member
    have other : number ≠ index := by
      rintro rfl
      exact apart member
    rw [List.getElem?_set_ne other]
  rw [Store.savedPatches, order, List.filterMap_append, List.filterMap_append, earlier]
  have before : [number].filterMap (fun index => (store.requests[index]?).bind Stage.savedPatch) =
      [] := by
    simp [held, savedPatch_of_holding inside]
  have after : [number].filterMap (fun index =>
      ((store.requests.set number (.saved body view))[index]?).bind Stage.savedPatch) =
      [Settings.patchFromBody body] := by
    rw [List.filterMap_cons, Slots.get_set_self _ held]
    rfl
  rw [before, after, List.append_nil]

theorem inv_save (inv : Inv serde initial store) {number : Nat} {body : Json} {settings : Settings}
    (held : store.requests[number]? = some (.written body settings)) :
    Inv serde initial { store.finish number (.saved body settings.toJson) with
      file := store.tmp, tmp := none } := by
  obtain ⟨chosen, stored⟩ := inv.written number body settings held
  apply inv_leave inv store.tmp none held rfl rfl rfl
  calc load serde store.tmp = settings := stored
    _ = (initial.latest store.savedPatches).merge (Settings.patchFromBody body) := by
      rw [chosen, inv.latest]
    _ = initial.latest (store.savedPatches ++ [Settings.patchFromBody body]) :=
      (Settings.latest_snoc ..).symm
    _ = _ := congrArg initial.latest (savedPatches_save inv held rfl).symm

theorem inv_step {event : Event} (inv : Inv serde initial store)
    (faithful : Faithful serde store event) (taken : step serde paths store event = some next) :
    Inv serde initial next := by
  cases step_cases taken with
  | arrive => exact inv_arrive inv
  | early number old new _ held early outside unsaved => exact inv_early inv held early outside unsaved
  | lock number body held free => exact inv_lock inv held free
  | merge number body held => exact inv_merge inv held
  | write number body settings held => exact inv_write inv held (faithful body settings held)
  | fail number old status text left _ held inside => exact inv_fail inv held inside
  | save number body settings held => exact inv_save inv held

theorem saved_step {event : Event} {number : Nat} {body view : Json}
    (saved : store.requests[number]? = some (.saved body view))
    (taken : step serde paths store event = some next) :
    next.requests[number]? = some (.saved body view) := by
  have elsewhere : ∀ {index : Nat} {old : Stage} (new : Stage),
      store.requests[index]? = some old → (old.early = true ∨ old.holding = true) →
      (store.requests.set index new)[number]? = some (.saved body view) := by
    intro index old new held unfinished
    have apart : index ≠ number := by
      rintro rfl
      rw [saved] at held
      cases held
      rcases unfinished with early | inside
      · cases early
      · cases inside
    exact (List.getElem?_set_ne apart).trans saved
  cases step_cases taken with
  | arrive => exact Slots.get_snoc _ saved
  | early index old new _ held early _ _ => exact elsewhere new held (Or.inl early)
  | lock index other held free => exact elsewhere _ held (Or.inl rfl)
  | merge index other held => exact elsewhere _ held (Or.inr rfl)
  | write index other settings held => exact elsewhere _ held (Or.inr rfl)
  | fail index old status text left _ held inside => exact elsewhere _ held (Or.inr inside)
  | save index other settings held => exact elsewhere _ held (Or.inr rfl)

theorem step_file {event : Event} (taken : step serde paths store event = some next) :
    next.file = store.file ∨ ∃ number body view, event.number = some number ∧
      next.requests[number]? = some (.saved body view) := by
  cases step_cases taken with
  | save number body settings held =>
      exact Or.inr ⟨number, body, settings.toJson, rfl, Slots.get_set_self _ held⟩
  | _ => exact Or.inl rfl

/-- What answers a request with an error. -/
def Fails (serde : Serde) (store : Store) : Event → Prop
  | .receive _ received => ∀ value, received ≠ .json value
  | .load number => ∃ body, store.requests[number]? = some (.locked body) ∧
      ((load serde store.file).merge (Settings.patchFromBody body)).validate ≠ .ok ()
  | .write _ writing => writing ≠ .done
  | .rename _ failure => failure ≠ none
  | _ => False

theorem afterBody_failed {received : Received} {status : Nat} {text : String}
    (failed : Stage.failed status text = afterBody received) : ∀ value, received ≠ .json value := by
  intro value same
  rw [same] at failed
  cases failed

theorem merge_failed {number index status : Nat} {body : Json} {text : String}
    (held : store.requests[number]? = some (.locked body))
    (failed : (store.merge serde number body).requests[index]? = some (.failed status text)) :
    store.requests[index]? = some (.failed status text) ∨
      index = number ∧ Fails serde store (.load number) := by
  rw [Store.merge] at failed
  split at failed
  · exact Or.inl (Slots.get_set_other failed (by simp)).2
  · rename_i refused
    rcases Slots.get_set_cases failed with ⟨here, _⟩ | ⟨_, kept⟩
    · refine Or.inr ⟨here, body, held, ?_⟩
      rw [refused]
      simp
    · exact Or.inl kept

theorem failed_step {event : Event} {number status : Nat} {text : String}
    (taken : step serde paths store event = some next)
    (failed : next.requests[number]? = some (.failed status text)) :
    store.requests[number]? = some (.failed status text) ∨
      event.number = some number ∧ Fails serde store event := by
  cases event with
  | arrive =>
      cases taken
      rcases Slots.get_snoc_cases failed with kept | ⟨_, same⟩
      · exact Or.inl kept
      · cases same
  | receive index received =>
      rw [step] at taken
      split at taken
      · cases taken
        rcases Slots.get_set_cases failed with ⟨rfl, same⟩ | ⟨_, kept⟩
        · exact Or.inr ⟨rfl, afterBody_failed same⟩
        · exact Or.inl kept
      · cases taken
  | abandon index =>
      rw [step] at taken
      split at taken
      · cases taken
        exact Or.inl (Slots.get_set_other failed (by simp)).2
      · cases taken
        exact Or.inl (Slots.get_set_other failed (by simp)).2
      · cases taken
  | lock index =>
      rw [step] at taken
      split at taken
      · cases taken
        exact Or.inl (Slots.get_set_other failed (by simp)).2
      · cases taken
  | load index =>
      rw [step] at taken
      split at taken
      · rename_i body held
        cases taken
        rcases merge_failed held failed with kept | ⟨here, fails⟩
        · exact Or.inl kept
        · exact Or.inr ⟨congrArg some here.symm, fails⟩
      · cases taken
  | write index writing =>
      rw [step] at taken
      split at taken
      · cases taken
        cases writing with
        | done => exact Or.inl (Slots.get_set_other failed (by simp)).2
        | createFails error =>
            rcases Slots.get_set_cases failed with ⟨rfl, _⟩ | ⟨_, kept⟩
            · exact Or.inr ⟨rfl, by simp [Fails]⟩
            · exact Or.inl kept
        | writeFails error left =>
            rcases Slots.get_set_cases failed with ⟨rfl, _⟩ | ⟨_, kept⟩
            · exact Or.inr ⟨rfl, by simp [Fails]⟩
            · exact Or.inl kept
      · cases taken
  | rename index failure =>
      rw [step] at taken
      split at taken
      · cases taken
        cases failure with
        | none => exact Or.inl (Slots.get_set_other failed (by simp)).2
        | some error =>
            rcases Slots.get_set_cases failed with ⟨rfl, _⟩ | ⟨_, kept⟩
            · exact Or.inr ⟨rfl, by simp [Fails]⟩
            · exact Or.inl kept
      · cases taken

theorem failed_because {start : Store} {events : List Event} {final : Store} {number status : Nat}
    {text : String} (ran : Machine.run (step serde paths) start events = some final)
    (fresh : start.requests = [])
    (failed : final.requests[number]? = some (.failed status text)) :
    ∃ front event back middle, events = front ++ event :: back ∧
      Machine.run (step serde paths) start front = some middle ∧ event.number = some number ∧
      Fails serde middle event := by
  induction events using List.reverseRecOn generalizing final with
  | nil =>
      rw [Machine.run_nil] at ran
      cases ran
      rw [fresh] at failed
      cases failed
  | append_singleton earlier event ih =>
      obtain ⟨middle, reached, taken⟩ := Machine.run_snoc_some ran
      rcases failed_step taken failed with before | ⟨own, fails⟩
      · obtain ⟨front, cause, back, found, split, rest⟩ := ih reached before
        refine ⟨front, cause, back ++ [event], found, ?_, rest⟩
        rw [split, List.append_assoc, List.cons_append]
      · exact ⟨earlier, event, [], middle, rfl, reached, own, fails⟩

theorem rename_saves (inv : Inv serde initial store) {number : Nat}
    (taken : step serde paths store (.rename number none) = some next) :
    ∃ body settings, settings = (load serde store.file).merge (Settings.patchFromBody body) ∧
      load serde next.file = settings ∧
      next.requests[number]? = some (.saved body settings.toJson) := by
  rw [step] at taken
  split at taken
  · rename_i body settings held
    cases taken
    obtain ⟨chosen, stored⟩ := inv.written number body settings held
    exact ⟨body, settings, chosen, stored, Slots.get_set_self _ held⟩
  · cases taken

theorem saves_alone {number : Nat} {body : Json}
    (held : store.requests[number]? = some (.waiting body)) (free : store.holder = none)
    (valid : ((load serde store.file).merge (Settings.patchFromBody body)).validate = .ok ()) :
    ∃ next, Machine.run (step serde paths) store
        [.lock number, .load number, .write number .done, .rename number none] = some next ∧
      next.requests[number]? = some
        (.saved body ((load serde store.file).merge (Settings.patchFromBody body)).toJson) ∧
      next.file = some (.text (serde.print
        ((load serde store.file).merge (Settings.patchFromBody body)).toDiskJson)) := by
  let settings := (load serde store.file).merge (Settings.patchFromBody body)
  let locked : Store := { store.advance number (.locked body) with
    holder := some number, order := store.order ++ [number] }
  let merged : Store := locked.advance number (.merged body settings)
  let written : Store := { merged.advance number (.written body settings) with
    tmp := some (.text (serde.print settings.toDiskJson)) }
  have first : step serde paths store (.lock number) = some locked := by
    rw [step, held, free]
  have here : locked.requests[number]? = some (.locked body) := Slots.get_set_self _ held
  have second : step serde paths locked (.load number) = some merged := by
    have passed : ((load serde locked.file).merge (Settings.patchFromBody body)).validate = .ok () := valid
    rw [step, here]
    change some (locked.merge serde number body) = some merged
    rw [Store.merge, passed]
    rfl
  have there : merged.requests[number]? = some (.merged body settings) := Slots.get_set_self _ here
  have third : step serde paths merged (.write number .done) = some written := by
    rw [step, there]
    rfl
  have last : written.requests[number]? = some (.written body settings) := Slots.get_set_self _ there
  have fourth : step serde paths written (.rename number none) = some
      { written.finish number (.saved body settings.toJson) with file := written.tmp, tmp := none } := by
    rw [step, last]
    rfl
  refine ⟨{ written.finish number (.saved body settings.toJson) with file := written.tmp, tmp := none },
    ?_, Slots.get_set_self _ last, rfl⟩
  rw [Machine.run_cons, first, Option.bind_some, Machine.run_cons, second, Option.bind_some,
    Machine.run_cons, third, Option.bind_some, Machine.run_cons, fourth, Option.bind_some, Machine.run_nil]

/-- After every interleaving the file has, for each field, the value of the last successful patch
that has the field, in the order of the lock, or the first one; a request answered with an error
has not changed the file; what is stored reads back as it is; a rename that succeeds puts the
patch of its request into the file, which is answered with the settings as they are then; every
error comes from a step that failed; and a request that finds the lock free and whose merged
settings are valid gets its answer. -/
theorem settings_patches_kept (serde : Serde) (paths : Paths) (file tmp : Option Content)
    (events : List Event) (final : Store)
    (ran : Machine.run (step serde paths) (start file tmp) events = some final)
    (faithful : Machine.Along (step serde paths) (Faithful serde) (start file tmp) events) :
    load serde final.file = (load serde file).latest final.savedPatches ∧
      (∀ (number : Nat) (body view : Json), final.requests[number]? = some (.saved body view) →
        number ∈ final.order) ∧
      (∀ (front back : List Event) (event : Event) (middle next : Store) (number status : Nat)
        (text : String), events = front ++ event :: back →
        Machine.run (step serde paths) (start file tmp) front = some middle →
        step serde paths middle event = some next → event.number = some number →
        final.requests[number]? = some (.failed status text) → next.file = middle.file) ∧
      Settings.fromJson (load serde final.file).toDiskJson = load serde final.file ∧
      (∀ (front back : List Event) (middle next : Store) (number : Nat),
        events = front ++ .rename number none :: back →
        Machine.run (step serde paths) (start file tmp) front = some middle →
        step serde paths middle (.rename number none) = some next →
        ∃ body settings, settings = (load serde middle.file).merge (Settings.patchFromBody body) ∧
          load serde next.file = settings ∧
          final.requests[number]? = some (.saved body settings.toJson)) ∧
      (∀ (number status : Nat) (text : String),
        final.requests[number]? = some (.failed status text) →
        ∃ front event back middle, events = front ++ event :: back ∧
          Machine.run (step serde paths) (start file tmp) front = some middle ∧
          event.number = some number ∧ Fails serde middle event) ∧
      (∀ (number : Nat) (body : Json), final.requests[number]? = some (.waiting body) →
        final.holder = none →
        ((load serde final.file).merge (Settings.patchFromBody body)).validate = .ok () →
        ∃ next, Machine.run (step serde paths) final
            [.lock number, .load number, .write number .done, .rename number none] = some next ∧
          next.requests[number]? = some
            (.saved body ((load serde final.file).merge (Settings.patchFromBody body)).toJson) ∧
          next.file = some (.text (serde.print
            ((load serde final.file).merge (Settings.patchFromBody body)).toDiskJson))) := by
  have kept : ∀ {front : List Event} {middle : Store},
      Machine.Along (step serde paths) (Faithful serde) (start file tmp) front →
      Machine.run (step serde paths) (start file tmp) front = some middle →
      Inv serde (load serde file) middle := by
    intro front middle along reached
    exact Machine.along_invariant (Inv serde (load serde file))
      (fun _ _ _ inv faithful taken => inv_step inv faithful taken) (inv_start serde file tmp)
      along reached
  have lasts : ∀ {number : Nat} {body view : Json} {back : List Event} {next : Store},
      next.requests[number]? = some (.saved body view) →
      Machine.run (step serde paths) next back = some final →
      final.requests[number]? = some (.saved body view) := by
    intro number body view back next saved rest
    exact Machine.run_invariant (fun store => store.requests[number]? = some (.saved body view))
      (fun _ _ _ saved taken => saved_step saved taken) saved rest
  have inv := kept faithful ran
  refine ⟨inv.latest, ?_, ?_, Settings.fromJson_toDiskJson inv.storable, ?_, ?_, ?_⟩
  · intro number body view saved
    exact inv.counted number _ saved (Or.inr (by simp [Stage.savedPatch]))
  · intro front back event middle next number status text split reached taken own failed
    rcases step_file taken with same | ⟨index, body, view, also, saved⟩
    · exact same
    · rw [own] at also
      cases also
      rw [split] at ran
      obtain ⟨after, takenAgain, rest⟩ := Machine.run_split ran reached
      rw [taken] at takenAgain
      cases takenAgain
      rw [lasts saved rest] at failed
      cases failed
  · intro front back middle next number split reached taken
    rw [split] at ran faithful
    obtain ⟨after, takenAgain, rest⟩ := Machine.run_split ran reached
    rw [taken] at takenAgain
    cases takenAgain
    obtain ⟨body, settings, chosen, stored, saved⟩ :=
      rename_saves (kept (Machine.along_append faithful reached).1 reached) taken
    exact ⟨body, settings, chosen, stored, lasts saved rest⟩
  · intro number status text failed
    exact failed_because ran rfl failed
  · intro number body held free valid
    exact saves_alone held free valid

def sampleSettings : Settings := { Settings.default with domain := some "new.example" }

def sampleText : String :=
  "\x7b\"accel_domain\":null,\"accel_port\":null,\"cf_account_id\":null,\"cf_token\":null," ++
    "\"cf_zone_id\":null,\"domain\":\"new.example\",\"lan_ip\":null\x7d"

def sampleSerde : Serde where
  print _ := sampleText
  parse text := if text = sampleText then some sampleSettings.toDiskJson else none

def samplePaths : Paths := ⟨"/data", "/data/settings.json", "/data/settings.json.tmp"⟩

def sampleEvents : List Event :=
  [.arrive, .arrive, .receive 0 (.json (.object [("domain", .string " new.example ")])),
    .receive 1 (.json (.object [("domain", .string "-bad")])), .lock 1, .load 1, .lock 0, .load 0,
    .write 0 .done, .rename 0 none]

def writesSample (store : Store) : Event → Bool
  | .write number _ =>
      match store.requests[number]? with
      | some (.merged _ settings) => settings = sampleSettings
      | _ => true
  | _ => true

theorem faithful_of_writesSample {store : Store} {event : Event}
    (sample : writesSample store event = true) : Faithful sampleSerde store event := by
  cases event with
  | write number writing =>
      intro body settings held
      rw [writesSample, held] at sample
      rw [of_decide_eq_true sample]
      simp only [sampleSerde, if_true]
  | _ => trivial

def sampleFront : List Event := sampleEvents.take 9

theorem settings_patches_kept_sample :
    ∃ final, Machine.run (step sampleSerde samplePaths) (start none none) sampleEvents = some final ∧
      load sampleSerde final.file = (load sampleSerde none).latest final.savedPatches ∧
      (load sampleSerde final.file).domain = some "new.example" ∧
      ∃ body, final.requests[0]? = some (.saved body (load sampleSerde final.file).toJson) := by
  have ends : (Machine.run (step sampleSerde samplePaths) (start none none) sampleEvents).map
      (fun final => (load sampleSerde final.file).domain) = some (some "new.example") := by
    decide +kernel
  obtain ⟨final, ran, domain⟩ := Option.map_eq_some_iff.mp ends
  have sample : Machine.Along (step sampleSerde samplePaths)
      (fun store event => writesSample store event = true) (start none none) sampleEvents := by
    decide +kernel
  have faithful := Machine.along_mono (fun _ _ => faithful_of_writesSample) sample
  obtain ⟨latest, _, _, _, saves, _, _⟩ := settings_patches_kept _ _ _ _ _ _ ran faithful
  have split : sampleEvents = sampleFront ++ [.rename 0 none] := rfl
  rw [split] at ran
  obtain ⟨middle, reached, taken⟩ := Machine.run_snoc_some ran
  obtain ⟨body, settings, _, stored, saved⟩ := saves sampleFront [] middle final 0 split reached taken
  rw [← stored] at saved
  rw [← split] at ran
  exact ⟨final, ran, latest, domain, body, saved⟩

end WebProxy.SaveSettings

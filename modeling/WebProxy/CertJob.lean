import WebProxy.Library.Machine
import WebProxy.Library.Slots
import WebProxy.Settings

/-! `issue_cert`: requests that mark the one certificate job as running and the task that ends it,
interleaved in any way. -/

namespace WebProxy.CertJob

inductive Status where
  | running
  | done
  | failed
  deriving DecidableEq, Repr

structure Job where
  status : Status
  message : String
  restarting : Bool
  deriving DecidableEq, Repr

structure Order where
  domain : String
  token : String
  zone : String
  account : String
  imageRef : String
  accelDomain : Option String
  deriving DecidableEq, Repr

/-- Where a request stands. `marked` has set the job to running and has no container id yet;
`issuing` is answered with 202 and has its task running. -/
inductive Stage where
  | entering
  | ready (order : Order)
  | marked (order : Order)
  | issuing (order : Order) (selfId : String)
  | finished
  | answered (status : Nat) (text : String)
  | abandoned
  deriving DecidableEq, Repr

structure State where
  job : Option Job
  requests : List Stage
  deriving DecidableEq, Repr

def start : State := ⟨none, []⟩

/-- The steps. A client may leave while its request waits for the lock or for the container id; a
progress message is lost where `try_lock` fails. -/
inductive Event where
  | arrive
  | refuse (number status : Nat) (text : String)
  | load (number : Nat) (settings : Settings)
  | abandon (number : Nat)
  | check (number : Nat)
  | identify (number : Nat) (hostname : Option String)
  | progress (number : Nat) (message : String) (unlocked : Bool)
  | finish (number : Nat) (result : Except String Unit)

def pullImage (settings : Settings) : String :=
  settings.pullTarget.getD "127.0.0.1:4443" ++ "/neilpang/acme.sh:latest"

def orderOf (settings : Settings) : Option Order :=
  match settings.domain, settings.cfToken, settings.cfZoneId, settings.cfAccountId with
  | some domain, some token, some zone, some account =>
      if token ≠ "" ∧ zone ≠ "" ∧ account ≠ "" then
        some ⟨domain, token, zone, account, pullImage settings, settings.accelDomain⟩
      else none
  | _, _, _, _ => none

def selfContainerId (hostname : Option String) : Option String :=
  (hostname.map Settings.trimText).filter (· ≠ "")

def isRunning (job : Option Job) : Bool := job.any (fun job => job.status = .running)

def Job.preparing : Job := ⟨.running, "准备中…", false⟩

def Job.ended (job : Job) : Except String Unit → Job
  | .ok () => { job with status := .done, restarting := true }
  | .error text => { job with status := .failed, message := text }

def State.advance (state : State) (number : Nat) (stage : Stage) : State :=
  { state with requests := state.requests.set number stage }

def step (state : State) : Event → Option State
  | .arrive => some { state with requests := state.requests ++ [.entering] }
  | .refuse number status text =>
      match state.requests[number]? with
      | some .entering => some (state.advance number (.answered status text))
      | _ => none
  | .load number settings =>
      match state.requests[number]? with
      | some .entering =>
          match orderOf settings with
          | some order => some (state.advance number (.ready order))
          | none =>
              some (state.advance number
                (.answered 400 "需要先在设置里填好 主域名 / Cloudflare Token / Zone ID / Account ID\n"))
      | _ => none
  | .abandon number =>
      match state.requests[number]? with
      | some .entering => some (state.advance number .abandoned)
      | some (.ready _) => some (state.advance number .abandoned)
      | some (.marked _) => some (state.advance number .abandoned)
      | _ => none
  | .check number =>
      match state.requests[number]? with
      | some (.ready order) =>
          if isRunning state.job then
            some (state.advance number (.answered 409 "certificate issuance already running\n"))
          else some { state.advance number (.marked order) with job := some Job.preparing }
      | _ => none
  | .identify number hostname =>
      match state.requests[number]? with
      | some (.marked order) =>
          match selfContainerId hostname with
          | some selfId => some (state.advance number (.issuing order selfId))
          | none => some (state.advance number (.answered 500 "无法确定自身容器 ID\n"))
      | _ => none
  | .progress number message unlocked =>
      match state.requests[number]? with
      | some (.issuing _ _) =>
          if unlocked then
            some { state with job := state.job.map (fun job => { job with message := message }) }
          else some state
      | _ => none
  | .finish number result =>
      match state.requests[number]? with
      | some (.issuing _ _) =>
          some { state.advance number .finished with
            job := state.job.map (fun job => job.ended result) }
      | _ => none

def Stage.owning : Stage → Bool
  | .marked _ => true
  | .issuing _ _ => true
  | _ => false

def owners (state : State) : Nat := state.requests.countP Stage.owning

/-- The job runs only while the request that marked it is processed or its task is not over. -/
def Accounted (state : State) : Prop := isRunning state.job = true → 0 < owners state

/-- A request that has marked the job ends without its task: it cannot tell its container, or its
client leaves before it can. -/
def loses (state : State) : Event → Bool
  | .identify _ hostname => (selfContainerId hostname).isNone
  | .abandon number =>
      match state.requests[number]? with
      | some (.marked _) => true
      | _ => false
  | _ => false

inductive Move (state : State) (event : Event) : State → Prop
  | arrive : loses state event = false →
      Move state event { state with requests := state.requests ++ [.entering] }
  | pass (number : Nat) (old new : Stage) : loses state event = false →
      state.requests[number]? = some old → old.owning = new.owning →
      Move state event (state.advance number new)
  | mark (number : Nat) (order : Order) : loses state event = false →
      state.requests[number]? = some (.ready order) → isRunning state.job = false →
      Move state event { state.advance number (.marked order) with job := some Job.preparing }
  | lose (number : Nat) (old new : Stage) : loses state event = true →
      state.requests[number]? = some old → old.owning = true → new.owning = false →
      Move state event (state.advance number new)
  | report (message : String) : loses state event = false →
      Move state event
        { state with job := state.job.map (fun job => { job with message := message }) }
  | silent : loses state event = false → Move state event state
  | finish (number : Nat) (order : Order) (selfId : String) (result : Except String Unit) :
      loses state event = false → state.requests[number]? = some (.issuing order selfId) →
      Move state event { state.advance number .finished with
        job := state.job.map (fun job => job.ended result) }

theorem step_cases {state next : State} {event : Event} (taken : step state event = some next) :
    Move state event next := by
  cases event with
  | arrive =>
      cases taken
      exact .arrive rfl
  | refuse number status text =>
      rw [step] at taken
      split at taken
      · rename_i held
        cases taken
        exact .pass number _ _ rfl held rfl
      · cases taken
  | load number settings =>
      rw [step] at taken
      split at taken
      · rename_i held
        split at taken
        · cases taken
          exact .pass number _ _ rfl held rfl
        · cases taken
          exact .pass number _ _ rfl held rfl
      · cases taken
  | abandon number =>
      rw [step] at taken
      split at taken
      · rename_i held
        cases taken
        exact .pass number _ _ (by rw [loses, held]) held rfl
      · rename_i order held
        cases taken
        exact .pass number _ _ (by rw [loses, held]) held rfl
      · rename_i order held
        cases taken
        exact .lose number _ _ (by rw [loses, held]) held rfl rfl
      · cases taken
  | check number =>
      rw [step] at taken
      split at taken
      · rename_i order held
        split at taken
        · cases taken
          exact .pass number _ _ rfl held rfl
        · rename_i idle
          cases taken
          exact .mark number order rfl held (Bool.eq_false_iff.mpr idle)
      · cases taken
  | identify number hostname =>
      rw [step] at taken
      split at taken
      · rename_i order held
        split at taken
        · rename_i selfId found
          cases taken
          exact .pass number _ _ (by rw [loses, found]; rfl) held rfl
        · rename_i missing
          cases taken
          exact .lose number _ _ (by rw [loses, missing]; rfl) held rfl rfl
      · cases taken
  | progress number message unlocked =>
      rw [step] at taken
      split at taken
      · split at taken
        · cases taken
          exact .report message rfl
        · cases taken
          exact .silent rfl
      · cases taken
  | finish number result =>
      rw [step] at taken
      split at taken
      · rename_i order selfId held
        cases taken
        exact .finish number order selfId result rfl held
      · cases taken

theorem owners_advance {state : State} {number : Nat} {old : Stage} (new : Stage)
    (held : state.requests[number]? = some old) :
    owners (state.advance number new) + (if old.owning then 1 else 0) =
      owners state + (if new.owning then 1 else 0) :=
  Slots.countP_set Stage.owning new held

theorem owners_lose {state : State} {number : Nat} {old new : Stage}
    (held : state.requests[number]? = some old) (owned : old.owning = true)
    (released : new.owning = false) : owners (state.advance number new) + 1 = owners state := by
  have count := owners_advance new held
  rw [owned, released] at count
  exact count

theorem owners_arrive (state : State) :
    owners { state with requests := state.requests ++ [.entering] } = owners state := by
  simp [owners, Stage.owning]

theorem isRunning_report (job : Option Job) (message : String) :
    isRunning (job.map (fun job => { job with message := message })) = isRunning job := by
  cases job <;> rfl

theorem isRunning_ended (job : Option Job) (result : Except String Unit) :
    isRunning (job.map (fun job => job.ended result)) = false := by
  cases job with
  | none => rfl
  | some job =>
      cases result with
      | ok done => rfl
      | error text => rfl

structure Inv (state : State) : Prop where
  one : owners state ≤ 1
  runs : 0 < owners state → isRunning state.job = true

theorem inv_start : Inv start := ⟨Nat.zero_le 1, fun owned => absurd owned (by decide)⟩

theorem Inv.idle {state : State} (inv : Inv state) (idle : isRunning state.job = false) :
    owners state = 0 := by
  by_contra owned
  have runs := inv.runs (by omega)
  rw [idle] at runs
  cases runs

theorem inv_step {state next : State} {event : Event} (inv : Inv state)
    (taken : step state event = some next) : Inv next := by
  have one := inv.one
  cases step_cases taken with
  | arrive _ =>
      have same := owners_arrive state
      exact ⟨same ▸ one, fun owned => inv.runs (same ▸ owned)⟩
  | pass number old new _ held alike =>
      have count := owners_advance new held
      rw [alike] at count
      have same : owners (state.advance number new) = owners state := by omega
      exact ⟨same ▸ one, fun owned => inv.runs (same ▸ owned)⟩
  | mark number order _ held idle =>
      have count : owners (state.advance number (.marked order)) + 0 = owners state + 1 :=
        owners_advance _ held
      have none_before := inv.idle idle
      refine ⟨?_, fun _ => rfl⟩
      change owners (state.advance number (.marked order)) ≤ 1
      omega
  | lose number old new _ held owned released =>
      have count := owners_lose held owned released
      have fewer : owners (state.advance number new) = 0 := by omega
      exact ⟨by omega, fun more => absurd more (by omega)⟩
  | report message _ =>
      refine ⟨one, ?_⟩
      intro owned
      exact (isRunning_report state.job message).trans (inv.runs owned)
  | silent _ => exact inv
  | finish number order selfId result _ held =>
      have count : owners (state.advance number .finished) + 1 = owners state + 0 :=
        owners_advance _ held
      have fewer : owners (state.advance number .finished) = 0 := by omega
      refine ⟨?_, ?_⟩
      · change owners (state.advance number .finished) ≤ 1
        omega
      · intro more
        change 0 < owners (state.advance number .finished) at more
        omega

theorem accounted_step {state next : State} {event : Event} (accounted : Accounted state)
    (kept : loses state event = false) (taken : step state event = some next) : Accounted next := by
  cases step_cases taken with
  | arrive _ =>
      intro running
      rw [owners_arrive]
      exact accounted running
  | pass number old new _ held alike =>
      intro running
      have count := owners_advance new held
      rw [alike] at count
      have before := accounted running
      omega
  | mark number order _ held _ =>
      intro _
      have count : owners (state.advance number (.marked order)) + 0 = owners state + 1 :=
        owners_advance _ held
      change 0 < owners (state.advance number (.marked order))
      omega
  | lose number old new lost _ _ _ =>
      rw [kept] at lost
      cases lost
  | report message _ =>
      intro running
      exact accounted ((isRunning_report state.job message).symm.trans running)
  | silent _ => exact accounted
  | finish number order selfId result _ _ =>
      intro running
      rw [isRunning_ended] at running
      cases running

theorem lost_step {state next : State} {event : Event} (inv : Inv state)
    (lost : loses state event = true) (taken : step state event = some next) : ¬ Accounted next := by
  cases step_cases taken with
  | lose number old new _ held owned released =>
      intro accounted
      have count := owners_lose held owned released
      have one := inv.one
      have before : isRunning state.job = true := inv.runs (by omega)
      have after := accounted before
      omega
  | _ => simp_all only [Bool.false_eq_true]

/-- In every state of a run the job is accounted for exactly when no step of the run loses the
mark. -/
theorem cert_job_accounted_iff (events : List Event) (final : State)
    (ran : Machine.run step start events = some final) :
    (∀ (front back : List Event) (middle : State), events = front ++ back →
      Machine.run step start front = some middle → Accounted middle) ↔
      Machine.Along step (fun state event => loses state event = false) start events := by
  constructor
  · intro accounted
    apply Machine.along_of_prefixes ran
    intro front event back middle next split reached taken
    have inv := Machine.run_invariant Inv (fun _ _ _ inv taken => inv_step inv taken) inv_start reached
    by_contra lost
    apply lost_step inv (Bool.not_eq_false _ ▸ lost) taken
    apply accounted (front ++ [event]) back next
    · rw [split, List.append_assoc]
      rfl
    · exact Machine.run_snoc reached taken
  · intro kept front back middle split reached
    rw [split] at kept
    have along := (Machine.along_append kept reached).1
    exact Machine.along_invariant Accounted
      (fun _ _ _ accounted kept taken => accounted_step accounted kept taken)
      (fun running => absurd running (by decide)) along reached

def sampleSettings : Settings :=
  { Settings.default with
    domain := some "example.org", cfToken := some "token", cfZoneId := some "zone"
    cfAccountId := some "account" }

def issuedEvents : List Event :=
  [.arrive, .load 0 sampleSettings, .check 0, .identify 0 (some "4f2a\n"), .finish 0 (.error "no image"),
    .arrive, .load 1 sampleSettings, .check 1]

theorem cert_job_accounted_iff_issued :
    ∃ final, Machine.run step start issuedEvents = some final ∧
      (∀ (front back : List Event) (middle : State), issuedEvents = front ++ back →
        Machine.run step start front = some middle → Accounted middle) := by
  have ends : (Machine.run step start issuedEvents).isSome := by decide +kernel
  obtain ⟨final, ran⟩ := Option.isSome_iff_exists.mp ends
  exact ⟨final, ran, (cert_job_accounted_iff issuedEvents final ran).mpr (by decide +kernel)⟩

def lostEvents : List Event :=
  [.arrive, .load 0 sampleSettings, .check 0, .identify 0 none]

/-- The request is answered with 500, nothing is in progress, the job still runs, and the next
request is answered with 409. -/
theorem lost_mark_refuses_later_request :
    (∃ final, Machine.run step start lostEvents = some final ∧ ¬ Accounted final ∧
      final.requests = [.answered 500 "无法确定自身容器 ID\n"]) ∧
      (Machine.run step start
        (lostEvents ++ [.arrive, .load 1 sampleSettings, .check 1])).map (·.requests) =
        some [.answered 500 "无法确定自身容器 ID\n",
          .answered 409 "certificate issuance already running\n"] := by
  refine ⟨⟨⟨some Job.preparing, [.answered 500 "无法确定自身容器 ID\n"]⟩, by decide +kernel, ?_, rfl⟩,
    by decide +kernel⟩
  intro accounted
  exact absurd (accounted rfl) (by decide)

end WebProxy.CertJob

import WebProxy.CertIssue
import WebProxy.DnsRecords

/-! The Cloudflare token is write-only: what the settings answer, and whom the certificate job and the DNS call
show the token to. -/

namespace WebProxy

/-- Two tokens that the settings treat alike: the same, or two that pass the checks. -/
def Interchangeable (first second : Option String) : Prop :=
  first = second ∨ ∃ one two, first = some one ∧ second = some two ∧ one ≠ "" ∧ two ≠ "" ∧
    one.toList.all Settings.visibleAscii = true ∧ two.toList.all Settings.visibleAscii = true

theorem Interchangeable.isSome {first second : Option String} (alike : Interchangeable first second) :
    first.isSome = second.isSome := by
  rcases alike with rfl | ⟨one, two, rfl, rfl, _⟩
  · rfl
  · rfl

theorem Interchangeable.or {first second early late : Option String} (alike : Interchangeable first second)
    (stored : Interchangeable early late) : Interchangeable (first.or early) (second.or late) := by
  rcases alike with rfl | ⟨one, two, rfl, rfl, visible⟩
  · cases first with
    | none => exact stored
    | some token => exact Or.inl rfl
  · exact Or.inr ⟨one, two, rfl, rfl, visible⟩

namespace Settings

structure SameButToken (first second : Settings) : Prop where
  rest : { first with cfToken := none } = { second with cfToken := none }
  token : Interchangeable first.cfToken second.cfToken

structure SameBody (first second : Json) : Prop where
  rest : { patchFromBody first with cfToken := none } = { patchFromBody second with cfToken := none }
  token : Interchangeable (patchFromBody first).cfToken (patchFromBody second).cfToken

variable {first second : Settings}

theorem SameButToken.refl (settings : Settings) : SameButToken settings settings := ⟨rfl, Or.inl rfl⟩

theorem SameButToken.merge (alike : SameButToken first second) {body other : Json} (bodies : SameBody body other) :
    SameButToken (first.merge (patchFromBody body)) (second.merge (patchFromBody other)) := by
  have stored := alike.rest
  have patched := bodies.rest
  simp only [Settings.mk.injEq, SettingsPatch.mk.injEq] at stored patched
  refine ⟨?_, bodies.token.or alike.token⟩
  simp only [Settings.merge, Settings.mk.injEq]
  simp only [stored, patched, and_self]

theorem SameButToken.validate (alike : SameButToken first second) : first.validate = second.validate := by
  have stored := alike.rest
  simp only [Settings.mk.injEq] at stored
  unfold Settings.validate
  rw [stored.1, stored.2.1, stored.2.2.1, stored.2.2.2.1]
  rcases alike.token with same | ⟨one, two, early, late, _, _, visible, also⟩
  · rw [same]
  · simp only [early, late, visible, also, if_true]

theorem SameButToken.toJson (alike : SameButToken first second) : first.toJson = second.toJson := by
  have stored := alike.rest
  simp only [Settings.mk.injEq] at stored
  simp only [Settings.toJson, stored, alike.token.isSome]

theorem SameButToken.pullTarget (alike : SameButToken first second) : first.pullTarget = second.pullTarget := by
  have stored := alike.rest
  simp only [Settings.mk.injEq] at stored
  simp only [Settings.pullTarget, stored]

end Settings

namespace SaveSettings

open Settings (SameButToken SameBody)

/-- What goes back to the client of a request: a view of the settings, or a text. -/
def Stage.reply : Stage → Option (Nat × (Json ⊕ String))
  | .saved _ view => some (200, .inl view)
  | .failed status text => some (status, .inr text)
  | _ => none

def Store.replies (store : Store) : List (Option (Nat × (Json ⊕ String))) := store.requests.map Stage.reply

def settingsView (settings : Settings) (extra : List (String × Json)) : Json :=
  match settings.toJson with
  | .object fields =>
      .object (extra.foldl (fun fields field => fields.filter (fun held => held.1 ≠ field.1) ++ [field]) fields)
  | other => other

def certJobJson (job : CertJob.Job) : Json :=
  .object ([("status", .string (match job.status with
      | .running => "running"
      | .done => "done"
      | .failed => "failed")), ("message", .string job.message)] ++
    if job.restarting then [("restarting", .bool true)] else [])

def getSettings (serde : Serde) (file : Option Content) (certJob : Option CertJob.Job) : Json :=
  let settings := load serde file
  settingsView settings [("pull_target", .string (settings.pullTarget.getD "")),
    ("cert_job", (certJob.map certJobJson).getD (.object [("status", .string "idle")]))]

/-- Two requests that stand at the same place, with bodies and settings that differ in the token only. -/
inductive StageAlike : Stage → Stage → Prop
  | entering : StageAlike .entering .entering
  | waiting {first second : Json} : SameBody first second → StageAlike (.waiting first) (.waiting second)
  | locked {first second : Json} : SameBody first second → StageAlike (.locked first) (.locked second)
  | merged {first second : Json} {one two : Settings} : SameBody first second → SameButToken one two →
      StageAlike (.merged first one) (.merged second two)
  | written {first second : Json} {one two : Settings} : SameBody first second → SameButToken one two →
      StageAlike (.written first one) (.written second two)
  | saved (first second view : Json) : StageAlike (.saved first view) (.saved second view)
  | failed (status : Nat) (text : String) : StageAlike (.failed status text) (.failed status text)
  | abandoned : StageAlike .abandoned .abandoned

theorem StageAlike.reply {first second : Stage} (alike : StageAlike first second) :
    first.reply = second.reply := by
  cases alike <;> rfl

inductive ReceivedAlike : Received → Received → Prop
  | same (received : Received) : ReceivedAlike received received
  | json {first second : Json} : SameBody first second → ReceivedAlike (.json first) (.json second)

inductive EventAlike : Event → Event → Prop
  | same (event : Event) : EventAlike event event
  | receive (number : Nat) {first second : Received} : ReceivedAlike first second →
      EventAlike (.receive number first) (.receive number second)
  | writeFails (number : Nat) (error : String) (left other : Option Content) :
      EventAlike (.write number (.writeFails error left)) (.write number (.writeFails error other))

structure StoreAlike (serde : Serde) (first second : Store) : Prop where
  file : SameButToken (load serde first.file) (load serde second.file)
  holder : first.holder = second.holder
  requests : List.Forall₂ StageAlike first.requests second.requests

variable {serde : Serde} {paths : Paths} {first second next : Store}

theorem StoreAlike.stage (alike : StoreAlike serde first second) {number : Nat} {stage : Stage}
    (held : first.requests[number]? = some stage) :
    ∃ other, second.requests[number]? = some other ∧ StageAlike stage other := by
  obtain ⟨inside, got⟩ := List.getElem?_eq_some_iff.mp held
  have within : number < second.requests.length := alike.requests.length_eq ▸ inside
  have same := (List.forall₂_iff_get.mp alike.requests).2 number inside within
  rw [List.get_eq_getElem, got] at same
  exact ⟨_, List.getElem?_eq_some_iff.mpr ⟨within, rfl⟩, same⟩

theorem StoreAlike.advance (alike : StoreAlike serde first second) (number : Nat) {stage other : Stage}
    (stages : StageAlike stage other) :
    StoreAlike serde (first.advance number stage) (second.advance number other) :=
  ⟨alike.file, alike.holder, Slots.forall₂_set alike.requests stages number⟩

theorem StoreAlike.finish (alike : StoreAlike serde first second) (number : Nat) {stage other : Stage}
    (stages : StageAlike stage other) :
    StoreAlike serde (first.finish number stage) (second.finish number other) :=
  ⟨alike.file, rfl, Slots.forall₂_set alike.requests stages number⟩

theorem afterBody_alike {received other : Received} (alike : ReceivedAlike received other) :
    StageAlike (afterBody received) (afterBody other) := by
  cases alike with
  | same =>
      cases received with
      | refused status text => exact .failed status text
      | otherMethod => exact .failed 405 ""
      | noBody => exact .failed 400 "invalid body\n"
      | notJson => exact .failed 400 "expected json body\n"
      | json value => exact .waiting ⟨rfl, Or.inl rfl⟩
  | json bodies => exact .waiting bodies

theorem merge_alike (alike : StoreAlike serde first second) (number : Nat) {body other : Json}
    (bodies : SameBody body other) :
    StoreAlike serde (first.merge serde number body) (second.merge serde number other) := by
  have merged := alike.file.merge bodies
  have checks := merged.validate
  unfold Store.merge
  dsimp only
  rw [← checks]
  cases ((load serde first.file).merge (Settings.patchFromBody body)).validate with
  | ok passed => exact alike.advance number (.merged bodies merged)
  | error text => exact alike.finish number (.failed 400 _)

variable {initial start : Settings}

theorem arrive_alike (alike : StoreAlike serde first second) :
    StoreAlike serde { first with requests := first.requests ++ [.entering] }
      { second with requests := second.requests ++ [.entering] } :=
  ⟨alike.file, alike.holder, List.rel_append alike.requests (.cons .entering .nil)⟩

/-- A write: where it fails, what it leaves is not looked at again before it is written anew. -/
theorem write_alike (alike : StoreAlike serde first second) (number : Nat) {body other : Json}
    {settings changed : Settings} (bodies : SameBody body other) (same : SameButToken settings changed)
    {writing another : Writing} (writings : EventAlike (.write number writing) (.write number another)) :
    StoreAlike serde (first.write serde paths number body settings writing)
      (second.write serde paths number other changed another) := by
  have failed : ∀ (text : String) (left right : Option Content),
      StoreAlike serde { first.finish number (.failed 400 text) with tmp := left }
        { second.finish number (.failed 400 text) with tmp := right } := by
    intro text left right
    exact ⟨alike.file, rfl, Slots.forall₂_set alike.requests (.failed 400 text) number⟩
  cases writings with
  | same =>
      cases writing with
      | createFails error => exact alike.finish number (.failed 400 _)
      | writeFails error left => exact failed _ left left
      | done => exact ⟨alike.file, alike.holder, Slots.forall₂_set alike.requests (.written bodies same) number⟩
  | writeFails _ error left right => exact failed _ left right

theorem rename_alike (inv : Inv serde initial first) (also : Inv serde start second)
    (alike : StoreAlike serde first second) {number : Nat} {body other : Json} {settings changed : Settings}
    (same : SameButToken settings changed) (held : first.requests[number]? = some (.written body settings))
    (beside : second.requests[number]? = some (.written other changed)) (failure : Option String) :
    StoreAlike serde (first.rename paths number body settings failure)
      (second.rename paths number other changed failure) := by
  cases failure with
  | some error => exact alike.finish number (.failed 400 _)
  | none =>
      have early := (inv.written number body settings held).2
      have late := (also.written number other changed beside).2
      refine ⟨?_, rfl, Slots.forall₂_set alike.requests ?_ number⟩
      · change SameButToken (load serde first.tmp) (load serde second.tmp)
        rw [early, late]
        exact same
      · rw [same.toJson]
        exact .saved body other changed.toJson

theorem alike_step (inv : Inv serde initial first) (also : Inv serde start second)
    (alike : StoreAlike serde first second) {event other : Event} (events : EventAlike event other)
    (taken : step serde paths first event = some next) :
    ∃ after, step serde paths second other = some after ∧ StoreAlike serde next after := by
  cases event with
  | arrive =>
      cases events
      cases taken
      exact ⟨_, rfl, arrive_alike alike⟩
  | receive number received =>
      rw [step] at taken
      split at taken
      · rename_i held
        cases taken
        obtain ⟨stage, beside, stages⟩ := alike.stage held
        cases stages
        cases events with
        | same => exact ⟨_, by rw [step, beside], alike.advance number (afterBody_alike (.same received))⟩
        | receive _ both => exact ⟨_, by rw [step, beside], alike.advance number (afterBody_alike both)⟩
      · cases taken
  | abandon number =>
      cases events
      rw [step] at taken
      split at taken
      · rename_i held
        cases taken
        obtain ⟨stage, beside, stages⟩ := alike.stage held
        cases stages
        exact ⟨_, by rw [step, beside], alike.advance number .abandoned⟩
      · rename_i body held
        cases taken
        obtain ⟨stage, beside, stages⟩ := alike.stage held
        cases stages
        exact ⟨_, by rw [step, beside], alike.advance number .abandoned⟩
      · cases taken
  | lock number =>
      cases events
      rw [step] at taken
      split at taken
      · rename_i body held free
        cases taken
        obtain ⟨stage, beside, stages⟩ := alike.stage held
        cases stages with
        | @waiting _ changed bodies =>
            refine ⟨{ second.advance number (.locked changed) with
              holder := some number, order := second.order ++ [number] }, ?_, alike.file, rfl, ?_⟩
            · rw [step, beside, ← alike.holder, free]
            · exact Slots.forall₂_set alike.requests (.locked bodies) number
      · cases taken
  | load number =>
      cases events
      rw [step] at taken
      split at taken
      · rename_i body held
        cases taken
        obtain ⟨stage, beside, stages⟩ := alike.stage held
        cases stages with
        | locked bodies => exact ⟨_, by rw [step, beside], merge_alike alike number bodies⟩
      · cases taken
  | write number writing =>
      rw [step] at taken
      split at taken
      · rename_i body settings held
        cases taken
        obtain ⟨stage, beside, stages⟩ := alike.stage held
        cases stages with
        | merged bodies same =>
            cases events with
            | same => exact ⟨_, by rw [step, beside], write_alike alike number bodies same (.same _)⟩
            | writeFails _ error left right =>
                exact ⟨_, by rw [step, beside], write_alike alike number bodies same (.writeFails _ _ _ _)⟩
      · cases taken
  | rename number failure =>
      cases events
      rw [step] at taken
      split at taken
      · rename_i body settings held
        cases taken
        obtain ⟨stage, beside, stages⟩ := alike.stage held
        cases stages with
        | written bodies same =>
            exact ⟨_, by rw [step, beside], rename_alike inv also alike same held beside failure⟩
      · cases taken

theorem alike_run {events others : List Event} {final : Store} (inv : Inv serde initial first)
    (also : Inv serde start second) (alike : StoreAlike serde first second)
    (both : List.Forall₂ EventAlike events others)
    (faithful : Machine.Along (step serde paths) (Faithful serde) first events)
    (likewise : Machine.Along (step serde paths) (Faithful serde) second others)
    (ran : Machine.run (step serde paths) first events = some final) :
    ∃ after, Machine.run (step serde paths) second others = some after ∧ StoreAlike serde final after := by
  induction both generalizing first second with
  | nil =>
      cases ran
      exact ⟨second, rfl, alike⟩
  | cons same _ ih =>
      obtain ⟨next, taken, rest⟩ := Machine.run_cons_some ran
      obtain ⟨after, beside, stores⟩ := alike_step inv also alike same taken
      obtain ⟨last, reached, ended⟩ := ih (inv_step inv faithful.1 taken) (inv_step also likewise.1 beside) stores
        (faithful.2 next taken) (likewise.2 after beside) rest
      exact ⟨last, by rw [Machine.run_cons, beside, Option.bind_some, reached], ended⟩

theorem StoreAlike.replies (alike : StoreAlike serde first second) : first.replies = second.replies := by
  have same : ∀ {front back : List Stage}, List.Forall₂ StageAlike front back →
      front.map Stage.reply = back.map Stage.reply := by
    intro front back both
    induction both with
    | nil => rfl
    | cons head _ ih => rw [List.map_cons, List.map_cons, head.reply, ih]
  exact same alike.requests

theorem getSettings_alike {file other : Option Content} (same : SameButToken (load serde file) (load serde other))
    (certJob : Option CertJob.Job) : getSettings serde file certJob = getSettings serde other certJob := by
  simp only [getSettings, settingsView, same.pullTarget, same.toJson]

/-- Whatever token is stored and whatever tokens are sent, as long as they pass the checks: every answer to a
PATCH and every view of the settings is the same. -/
theorem settings_hide_token (serde : Serde) (paths : Paths) (file other tmp spare : Option Content)
    (stored : SameButToken (load serde file) (load serde other)) (events others : List Event)
    (sent : List.Forall₂ EventAlike events others)
    (faithful : Machine.Along (step serde paths) (Faithful serde) (SaveSettings.start file tmp) events)
    (likewise : Machine.Along (step serde paths) (Faithful serde) (SaveSettings.start other spare) others)
    (final : Store) (ran : Machine.run (step serde paths) (SaveSettings.start file tmp) events = some final) :
    ∃ last, Machine.run (step serde paths) (SaveSettings.start other spare) others = some last ∧
      last.replies = final.replies ∧
      ∀ certJob, getSettings serde last.file certJob = getSettings serde final.file certJob := by
  obtain ⟨last, reached, alike⟩ := alike_run (inv_start serde file tmp) (inv_start serde other spare)
    ⟨stored, rfl, .nil⟩ sent faithful likewise ran
  refine ⟨last, reached, alike.replies.symm, ?_⟩
  intro certJob
  exact (getSettings_alike alike.file certJob).symm

def tokenSettings (token : String) : Settings := { Settings.default with cfToken := some token }

def alphaText : String :=
  "\x7b\"accel_domain\":null,\"accel_port\":null,\"cf_account_id\":null,\"cf_token\":\"alpha\"," ++
    "\"cf_zone_id\":null,\"domain\":null,\"lan_ip\":null\x7d"

def betaText : String :=
  "\x7b\"accel_domain\":null,\"accel_port\":null,\"cf_account_id\":null,\"cf_token\":\"beta\"," ++
    "\"cf_zone_id\":null,\"domain\":null,\"lan_ip\":null\x7d"

def pairSerde : Serde where
  print value := if value.textAt "cf_token" = some "alpha" then alphaText else betaText
  parse text :=
    if text = alphaText then some (tokenSettings "alpha").toDiskJson
    else if text = betaText then some (tokenSettings "beta").toDiskJson
    else none

def tokenEvents (token : String) : List Event :=
  [.arrive, .receive 0 (.json (.object [("cf_token", .string token)])), .lock 0, .load 0, .write 0 .done,
    .rename 0 none]

def writesPair (store : Store) : Event → Bool
  | .write number _ =>
      match store.requests[number]? with
      | some (.merged _ settings) => settings = tokenSettings "alpha" || settings = tokenSettings "beta"
      | _ => true
  | _ => true

theorem faithful_of_writesPair {store : Store} {event : Event} (pair : writesPair store event = true) :
    Faithful pairSerde store event := by
  cases event with
  | write number writing =>
      intro body settings held
      rw [writesPair, held, Bool.or_eq_true, decide_eq_true_eq, decide_eq_true_eq] at pair
      rcases pair with rfl | rfl
      · rfl
      · rfl
  | _ => trivial

/-- A PATCH that stores a token, and one that stores another. -/
theorem settings_hide_token_pair : ∃ final last,
    Machine.run (step pairSerde samplePaths) (SaveSettings.start none none) (tokenEvents "alpha") = some final ∧
      Machine.run (step pairSerde samplePaths) (SaveSettings.start none none) (tokenEvents "beta") = some last ∧
      last.replies = final.replies ∧ (load pairSerde final.file).cfToken = some "alpha" := by
  have ends : (Machine.run (step pairSerde samplePaths) (SaveSettings.start none none)
      (tokenEvents "alpha")).map (fun final => (load pairSerde final.file).cfToken) = some (some "alpha") := by
    decide +kernel
  obtain ⟨final, ran, token⟩ := Option.map_eq_some_iff.mp ends
  have faithful : ∀ token, token = "alpha" ∨ token = "beta" →
      Machine.Along (step pairSerde samplePaths) (Faithful pairSerde) (SaveSettings.start none none)
        (tokenEvents token) := by
    rintro token (rfl | rfl)
    · exact Machine.along_mono (fun _ _ => faithful_of_writesPair) (by decide +kernel)
    · exact Machine.along_mono (fun _ _ => faithful_of_writesPair) (by decide +kernel)
  have bodies : SameBody (.object [("cf_token", .string "alpha")]) (.object [("cf_token", .string "beta")]) :=
    ⟨by decide +kernel, Or.inr ⟨"alpha", "beta", by decide +kernel, by decide +kernel, by decide, by decide,
      by decide, by decide⟩⟩
  have sent : List.Forall₂ EventAlike (tokenEvents "alpha") (tokenEvents "beta") :=
    .cons (.same _) (.cons (.receive 0 (.json bodies)) (.cons (.same _) (.cons (.same _) (.cons (.same _)
      (.cons (.same _) .nil)))))
  obtain ⟨last, reached, replies, _⟩ := settings_hide_token pairSerde samplePaths none none none none
    (SameButToken.refl _) (tokenEvents "alpha") (tokenEvents "beta") sent (faithful _ (Or.inl rfl))
    (faithful _ (Or.inr rfl)) final ran
  exact ⟨final, last, ran, reached, replies, token⟩

end SaveSettings

namespace CertIssue

open CertJob (Order)
open Interaction

def maskText (text : String) : String :=
  if (Text.stripPrefix text "CF_Token=").isSome then "CF_Token=" else text

def maskEnv : Json → Json
  | .object fields =>
      .object (fields.map (fun field =>
        if field.1 = "Env" then ("Env", textsJson ((textsOf field.2).map maskText)) else field))
  | value => value

/-- A request as somebody sees it who does not see the token's value in the environment of a container. -/
def mask : (action : Action) → action.sends → action.sends
  | .daemon, call => { (call : DaemonCall) with body := (DaemonCall.body call).map maskEnv }
  | .progress, message => message
  | .wait, call => call
  | .logs, request => request
  | .makeDir, path => path
  | .copy, paths => paths

def Masked (action : Action) (first second : action.sends) : Prop := mask action first = mask action second

theorem masked_refl (action : Action) (request : action.sends) : Masked action request request := rfl

theorem maskText_token (token : String) : maskText ("CF_Token=" ++ token) = "CF_Token=" := by
  rw [maskText, Text.stripPrefix_append, Option.isSome_some, if_pos rfl]

theorem issuerJson_masked (order : Order) (token source : String) :
    maskEnv (issuerJson order source) = maskEnv (issuerJson { order with token := token } source) := by
  simp [issuerJson, maskEnv, textsOf_textsJson, environment, maskText_token, CertJob.acmeCommand]

theorem issueCertJob_alike (setting : Setting) (order : Order) (token : String) :
    Program.Alike Masked Eq (issueCertJob setting order)
      (issueCertJob setting { order with token := token }) := by
  have same : ∀ {α : Type} (job : Job α), Program.Alike Masked Eq job job :=
    fun job => Program.Alike.refl masked_refl (fun _ => rfl) job
  refine (same (prepare setting order)).andThen fun source => ?_
  refine Program.Alike.andThen ?_ fun id => same _
  refine (same (say _)).andThen fun _ => Program.Alike.andThen (.ask ?_ fun _ => .done rfl) fun _ => same _
  change DaemonCall.mk _ _ (some (maskEnv _)) _ = DaemonCall.mk _ _ (some (maskEnv _)) _
  rw [issuerJson_masked order token source]

end CertIssue

namespace DnsRecords

open Interaction
open SaveSettings (Serde)
open Settings (SameButToken)

def maskCall (call : HttpCall) : HttpCall :=
  { call with headers := call.headers.filter (fun header => header.1 ≠ "Authorization") }

def Masked (_ : Unit) (first second : Request) : Prop := maskCall first.http = maskCall second.http

theorem masked_refl (kind : Unit) (request : Request) : Masked kind request request := rfl

theorem recordLoop_alike (serde : Serde) (zone lanIp token other : String) (left : List String) :
    ∀ created skipped : List String, Program.Alike Masked Eq
      (recordLoop serde zone lanIp token left created skipped)
      (recordLoop serde zone lanIp other left created skipped) := by
  induction left with
  | nil => exact fun _ _ => .done rfl
  | cons name left ih =>
      intro created skipped
      refine .ask (by simp [Masked, maskCall, Request.http, bearer]) fun existing => ?_
      split
      · exact ih created (skipped ++ [name])
      · refine .ask (by simp [Masked, maskCall, Request.http, bearer]) fun record => ?_
        cases record with
        | error error => exact .done rfl
        | ok reply =>
            dsimp only
            split
            · exact ih (created ++ [name]) skipped
            · exact .done rfl

theorem bearer_sent {token : String} (visible : token.toList.all Settings.visibleAscii = true) :
    (Responses.headerValue ("Bearer " ++ token)).isNone = false := by
  have plain : ∀ char ∈ ("Bearer " ++ token).toList, 32 ≤ char.toNat ∧ char.toNat ≤ 126 := by
    intro char member
    rw [String.toList_append, List.mem_append] at member
    rcases member with word | inside
    · have letters : "Bearer ".toList.all (fun letter => 32 ≤ letter.toNat && letter.toNat ≤ 126) = true := by
        decide
      simpa using List.all_eq_true.mp letters char word
    · have seen := List.all_eq_true.mp visible char inside
      simpa [Settings.visibleAscii] using seen
  rw [Responses.headerValue_plain plain]
  rfl

theorem createDnsRecords_alike (serde : Serde) {first second : Settings} (alike : SameButToken first second) :
    Program.Alike Masked Eq (createDnsRecords serde first) (createDnsRecords serde second) := by
  have stored := alike.rest
  simp only [Settings.mk.injEq] at stored
  rcases alike.token with same | ⟨one, two, early, late, _, _, visible, also⟩
  · have equal : createDnsRecords serde first = createDnsRecords serde second := by
      simp only [createDnsRecords, stored, same]
    rw [equal]
    exact Program.Alike.refl masked_refl (fun _ => rfl) _
  · unfold createDnsRecords
    rw [early, late, stored.1, stored.2.2.2.1]
    cases second.domain with
    | none => exact .done rfl
    | some domain =>
        cases second.lanIp with
        | none => exact .done rfl
        | some lanIp =>
            simp only [bearer_sent visible, bearer_sent also, Bool.false_eq_true, if_false]
            refine .ask (by simp [Masked, maskCall, Request.http, bearer]) fun lookup => ?_
            cases lookup with
            | error error => exact .done rfl
            | ok reply =>
                dsimp only
                split
                · exact .done rfl
                · split
                  · exact .done rfl
                  · exact recordLoop_alike serde _ lanIp one two (recordNames domain) [] []

end DnsRecords

section Outward

open Interaction

inductive CertIssue.SpawnAlike (setting : CertIssue.Setting) {κ : Type} :
    Event CertIssue.issuing (Except String Unit) κ → Event CertIssue.issuing (Except String Unit) κ → Prop
  | job (order : CertJob.Order) (token : String) :
      SpawnAlike setting (.spawn (CertIssue.issueCertJob setting order))
        (.spawn (CertIssue.issueCertJob setting { order with token := token }))
  | answer (number : Nat) (choice : κ) : SpawnAlike setting (.answer number choice) (.answer number choice)
  | drop (number : Nat) : SpawnAlike setting (.drop number) (.drop number)

inductive DnsRecords.SpawnAlike (serde : SaveSettings.Serde) {κ : Type} :
    Event DnsRecords.cloudflare DnsRecords.Answer κ → Event DnsRecords.cloudflare DnsRecords.Answer κ → Prop
  | call {first second : Settings} : Settings.SameButToken first second →
      SpawnAlike serde (.spawn (DnsRecords.createDnsRecords serde first))
        (.spawn (DnsRecords.createDnsRecords serde second))
  | answer (number : Nat) (choice : κ) : SpawnAlike serde (.answer number choice) (.answer number choice)
  | drop (number : Nat) : SpawnAlike serde (.drop number) (.drop number)

/-- Surroundings that answer without a look at the environment of a container or at an authorization, and
remember what they like: they end in the same state whatever the tokens are, and so do the jobs and calls. -/
theorem token_shown_to_cloudflare_only {κ σ : Type} (start : σ) :
    (∀ (setting : CertIssue.Setting) (host : Host CertIssue.issuing κ σ),
      (∀ choice action first second state, CertIssue.Masked action first second →
        host choice action first state = host choice action second state) →
      ∀ events others final, List.Forall₂ (CertIssue.SpawnAlike setting) events others →
        Machine.run (step host) ⟨start, []⟩ events = some final →
        ∃ last, Machine.run (step host) ⟨start, []⟩ others = some last ∧ last.state = final.state ∧
          ∀ number, last.result number = final.result number) ∧
    (∀ (serde : SaveSettings.Serde) (host : Host DnsRecords.cloudflare κ σ),
      (∀ choice kind first second state, DnsRecords.Masked kind first second →
        host choice kind first state = host choice kind second state) →
      ∀ events others final, List.Forall₂ (DnsRecords.SpawnAlike serde) events others →
        Machine.run (step host) ⟨start, []⟩ events = some final →
        ∃ last, Machine.run (step host) ⟨start, []⟩ others = some last ∧ last.state = final.state ∧
          ∀ number, last.result number = final.result number) := by
  constructor
  · intro setting host blind events others final both ran
    have alike : List.Forall₂ (Event.Alike CertIssue.Masked Eq) events others := by
      refine both.imp ?_
      intro event other same
      cases same with
      | job order token => exact .spawn (CertIssue.issueCertJob_alike setting order token)
      | answer number choice => exact .answer number choice
      | drop number => exact .drop number
    obtain ⟨last, reached, ended⟩ := alike_run blind ⟨rfl, .nil⟩ alike ran
    exact ⟨last, reached, ended.state.symm, fun number => (ended.result number).symm⟩
  · intro serde host blind events others final both ran
    have alike : List.Forall₂ (Event.Alike DnsRecords.Masked Eq) events others := by
      refine both.imp ?_
      intro event other same
      cases same with
      | call settings => exact .spawn (DnsRecords.createDnsRecords_alike serde settings)
      | answer number choice => exact .answer number choice
      | drop number => exact .drop number
    obtain ⟨last, reached, ended⟩ := alike_run blind ⟨rfl, .nil⟩ alike ran
    exact ⟨last, reached, ended.state.symm, fun number => (ended.result number).symm⟩

def CertIssue.counting : Host CertIssue.issuing CertIssue.Turn Nat := fun turn action _ count =>
  (match action with
    | .progress => ()
    | .daemon => turn.exchange
    | .wait => some turn.exchange
    | .logs => turn.logs
    | .makeDir => .ok ()
    | .copy => .ok (), count + 1)

def DnsRecords.counting : Host DnsRecords.cloudflare String Nat := fun text _ _ count =>
  (.ok ⟨200, "OK", .ok text⟩, count + 1)

/-- A job and a call with other tokens than the ones before. -/
theorem token_shown_to_cloudflare_only_pair :
    (∃ last, Machine.run (step CertIssue.counting) ⟨0, []⟩
      (.spawn (CertIssue.issueCertJob CertIssue.sampleSetting { CertIssue.sampleOrder with token := "other" }) ::
        CertIssue.sampleTurns.map (.answer 0)) = some last ∧ last.state = 16 ∧
          last.result 0 = some (.ok ())) ∧
    ∃ last, Machine.run (step DnsRecords.counting) ⟨0, []⟩
      [.spawn (DnsRecords.createDnsRecords DnsRecords.sampleSerde
          { DnsRecords.sampleSettings with cfToken := some "other" }),
        .answer 0 DnsRecords.emptyText] = some last ∧ last.state = 1 := by
  constructor
  · have ends : (Machine.run (step CertIssue.counting) ⟨0, []⟩ CertIssue.sampleJobEvents).map (fun final =>
        (final.state, (final.result 0).map Except.toOption)) = some (16, some (some ())) := by decide +kernel
    obtain ⟨final, ran, same⟩ := Option.map_eq_some_iff.mp ends
    obtain ⟨last, reached, state, results⟩ := (token_shown_to_cloudflare_only 0).1 CertIssue.sampleSetting
      CertIssue.counting (fun _ action _ _ _ _ => by cases action <;> rfl) CertIssue.sampleJobEvents _ final
      (.cons (.job CertIssue.sampleOrder "other") (List.forall₂_same.mpr (by
        intro event member
        obtain ⟨turn, _, rfl⟩ := List.mem_map.mp member
        exact .answer 0 turn))) ran
    obtain ⟨count, result⟩ := Prod.mk.inj same
    refine ⟨last, reached, state.trans count, ?_⟩
    rw [results]
    cases ended : final.result 0 with
    | none =>
        rw [ended] at result
        cases result
    | some outcome =>
        rw [ended] at result
        cases outcome with
        | ok done => rfl
        | error error => cases result
  · have ends : (Machine.run (step DnsRecords.counting) ⟨0, []⟩
        [.spawn (DnsRecords.createDnsRecords DnsRecords.sampleSerde DnsRecords.sampleSettings),
          .answer 0 DnsRecords.emptyText]).map Server.state = some 1 := by decide +kernel
    obtain ⟨final, ran, count⟩ := Option.map_eq_some_iff.mp ends
    have settings : Settings.SameButToken DnsRecords.sampleSettings
        { DnsRecords.sampleSettings with cfToken := some "other" } :=
      ⟨rfl, Or.inr ⟨"token", "other", rfl, rfl, by decide, by decide, by decide, by decide⟩⟩
    obtain ⟨last, reached, state, _⟩ := (token_shown_to_cloudflare_only 0).2 DnsRecords.sampleSerde
      DnsRecords.counting (fun _ _ _ _ _ _ => rfl) _ _ final
      (.cons (.call settings) (.cons (.answer 0 DnsRecords.emptyText) .nil)) ran
    exact ⟨last, reached, state.trans count⟩

end Outward

end WebProxy

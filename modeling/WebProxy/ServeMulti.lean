import WebProxy.Library.Machine
import WebProxy.Library.Polled
import WebProxy.Library.Slots
import WebProxy.StartPull

/-! `serve_multi` of `main.rs`: the accept loop over several listeners, the first byte that decides
between TLS and plain HTTP, the routers behind the two, and the way out after a signal. -/

namespace WebProxy.ServeMulti

open ByteFile (Bytes)
open Polled (Poll Conserves)
open Redirects (Method authorization)
open Responses (Response utf8)
open StartPull (Request changesState headerText requireMgmtAuth)

inductive Handler where
  | dashboardRedirect
  | dashboard
  | healthz
  | stats
  | metricsHistory
  | downloads
  | startPull
  | startWarm
  | listPulls
  | serveCa
  | getSettings
  | saveSettings
  | issueCert
  | createDnsRecords
  | restartGateway
  | sourcesView
  | getSourcesConfig
  | saveSourcesConfig
  | triggerProbe
  | getLogs
  | clearCache
  | proxy
  | notFoundOnHttp
  deriving DecidableEq, Repr

def Handler.managing : Handler → Bool
  | .startPull | .startWarm | .saveSettings | .issueCert | .createDnsRecords | .restartGateway
  | .saveSourcesConfig | .triggerProbe | .clearCache => true
  | _ => false

inductive Verb where
  | get
  | post
  | put
  | patch
  deriving DecidableEq, Repr

def Verb.accepts : Verb → Method → Bool
  | .get, method => method = .get || method = .head
  | .post, method => method = .post
  | .put, method => method = .other "PUT"
  | .patch, method => method = .other "PATCH"

structure Router where
  routes : List (String × List (Verb × Handler))
  fallback : Handler

def dashboardApp : Router where
  routes :=
    [("/", [(.get, .dashboardRedirect)]), ("/dashboard", [(.get, .dashboard)]),
      ("/healthz", [(.get, .healthz)]), ("/stats", [(.get, .stats)]),
      ("/metrics/history", [(.get, .metricsHistory)]), ("/downloads", [(.get, .downloads)]),
      ("/pulls", [(.get, .listPulls)]), ("/sources", [(.get, .sourcesView)]),
      ("/sources/config", [(.get, .getSourcesConfig), (.put, .saveSourcesConfig)]),
      ("/logs", [(.get, .getLogs)])]
  fallback := .notFoundOnHttp

def fullApp : Router where
  routes :=
    [("/", [(.get, .dashboardRedirect)]), ("/healthz", [(.get, .healthz)]),
      ("/stats", [(.get, .stats)]), ("/metrics/history", [(.get, .metricsHistory)]),
      ("/downloads", [(.get, .downloads)]), ("/pull", [(.post, .startPull)]),
      ("/pull/warm", [(.post, .startWarm)]), ("/pulls", [(.get, .listPulls)]),
      ("/ca.crt", [(.get, .serveCa)]), ("/settings", [(.get, .getSettings), (.patch, .saveSettings)]),
      ("/settings/issue-cert", [(.post, .issueCert)]),
      ("/settings/dns-records", [(.post, .createDnsRecords)]),
      ("/settings/restart", [(.post, .restartGateway)]), ("/sources", [(.get, .sourcesView)]),
      ("/sources/config", [(.get, .getSourcesConfig), (.put, .saveSourcesConfig)]),
      ("/sources/probe", [(.post, .triggerProbe)]), ("/logs", [(.get, .getLogs)]),
      ("/cache/clear", [(.post, .clearCache)]), ("/dashboard", [(.get, .dashboard)])]
  fallback := .proxy

def Router.handler (router : Router) (path : String) (method : Method) : Except Nat Handler :=
  match router.routes.find? (fun route => route.1 = path) with
  | none => .ok router.fallback
  | some (_, verbs) =>
      match verbs.find? (fun entry => entry.1.accepts method) with
      | none => .error 405
      | some (_, handler) => .ok handler

def Router.handlers (router : Router) : List Handler :=
  router.fallback :: router.routes.flatMap (fun route => route.2.map Prod.snd)

inductive Readiness where
  | wait
  | bytes (more : Nat)
  | reset
  deriving DecidableEq, Repr

def socket (unread : Bytes) (capacity : Nat) : Readiness → Poll UInt8 × Bytes
  | .wait => (.pending, unread)
  | .bytes more =>
      (.ready (unread.take (min (more + 1) capacity)), unread.drop (min (more + 1) capacity))
  | .reset => (.failed, unread)

structure Rewind (σ : Type) where
  buffered : Bytes
  inner : σ
  deriving DecidableEq, Repr

def Rewind.new {σ : Type} (first : UInt8) (inner : σ) : Rewind σ := ⟨[first], inner⟩

def Rewind.pollRead {σ ω : Type} (inner : Polled.Reader UInt8 σ ω) : Polled.Reader UInt8 (Rewind σ) ω :=
  fun rewind capacity world =>
    match rewind.buffered with
    | byte :: rest =>
        if capacity = 0 then (.panicked, { rewind with buffered := rest })
        else (.ready [byte], { rewind with buffered := rest })
    | [] =>
        let (poll, next) := inner rewind.inner capacity world
        (poll, { rewind with inner := next })

def Rewind.content {σ : Type} (inner : σ → Bytes) (rewind : Rewind σ) : Bytes :=
  rewind.buffered ++ inner rewind.inner

inductive App where
  | full
  | dashboard
  deriving DecidableEq, Repr

def App.router : App → Router
  | .full => fullApp
  | .dashboard => dashboardApp

/-- A connection task. In `draining` the flag says whether its `drain_deadline` has seen a signal. -/
inductive Phase where
  | sniffing
  | handshaking
  | serving (app : App)
  | draining (app : App) (counting : Bool)
  | closed
  deriving DecidableEq, Repr

/-- `stream` is all the client ever sends, `given` what rustls or hyper has read of it, `secure` says that
the handshake was completed, `cut` that a deadline ended the connection; `joined` is false as long as the
task is in the set. -/
structure Conn where
  phase : Phase
  stream : Bytes
  reader : Rewind Bytes
  given : Bytes
  secure : Bool
  cut : Bool
  joined : Bool
  deriving DecidableEq, Repr

def Conn.new (stream : Bytes) : Conn := ⟨.sniffing, stream, ⟨[], stream⟩, [], false, false, false⟩

structure Config where
  listeners : Nat
  tls : Bool
  mgmtBearer : Option String
  deriving DecidableEq, Repr

def Config.sniffed (config : Config) (first : UInt8) : Phase :=
  if config.tls then
    if first = 0x16 then .handshaking else .serving .dashboard
  else .serving .full

inductive ConnEvent where
  | sniff (readiness : Readiness)
  | read (capacity : Nat) (readiness : Readiness)
  | handshake (succeeds : Bool)
  | finish
  | expire
  deriving DecidableEq, Repr

def Phase.app : Phase → Option App
  | .serving app | .draining app _ => some app
  | _ => none

def Conn.step (config : Config) (conn : Conn) : ConnEvent → Option Conn
  | .sniff readiness =>
      if conn.phase = .sniffing then
        match socket conn.reader.inner 1 readiness with
        | (.pending, _) => some conn
        | (.ready (first :: _), rest) =>
            some { conn with phase := config.sniffed first, reader := Rewind.new first rest }
        | (_, rest) => some { conn with phase := .closed, reader := ⟨[], rest⟩ }
      else none
  | .read capacity readiness =>
      if 0 < capacity ∧ (conn.phase = .handshaking ∨ conn.phase.app.isSome) then
        let (poll, reader) := Rewind.pollRead socket conn.reader capacity readiness
        some { conn with given := conn.given ++ poll.given, reader := reader }
      else none
  | .handshake succeeds =>
      if conn.phase = .handshaking then
        if succeeds then some { conn with phase := .serving .full, secure := true }
        else some { conn with phase := .closed }
      else none
  | .finish => if conn.phase.app.isSome then some { conn with phase := .closed } else none
  | .expire =>
      match conn.phase with
      | .draining _ true => some { conn with phase := .closed, cut := true }
      | _ => none

/-- A signal is seen by the futures that wait for it, once each: by a connection that serves, and then by
the `drain_deadline` that waits for the next one. -/
def Phase.signalled : Phase → Phase
  | .serving app => .draining app false
  | .draining app _ => .draining app true
  | phase => phase

def Conn.signal (conn : Conn) : Conn := { conn with phase := conn.phase.signalled }

def Conn.abort (conn : Conn) : Conn :=
  if conn.phase = .closed then conn else { conn with phase := .closed, cut := true }

inductive Loop where
  | accepting
  | draining (counting : Bool)
  | ended (aborted : Bool)
  deriving DecidableEq, Repr

structure Visit where
  conn : Nat
  handler : Handler
  request : Request
  refusal : Option Response
  deriving DecidableEq, Repr

/-- `armed` are the listeners whose accept is awaited. -/
structure State where
  loop : Loop
  armed : List Nat
  conns : List Conn
  visits : List Visit
  deriving DecidableEq, Repr

def start (config : Config) : State := ⟨.accepting, List.range config.listeners, [], []⟩

inductive Event where
  | accept (listener : Nat) (stream : Option Bytes)
  | conn (pid : Nat) (event : ConnEvent)
  | request (pid : Nat) (path : String) (request : Request)
  | signal
  | join (pid : Nat)
  | drained
  | deadline
  deriving DecidableEq, Repr

def Loop.signalled : Loop → Loop
  | .accepting => .draining false
  | .draining _ => .draining true
  | .ended aborted => .ended aborted

def Config.refuses (config : Config) (handler : Handler) (request : Request) : Option Response :=
  if handler.managing then requireMgmtAuth config.mgmtBearer request else none

/-- An accept that ends is awaited again before its result is looked at. A `join` is a turn of the drain
loop, which makes a new `drain_deadline`. -/
def step (config : Config) (state : State) : Event → Option State
  | .accept listener stream =>
      if state.loop = .accepting ∧ listener ∈ state.armed then
        some
          { state with
            armed := state.armed.erase listener ++ [listener]
            conns := state.conns ++ (stream.map Conn.new).toList }
      else none
  | .conn pid event =>
      (state.conns[pid]?).bind (fun conn =>
        (conn.step config event).map (fun next => { state with conns := state.conns.set pid next }))
  | .request pid path request =>
      ((state.conns[pid]?).bind (fun conn => conn.phase.app)).map (fun app =>
        match app.router.handler path request.method with
        | .ok handler =>
            { state with visits := state.visits ++ [⟨pid, handler, request, config.refuses handler request⟩] }
        | .error _ => state)
  | .signal => some { state with loop := state.loop.signalled, conns := state.conns.map Conn.signal }
  | .join pid =>
      match state.loop, state.conns[pid]? with
      | .draining _, some conn =>
          if conn.phase = .closed ∧ conn.joined = false then
            some
              { state with
                loop := .draining false
                conns := state.conns.set pid { conn with joined := true } }
          else none
      | _, _ => none
  | .drained =>
      match state.loop with
      | .draining _ =>
          if ∀ conn ∈ state.conns, conn.joined = true then some { state with loop := .ended false } else none
      | _ => none
  | .deadline =>
      match state.loop with
      | .draining true => some { state with loop := .ended true, conns := state.conns.map Conn.abort }
      | _ => none

theorem socket_conserves : Conserves socket (fun unread : Bytes => unread) where
  kept := by
    intro unread capacity readiness _
    cases readiness with
    | wait | reset => rfl
    | bytes more => exact (List.take_append_drop _ _).symm
  fits := by
    intro unread capacity readiness _
    cases readiness with
    | wait | reset => exact Nat.zero_le _
    | bytes more => exact (List.length_take_le _ _).trans (min_le_right _ _)
  ends := by
    intro unread capacity readiness room ended
    cases readiness with
    | wait | reset => cases ended
    | bytes more =>
        simp only [socket, Poll.ready.injEq] at ended
        rcases List.take_eq_nil_iff.mp ended with none | empty
        · omega
        · exact empty
  sound := by
    intro unread capacity readiness _
    cases readiness <;> simp [socket]

theorem rewind_conserves {σ ω : Type} {inner : Polled.Reader UInt8 σ ω} {content : σ → Bytes}
    (conserves : Conserves inner content) : Conserves (Rewind.pollRead inner) (Rewind.content content) where
  kept := by
    rintro ⟨buffered, state⟩ capacity world room
    cases buffered with
    | nil => exact conserves.kept state capacity world room
    | cons byte rest => simp [Rewind.pollRead, Rewind.content, Nat.pos_iff_ne_zero.mp room]
  fits := by
    rintro ⟨buffered, state⟩ capacity world room
    cases buffered with
    | nil => exact conserves.fits state capacity world room
    | cons byte rest =>
        simp only [Rewind.pollRead, Nat.pos_iff_ne_zero.mp room, if_false, Polled.given_ready,
          List.length_singleton]
        exact room
  ends := by
    rintro ⟨buffered, state⟩ capacity world room ended
    cases buffered with
    | nil => exact conserves.ends state capacity world room ended
    | cons byte rest => simp [Rewind.pollRead, Nat.pos_iff_ne_zero.mp room] at ended
  sound := by
    rintro ⟨buffered, state⟩ capacity world room
    cases buffered with
    | nil => exact conserves.sound state capacity world room
    | cons byte rest => simp [Rewind.pollRead, Nat.pos_iff_ne_zero.mp room]

def Conn.unread (conn : Conn) : Bytes := conn.reader.content (fun unread => unread)

/-- The stream is split between what was given and what is to come, and the first byte decides who it is
given to. -/
structure Conn.Sound (config : Config) (conn : Conn) : Prop where
  stream : conn.stream = conn.given ++ conn.unread
  sniffing : conn.phase = .sniffing → conn.given = [] ∧ conn.reader.buffered = []
  secure : conn.phase = .handshaking ∨ conn.secure = true → config.tls = true ∧ conn.stream.head? = some 0x16
  full : conn.phase.app = some .full → config.tls = true → conn.secure = true

theorem sound_new (config : Config) (stream : Bytes) : (Conn.new stream).Sound config where
  stream := rfl
  sniffing := fun _ => ⟨rfl, rfl⟩
  secure := fun early => by rcases early with phase | secure <;> contradiction
  full := fun app => by cases app

theorem sniffed_cases (config : Config) (first : UInt8) :
    config.sniffed first = .handshaking ∧ config.tls = true ∧ first = 0x16 ∨
      config.sniffed first = .serving .dashboard ∨ config.sniffed first = .serving .full ∧ config.tls = false := by
  rw [Config.sniffed]
  split
  · rename_i tls
    split
    · rename_i hello
      exact Or.inl ⟨rfl, tls, hello⟩
    · exact Or.inr (Or.inl rfl)
  · rename_i plain
    exact Or.inr (Or.inr ⟨rfl, Bool.not_eq_true _ ▸ plain⟩)

theorem sound_sniff {config : Config} {conn next : Conn} {readiness : Readiness} (sound : conn.Sound config)
    (taken : conn.step config (.sniff readiness) = some next) : next.Sound config := by
  rw [Conn.step] at taken
  split at taken
  · rename_i phase
    obtain ⟨nothing, empty⟩ := sound.sniffing phase
    have insecure : conn.secure = true → config.tls = true ∧ conn.stream.head? = some 0x16 :=
      fun secure => sound.secure (Or.inr secure)
    have whole : conn.stream = conn.reader.inner := by
      rw [sound.stream, nothing, Conn.unread, Rewind.content, empty]
      rfl
    have kept := socket_conserves.kept conn.reader.inner 1 readiness (by decide)
    split at taken
    · cases taken
      exact sound
    · rename_i first more rest polled
      cases taken
      rw [polled] at kept
      have one : more = [] := by
        have bound := socket_conserves.fits conn.reader.inner 1 readiness (by decide)
        rw [polled, Polled.given_ready, List.length_cons] at bound
        exact List.length_eq_zero_iff.mp (by omega)
      subst one
      have stream : conn.stream = first :: rest := whole.trans kept
      rcases sniffed_cases config first with ⟨goes, tls, hello⟩ | goes | ⟨goes, plain⟩
      · refine ⟨?_, fun other => ?_, fun _ => ⟨tls, ?_⟩, fun app => ?_⟩
        · simp only [nothing]
          exact stream
        · simp only [goes, reduceCtorEq] at other
        · simp only [stream, hello, List.head?_cons]
        · simp only [goes, Phase.app, reduceCtorEq] at app
      · refine ⟨?_, fun other => ?_, fun early => ?_, fun app => ?_⟩
        · simp only [nothing]
          exact stream
        · simp only [goes, reduceCtorEq] at other
        · rcases early with other | secure
          · simp only [goes, reduceCtorEq] at other
          · exact insecure secure
        · simp only [goes, Phase.app, Option.some.injEq, reduceCtorEq] at app
      · refine ⟨?_, fun other => ?_, fun early => ?_, fun _ tls => ?_⟩
        · simp only [nothing]
          exact stream
        · simp only [goes, reduceCtorEq] at other
        · rcases early with other | secure
          · simp only [goes, reduceCtorEq] at other
          · exact insecure secure
        · rw [plain] at tls
          cases tls
    · rename_i poll rest pending ready polled
      cases taken
      rw [polled] at kept
      refine ⟨?_, fun other => absurd other (by simp), fun early => ?_, fun app => absurd app (by simp [Phase.app])⟩
      · have given : poll.given = [] := by
          cases poll with
          | ready items =>
              cases items with
              | nil => rfl
              | cons first more => exact absurd rfl (ready first more)
          | pending | failed | panicked => rfl
        rw [given] at kept
        simp only [nothing]
        exact whole.trans kept
      · rcases early with other | secure
        · cases other
        · exact insecure secure
  · cases taken

theorem sound_step {config : Config} {conn next : Conn} {event : ConnEvent} (sound : conn.Sound config)
    (taken : conn.step config event = some next) : next.Sound config := by
  cases event with
  | sniff readiness => exact sound_sniff sound taken
  | read capacity readiness =>
      rw [Conn.step] at taken
      split at taken
      · rename_i allowed
        obtain ⟨room, phase⟩ := allowed
        cases taken
        refine ⟨?_, fun early => ?_, sound.secure, sound.full⟩
        · have kept := (rewind_conserves socket_conserves).kept conn.reader capacity readiness room
          exact (sound.stream.trans (congrArg (conn.given ++ ·) kept)).trans (List.append_assoc _ _ _).symm
        · have sniffing : conn.phase = .sniffing := early
          rw [sniffing] at phase
          rcases phase with other | none
          · cases other
          · cases none
      · cases taken
  | handshake succeeds =>
      rw [Conn.step] at taken
      split at taken
      · rename_i phase
        have hello := sound.secure (Or.inl phase)
        split at taken
        · cases taken
          exact ⟨sound.stream, fun other => absurd other (by simp), fun _ => hello, fun _ _ => rfl⟩
        · cases taken
          exact ⟨sound.stream, fun other => absurd other (by simp), fun _ => hello,
            fun app => absurd app (by simp [Phase.app])⟩
      · cases taken
  | finish =>
      rw [Conn.step] at taken
      split at taken
      · cases taken
        refine ⟨sound.stream, fun other => absurd other (by simp), fun early => ?_,
          fun app => absurd app (by simp [Phase.app])⟩
        exact sound.secure (Or.inr (early.resolve_left (by simp)))
      · cases taken
  | expire =>
      rw [Conn.step] at taken
      split at taken
      · cases taken
        refine ⟨sound.stream, fun other => absurd other (by simp), fun early => ?_,
          fun app => absurd app (by simp [Phase.app])⟩
        exact sound.secure (Or.inr (early.resolve_left (by simp)))
      · cases taken

theorem signalled_app (phase : Phase) : phase.signalled.app = phase.app := by
  cases phase <;> rfl

theorem signalled_eq (phase : Phase) {other : Phase} (early : other.app = none) :
    phase.signalled = other ↔ phase = other := by
  cases phase with
  | serving app | draining app counting =>
      cases other with
      | serving | draining => cases early
      | sniffing | handshaking | closed => simp [Phase.signalled]
  | sniffing | handshaking | closed => rfl

inductive Change (config : Config) (event : Event) (conn : Conn) : Conn → Prop where
  | same : Change config event conn conn
  | own {pid : Nat} {task : ConnEvent} {next : Conn} (is : event = .conn pid task)
      (taken : conn.step config task = some next) : Change config event conn next
  | signal (is : event = .signal) : Change config event conn conn.signal
  | join {pid : Nat} (is : event = .join pid) (closed : conn.phase = .closed) :
      Change config event conn { conn with joined := true }
  | abort (is : event = .deadline) : Change config event conn conn.abort

inductive Move (config : Config) (state : State) : Event → State → Prop where
  | accept {listener : Nat} (stream : Option Bytes) (accepting : state.loop = .accepting)
      (armed : listener ∈ state.armed) :
      Move config state (.accept listener stream)
        { state with
          armed := state.armed.erase listener ++ [listener]
          conns := state.conns ++ (stream.map Conn.new).toList }
  | conn {pid : Nat} {task : ConnEvent} {conn after : Conn} (found : state.conns[pid]? = some conn)
      (taken : conn.step config task = some after) :
      Move config state (.conn pid task) { state with conns := state.conns.set pid after }
  | visit {pid : Nat} {path : String} {request : Request} {conn : Conn} {app : App} {handler : Handler}
      (found : state.conns[pid]? = some conn) (behind : conn.phase.app = some app)
      (routed : app.router.handler path request.method = .ok handler) :
      Move config state (.request pid path request)
        { state with
          visits := state.visits ++ [⟨pid, handler, request, config.refuses handler request⟩] }
  | refuse (pid : Nat) (path : String) (request : Request) : Move config state (.request pid path request) state
  | signal :
      Move config state .signal
        { state with loop := state.loop.signalled, conns := state.conns.map Conn.signal }
  | join {pid : Nat} {conn : Conn} {counting : Bool} (draining : state.loop = .draining counting)
      (found : state.conns[pid]? = some conn) (closed : conn.phase = .closed) :
      Move config state (.join pid)
        { state with loop := .draining false, conns := state.conns.set pid { conn with joined := true } }
  | drained (joined : ∀ conn ∈ state.conns, conn.joined = true) :
      Move config state .drained { state with loop := .ended false }
  | deadline (counting : state.loop = .draining true) :
      Move config state .deadline { state with loop := .ended true, conns := state.conns.map Conn.abort }

theorem step_cases {config : Config} {state next : State} {event : Event}
    (taken : step config state event = some next) : Move config state event next := by
  cases event with
  | accept listener stream =>
      rw [step] at taken
      split at taken <;> cases taken
      rename_i allowed
      exact .accept stream allowed.1 allowed.2
  | conn pid task =>
      obtain ⟨conn, found, moved⟩ := Option.bind_eq_some_iff.mp taken
      obtain ⟨after, advanced, rfl⟩ := Option.map_eq_some_iff.mp moved
      exact .conn found advanced
  | request pid path request =>
      obtain ⟨app, served, rfl⟩ := Option.map_eq_some_iff.mp taken
      obtain ⟨conn, found, behind⟩ := Option.bind_eq_some_iff.mp served
      split
      · rename_i handler routed
        exact .visit found behind routed
      · exact .refuse pid path request
  | signal =>
      cases taken
      exact .signal
  | join pid =>
      rw [step] at taken
      split at taken
      · rename_i counting conn draining found
        split at taken <;> cases taken
        rename_i ended
        exact .join draining found ended.1
      · cases taken
  | drained =>
      rw [step] at taken
      split at taken
      · split at taken <;> cases taken
        rename_i joined
        exact .drained joined
      · cases taken
  | deadline =>
      rw [step] at taken
      split at taken <;> cases taken
      rename_i counting
      exact .deadline counting

theorem conns_step {config : Config} {state next : State} {event : Event} (move : Move config state event next)
    {pid : Nat} {after : Conn} (found : next.conns[pid]? = some after) :
    (∃ conn, state.conns[pid]? = some conn ∧ Change config event conn after) ∨
      state.conns.length ≤ pid ∧ ∃ stream, after = Conn.new stream := by
  cases move with
  | accept stream accepting armed =>
      cases stream with
      | none => exact Or.inl ⟨after, by simpa using found, .same⟩
      | some stream =>
          rcases Slots.get_snoc_cases found with old | ⟨last, new⟩
          · exact Or.inl ⟨after, old, .same⟩
          · exact Or.inr ⟨last.ge, stream, new⟩
  | conn held taken =>
      rcases Slots.get_set_cases found with ⟨rfl, rfl⟩ | ⟨_, old⟩
      · exact Or.inl ⟨_, held, .own rfl taken⟩
      · exact Or.inl ⟨after, old, .same⟩
  | visit | refuse | drained => exact Or.inl ⟨after, found, .same⟩
  | signal =>
      rw [List.getElem?_map] at found
      obtain ⟨conn, held, rfl⟩ := Option.map_eq_some_iff.mp found
      exact Or.inl ⟨conn, held, .signal rfl⟩
  | join draining held closed =>
      rcases Slots.get_set_cases found with ⟨rfl, rfl⟩ | ⟨_, old⟩
      · exact Or.inl ⟨_, held, .join rfl closed⟩
      · exact Or.inl ⟨after, old, .same⟩
  | deadline =>
      rw [List.getElem?_map] at found
      obtain ⟨conn, held, rfl⟩ := Option.map_eq_some_iff.mp found
      exact Or.inl ⟨conn, held, .abort rfl⟩

theorem conns_length {config : Config} {state next : State} {event : Event}
    (move : Move config state event next) : state.conns.length ≤ next.conns.length := by
  cases move with
  | accept => exact (Nat.le_add_right _ _).trans_eq List.length_append.symm
  | conn | join => exact List.length_set.ge
  | visit | refuse | drained => exact le_rfl
  | signal | deadline => exact (List.length_map _).ge

theorem conns_kept {config : Config} {state next : State} {event : Event}
    (move : Move config state event next) {pid : Nat} {conn : Conn}
    (found : state.conns[pid]? = some conn) :
    ∃ after, next.conns[pid]? = some after ∧ Change config event conn after := by
  have inside := Slots.lt_of_get found
  have there := List.getElem?_eq_getElem (inside.trans_le (conns_length move))
  rcases conns_step move there with ⟨before, held, change⟩ | ⟨last, _⟩
  · rw [found, Option.some.injEq] at held
    subst held
    exact ⟨_, there, change⟩
  · exact absurd inside last.not_gt

theorem armed_step {config : Config} {state next : State} {event : Event}
    (move : Move config state event next) : next.armed.Perm state.armed := by
  cases move with
  | accept stream accepting armed =>
      exact (List.perm_append_singleton _ _).trans (List.perm_cons_erase armed).symm
  | conn | visit | refuse | signal | join | drained | deadline => exact List.Perm.refl _

theorem sound_change {config : Config} {event : Event} {conn after : Conn} (sound : conn.Sound config)
    (change : Change config event conn after) : after.Sound config := by
  cases change with
  | same => exact sound
  | own is taken => exact sound_step sound taken
  | signal is =>
      refine ⟨sound.stream, fun early => ?_, fun early => ?_, fun app => ?_⟩
      · exact sound.sniffing ((signalled_eq conn.phase rfl).mp early)
      · exact sound.secure (early.imp_left (signalled_eq conn.phase rfl).mp)
      · exact sound.full ((signalled_app conn.phase).symm.trans app)
  | join is closed => exact ⟨sound.stream, sound.sniffing, sound.secure, sound.full⟩
  | abort is =>
      rw [Conn.abort]
      split
      · exact sound
      · refine ⟨sound.stream, fun other => absurd other (by simp), fun early => ?_,
          fun app => absurd app (by simp [Phase.app])⟩
        exact sound.secure (Or.inr (early.resolve_left (by simp)))

structure Conn.Later (before after : Conn) : Prop where
  stream : after.stream = before.stream
  secure : before.secure = true → after.secure = true

theorem later_change {config : Config} {event : Event} {conn after : Conn}
    (change : Change config event conn after) : conn.Later after := by
  cases change with
  | same | signal | join => exact ⟨rfl, id⟩
  | own is taken =>
      rename_i task
      cases task with
      | sniff readiness =>
          rw [Conn.step] at taken
          split at taken
          · split at taken <;> cases taken <;> exact ⟨rfl, id⟩
          · cases taken
      | read capacity readiness =>
          rw [Conn.step] at taken
          split at taken <;> cases taken
          exact ⟨rfl, id⟩
      | handshake succeeds =>
          rw [Conn.step] at taken
          split at taken
          · split at taken <;> cases taken
            · exact ⟨rfl, fun _ => rfl⟩
            · exact ⟨rfl, id⟩
          · cases taken
      | finish =>
          rw [Conn.step] at taken
          split at taken <;> cases taken
          exact ⟨rfl, id⟩
      | expire =>
          rw [Conn.step] at taken
          split at taken <;> cases taken
          exact ⟨rfl, id⟩
  | abort =>
      rw [Conn.abort]
      split <;> exact ⟨rfl, id⟩

theorem handler_cases {router : Router} {path : String} {method : Method} {handler : Handler}
    (routed : router.handler path method = .ok handler) :
    handler = router.fallback ∨ ∃ verb, (verb, handler) ∈ router.routes.flatMap Prod.snd ∧
      verb.accepts method = true := by
  rw [Router.handler] at routed
  split at routed
  · cases routed
    exact Or.inl rfl
  · rename_i name verbs found
    split at routed
    · cases routed
    · rename_i verb other chosen
      cases routed
      refine Or.inr ⟨verb, List.mem_flatMap.mpr ⟨_, List.mem_of_find?_eq_some found, ?_⟩, ?_⟩
      · exact List.mem_of_find?_eq_some chosen
      · simpa using List.find?_some chosen

theorem mem_handlers {router : Router} {path : String} {method : Method} {handler : Handler}
    (routed : router.handler path method = .ok handler) : handler ∈ router.handlers := by
  rw [Router.handlers]
  rcases handler_cases routed with rfl | ⟨verb, member, _⟩
  · exact List.mem_cons_self
  · obtain ⟨route, there, entry⟩ := List.mem_flatMap.mp member
    exact List.mem_cons_of_mem _ (List.mem_flatMap.mpr ⟨route, there, List.mem_map.mpr ⟨_, entry, rfl⟩⟩)

theorem managing_changes {app : App} {path : String} {method : Method} {handler : Handler}
    (routed : app.router.handler path method = .ok handler) (managing : handler.managing = true) :
    changesState method = true := by
  have table : (∀ entry ∈ app.router.routes.flatMap Prod.snd, entry.2.managing = true → entry.1 ≠ .get) ∧
      app.router.fallback.managing = false := by
    cases app <;> decide
  rcases handler_cases routed with rfl | ⟨verb, member, accepted⟩
  · rw [table.2] at managing
    cases managing
  · have changing := table.1 _ member managing
    cases verb with
    | get => exact absurd rfl changing
    | post | put | patch =>
        rw [Verb.accepts, decide_eq_true_eq] at accepted
        subst accepted
        rfl

def Carries (expected : String) (request : Request) : Prop :=
  utf8 (((headerText request authorization).bind (fun text => Text.stripPrefix text "Bearer ")).getD "") =
    utf8 expected

theorem carries_of_passed {expected : String} {request : Request} (changes : changesState request.method = true)
    (passed : requireMgmtAuth (some expected) request = none) : Carries expected request := by
  rw [requireMgmtAuth, Option.bind_some, if_pos changes] at passed
  apply (StartPull.sameToken_iff _ _).mp
  by_contra other
  rw [if_neg other] at passed
  cases passed

structure Visit.Sound (config : Config) (state : State) (visit : Visit) : Prop where
  refusal : visit.refusal = config.refuses visit.handler visit.request
  changes : visit.handler.managing = true → changesState visit.request.method = true
  conn : ∃ conn, state.conns[visit.conn]? = some conn ∧
    (visit.handler ∈ dashboardApp.handlers ∨ (config.tls = true → conn.secure = true))

theorem visits_step {config : Config} {state next : State} {event : Event}
    (move : Move config state event next) {visit : Visit} (member : visit ∈ next.visits) :
    visit ∈ state.visits ∨ ∃ conn app path, state.conns[visit.conn]? = some conn ∧ conn.phase.app = some app ∧
      app.router.handler path visit.request.method = .ok visit.handler ∧
      visit.refusal = config.refuses visit.handler visit.request := by
  cases move with
  | visit found behind routed =>
      rcases List.mem_append.mp member with old | new
      · exact Or.inl old
      · rw [List.mem_singleton.mp new]
        exact Or.inr ⟨_, _, _, found, behind, routed, rfl⟩
  | accept | conn | refuse | signal | join | drained | deadline => exact Or.inl member

theorem sound_run {config : Config} {events : List Event} {final : State}
    (ran : Machine.run (step config) (start config) events = some final) :
    (∀ conn ∈ final.conns, conn.Sound config) ∧ ∀ visit ∈ final.visits, visit.Sound config final := by
  refine Machine.run_invariant
    (fun state => (∀ conn ∈ state.conns, conn.Sound config) ∧ ∀ visit ∈ state.visits, visit.Sound config state)
    ?_ ⟨fun _ member => absurd member List.not_mem_nil, fun _ member => absurd member List.not_mem_nil⟩ ran
  rintro state event next ⟨conns, visits⟩ taken
  refine ⟨?_, ?_⟩
  · intro conn member
    obtain ⟨pid, found⟩ := List.mem_iff_getElem?.mp member
    rcases conns_step (step_cases taken) found with ⟨before, held, change⟩ | ⟨_, stream, rfl⟩
    · exact sound_change (conns before (List.mem_of_getElem? held)) change
    · exact sound_new config stream
  · intro visit member
    rcases visits_step (step_cases taken) member with old | ⟨conn, app, path, held, behind, routed, refusal⟩
    · obtain ⟨conn, held, open_or_secure⟩ := (visits visit old).conn
      obtain ⟨after, there, change⟩ := conns_kept (step_cases taken) held
      refine ⟨(visits visit old).refusal, (visits visit old).changes, after, there, ?_⟩
      exact open_or_secure.imp_right (fun secure tls => (later_change change).secure (secure tls))
    · obtain ⟨after, there, change⟩ := conns_kept (step_cases taken) held
      refine ⟨refusal, managing_changes routed, after, there, ?_⟩
      cases app with
      | dashboard => exact Or.inl (mem_handlers routed)
      | full =>
          right
          intro tls
          exact (later_change change).secure ((conns conn (List.mem_of_getElem? held)).full behind tls)

def sampleConfig : Config := ⟨2, true, some "secret"⟩

def samplePull : Request := ⟨.post, [(authorization, utf8 "Bearer secret")], none⟩

def sampleEvents : List Event :=
  [.accept 1 (some [0x16, 1, 2]), .accept 1 (some (utf8 "POST /pull")), .conn 0 (.sniff (.bytes 9)),
    .conn 1 (.sniff (.bytes 0)), .conn 0 (.read 64 .wait), .conn 0 (.read 64 (.bytes 0)),
    .conn 0 (.handshake true), .request 0 "/pull" samplePull, .request 1 "/pull" samplePull, .signal,
    .conn 0 .finish, .join 0]

theorem sample_ran : ∃ final, Machine.run (step sampleConfig) (start sampleConfig) sampleEvents = some final ∧
    final.visits = [⟨0, .startPull, samplePull, none⟩, ⟨1, .notFoundOnHttp, samplePull, none⟩] ∧
    final.conns.map Conn.given = [[0x16, 1], []] := by
  have ended : (Machine.run (step sampleConfig) (start sampleConfig) sampleEvents).map
      (fun final => (final.visits, final.conns.map Conn.given)) =
        some ([⟨0, .startPull, samplePull, none⟩, ⟨1, .notFoundOnHttp, samplePull, none⟩],
          [[0x16, 1], []]) := by decide +kernel
  obtain ⟨final, ran, same⟩ := Option.map_eq_some_iff.mp ended
  exact ⟨final, ran, Prod.mk.inj same⟩

/-- Whatever connections come and go: a management handler that goes past its first lines had the token,
where one is set. With a certificate, everything but the panel's own pages, and the list of sources with
them, is behind a handshake on a connection that began with a ClientHello. -/
theorem surface_boundary (config : Config) (events : List Event) (final : State)
    (ran : Machine.run (step config) (start config) events = some final) (visit : Visit)
    (member : visit ∈ final.visits) :
    (visit.refusal = none → visit.handler.managing = true →
      ∀ expected, config.mgmtBearer = some expected → Carries expected visit.request) ∧
    (config.tls = true → visit.handler.managing = true → visit.handler ≠ .saveSourcesConfig →
      ∃ conn, final.conns[visit.conn]? = some conn ∧ conn.secure = true ∧ conn.stream.head? = some 0x16) ∧
    (config.tls = true → visit.handler ∉ dashboardApp.handlers →
      ∃ conn, final.conns[visit.conn]? = some conn ∧ conn.secure = true ∧ conn.stream.head? = some 0x16) := by
  obtain ⟨conns, visits⟩ := sound_run ran
  have sound := visits visit member
  have behind : config.tls = true → visit.handler ∉ dashboardApp.handlers →
      ∃ conn, final.conns[visit.conn]? = some conn ∧ conn.secure = true ∧ conn.stream.head? = some 0x16 := by
    intro tls private_handler
    obtain ⟨conn, held, open_or_secure⟩ := sound.conn
    have secure := open_or_secure.resolve_left private_handler tls
    exact ⟨conn, held, secure, ((conns conn (List.mem_of_getElem? held)).secure (Or.inr secure)).2⟩
  refine ⟨?_, ?_, behind⟩
  · intro passed managing expected bearer
    rw [sound.refusal, Config.refuses, if_pos managing, bearer] at passed
    exact carries_of_passed (sound.changes managing) passed
  · intro tls managing other
    apply behind tls
    have table : ∀ handler ∈ dashboardApp.handlers, handler.managing = true → handler = .saveSourcesConfig := by
      decide
    exact fun shown => other (table visit.handler shown managing)

theorem surface_boundary_pull : ∃ final,
    Machine.run (step sampleConfig) (start sampleConfig) sampleEvents = some final ∧
      Carries "secret" samplePull ∧
      ∃ conn, final.conns[0]? = some conn ∧ conn.secure = true ∧ conn.stream.head? = some 0x16 := by
  obtain ⟨final, ran, visits, _⟩ := sample_ran
  obtain ⟨carries, behind, _⟩ := surface_boundary sampleConfig sampleEvents final ran
    ⟨0, .startPull, samplePull, none⟩ (by simp [visits])
  exact ⟨final, ran, carries rfl rfl "secret" rfl, behind rfl rfl (by decide)⟩

/-- As long as connections are accepted, every listener is waited for, once. And what the layer above a
connection has been given is the beginning of what the client sends, with its first byte, in order: the
rest is still to come. -/
theorem connections_kept (config : Config) (events : List Event) (final : State)
    (ran : Machine.run (step config) (start config) events = some final) :
    final.armed.Perm (List.range config.listeners) ∧
      ∀ conn ∈ final.conns, conn.stream = conn.given ++ conn.unread ∧
        (conn.phase = .handshaking ∨ conn.secure = true → conn.stream.head? = some 0x16) := by
  refine ⟨?_, fun conn member => ?_⟩
  · exact Machine.run_invariant (fun state => state.armed.Perm (List.range config.listeners))
      (fun _ _ _ perm taken => (armed_step (step_cases taken)).trans perm) (List.Perm.refl _) ran
  · have sound := (sound_run ran).1 conn member
    exact ⟨sound.stream, fun secure => (sound.secure secure).2⟩

theorem connections_kept_sample : ∃ final,
    Machine.run (step sampleConfig) (start sampleConfig) sampleEvents = some final ∧
      final.armed.Perm [0, 1] ∧ ∀ conn ∈ final.conns, conn.stream = conn.given ++ conn.unread := by
  obtain ⟨final, ran, _⟩ := sample_ran
  obtain ⟨armed, conns⟩ := connections_kept sampleConfig sampleEvents final ran
  exact ⟨final, ran, armed, fun conn member => (conns conn member).1⟩

def Phase.level : Phase → Nat
  | .draining _ counting => if counting then 2 else 1
  | _ => 0

def Conn.level (conn : Conn) : Nat := if conn.cut then 2 else conn.phase.level

def Loop.level : Loop → Nat
  | .accepting => 0
  | .draining counting => if counting then 2 else 1
  | .ended aborted => if aborted then 2 else 0

def Event.signals (event : Event) : Nat := if event = .signal then 1 else 0

theorem phase_level_signalled (phase : Phase) : phase.signalled.level ≤ phase.level + 1 := by
  cases phase with
  | draining app counting => cases counting <;> simp [Phase.level, Phase.signalled]
  | sniffing | handshaking | serving | closed => simp [Phase.level, Phase.signalled]

theorem level_step {config : Config} {conn after : Conn} {event : ConnEvent}
    (taken : conn.step config event = some after) : after.level ≤ conn.level := by
  have ended : ∀ cut, conn.cut = cut → (if cut then 2 else 0) ≤ conn.level := by
    rintro cut rfl
    rw [Conn.level]
    split
    · exact le_rfl
    · exact Nat.zero_le _
  cases event with
  | sniff readiness =>
      rw [Conn.step] at taken
      split at taken
      · split at taken <;> cases taken
        · exact le_rfl
        · rename_i first more rest polled
          have early : (config.sniffed first).level = 0 := by
            rcases sniffed_cases config first with ⟨goes, _⟩ | goes | ⟨goes, _⟩ <;> rw [goes] <;> rfl
          simp only [Conn.level, early]
          exact ended _ rfl
        · exact ended _ rfl
      · cases taken
  | read capacity readiness =>
      rw [Conn.step] at taken
      split at taken <;> cases taken
      exact le_rfl
  | handshake succeeds =>
      rw [Conn.step] at taken
      split at taken
      · split at taken <;> cases taken <;> exact ended _ rfl
      · cases taken
  | finish =>
      rw [Conn.step] at taken
      split at taken <;> cases taken
      exact ended _ rfl
  | expire =>
      rw [Conn.step] at taken
      split at taken <;> cases taken
      rename_i app counting
      simp only [Conn.level, counting, Phase.level, if_true, ite_self, le_refl]

theorem closed_step {config : Config} {conn after : Conn} {event : ConnEvent}
    (taken : conn.step config event = some after) : conn.phase ≠ .closed ∧ after.joined = conn.joined := by
  cases event with
  | sniff readiness =>
      rw [Conn.step] at taken
      split at taken
      · rename_i phase
        refine ⟨by rw [phase]; simp, ?_⟩
        split at taken <;> cases taken <;> rfl
      · cases taken
  | read capacity readiness =>
      rw [Conn.step] at taken
      split at taken <;> cases taken
      rename_i allowed
      refine ⟨fun closed => ?_, rfl⟩
      rw [closed] at allowed
      rcases allowed.2 with other | none
      · cases other
      · cases none
  | handshake succeeds =>
      rw [Conn.step] at taken
      split at taken
      · rename_i phase
        refine ⟨by rw [phase]; simp, ?_⟩
        split at taken <;> cases taken <;> rfl
      · cases taken
  | finish =>
      rw [Conn.step] at taken
      split at taken <;> cases taken
      rename_i behind
      refine ⟨fun closed => ?_, rfl⟩
      rw [closed] at behind
      cases behind
  | expire =>
      rw [Conn.step] at taken
      split at taken <;> cases taken
      rename_i app counting
      exact ⟨by rw [counting]; simp, rfl⟩

structure Counted (events : List Event) (state : State) : Prop where
  loop : state.loop.level ≤ events.count .signal
  conns : ∀ conn ∈ state.conns, conn.level ≤ events.count .signal
  counting : state.loop = .draining true → ∃ front back,
    events = front ++ .signal :: back ∧ .signal ∈ front ∧ ∀ pid, .join pid ∉ back
  joined : ∀ conn ∈ state.conns, conn.joined = true → conn.phase = .closed
  ended : state.loop = .ended false → ∀ conn ∈ state.conns, conn.joined = true

theorem count_snoc (events : List Event) (event : Event) :
    (events ++ [event]).count .signal = events.count .signal + event.signals := by
  rw [List.count_append, List.count_singleton, Event.signals]
  congr 1
  by_cases same : event = .signal <;> simp [same]

section Counting

variable {config : Config} {front : List Event} {state next : State} {event : Event}

theorem signals_grow (front : List Event) (event : Event) :
    front.count .signal ≤ (front ++ [event]).count .signal :=
  (List.sublist_append_left front [event]).count_le _

theorem counted_conns (counted : Counted front state) (move : Move config state event next) :
    ∀ conn ∈ next.conns, conn.level ≤ (front ++ [event]).count .signal ∧
      (conn.joined = true → conn.phase = .closed) := by
  have more := signals_grow front event
  intro conn member
  obtain ⟨pid, found⟩ := List.mem_iff_getElem?.mp member
  rcases conns_step move found with ⟨before, held, change⟩ | ⟨_, stream, rfl⟩
  · have level := counted.conns before (List.mem_of_getElem? held)
    have closed := counted.joined before (List.mem_of_getElem? held)
    cases change with
    | same => exact ⟨level.trans more, closed⟩
    | own is taken =>
        refine ⟨(level_step taken).trans (level.trans more), fun joined => ?_⟩
        obtain ⟨running, same⟩ := closed_step taken
        exact absurd (closed (same.symm.trans joined)) running
    | signal is =>
        refine ⟨?_, fun joined => (signalled_eq before.phase rfl).mpr (closed joined)⟩
        rw [count_snoc, is]
        have step := phase_level_signalled before.phase
        simp only [Conn.level, Conn.signal, Event.signals, if_true] at level ⊢
        split at level
        · exact le_trans (by simp [*]) (level.trans (Nat.le_add_right _ 1))
        · rename_i whole
          simp only [whole, Bool.false_eq_true, if_false]
          omega
    | join is ended => exact ⟨level.trans more, fun _ => ended⟩
    | abort is =>
        subst is
        cases move with
        | deadline counting =>
            have twice := counted.loop
            rw [counting] at twice
            rw [Conn.abort]
            split
            · rename_i ended
              exact ⟨level.trans more, fun _ => ended⟩
            · exact ⟨le_trans (le_of_eq rfl) (twice.trans more), fun _ => rfl⟩
  · exact ⟨Nat.zero_le _, fun joined => by cases joined⟩

theorem counted_loop (counted : Counted front state) (move : Move config state event next) :
    next.loop.level ≤ (front ++ [event]).count .signal := by
  have more := signals_grow front event
  cases move with
  | accept | conn | visit | refuse => exact counted.loop.trans more
  | signal =>
      rw [count_snoc]
      have level := counted.loop
      cases loop : state.loop with
      | accepting =>
          simp only [Loop.signalled, Loop.level, Event.signals, if_true, Bool.false_eq_true, if_false]
          omega
      | draining counting =>
          rw [loop] at level
          simp only [Loop.signalled, Loop.level, Event.signals, if_true] at level ⊢
          split at level <;> omega
      | ended aborted =>
          rw [loop] at level
          exact level.trans (Nat.le_add_right _ _)
  | join draining found closed =>
      have level := counted.loop
      rw [draining] at level
      refine le_trans ?_ (level.trans more)
      simp only [Loop.level, Bool.false_eq_true, if_false]
      split <;> omega
  | drained => exact Nat.zero_le _
  | deadline counting =>
      have level := counted.loop
      rw [counting] at level
      exact level.trans more

theorem counted_counting (counted : Counted front state) (move : Move config state event next)
    (counting : next.loop = .draining true) : ∃ first back,
      front ++ [event] = first ++ .signal :: back ∧ .signal ∈ first ∧ ∀ pid, .join pid ∉ back := by
  have later : state.loop = .draining true → (∀ pid, event ≠ .join pid) → ∃ first back,
      front ++ [event] = first ++ .signal :: back ∧ .signal ∈ first ∧ ∀ pid, .join pid ∉ back := by
    intro before other
    obtain ⟨first, back, split, early, joins⟩ := counted.counting before
    refine ⟨first, back ++ [event], by rw [split, List.append_assoc, List.cons_append], early, ?_⟩
    intro pid member
    rcases List.mem_append.mp member with old | last
    · exact joins pid old
    · exact other pid (List.mem_singleton.mp last).symm
  cases move with
  | accept | conn | visit | refuse => exact later counting (by simp)
  | signal =>
      refine ⟨front, [], rfl, ?_, fun pid => List.not_mem_nil⟩
      have level := counted.loop
      cases loop : state.loop with
      | accepting => simp [loop, Loop.signalled] at counting
      | ended aborted => simp [loop, Loop.signalled] at counting
      | draining once =>
          rw [loop, Loop.level] at level
          apply List.count_pos_iff.mp
          split at level <;> omega
  | join | drained | deadline => cases counting

theorem counted_ended (counted : Counted front state) (move : Move config state event next)
    (ended : next.loop = .ended false) : ∀ conn ∈ next.conns, conn.joined = true := by
  intro conn member
  cases move with
  | accept stream accepting armed =>
      rw [accepting] at ended
      cases ended
  | conn found taken =>
      have closed := counted.joined _ (List.mem_of_getElem? found)
        (counted.ended ended _ (List.mem_of_getElem? found))
      exact absurd closed (closed_step taken).1
  | visit | refuse => exact counted.ended ended conn member
  | signal =>
      cases loop : state.loop with
      | accepting | draining => simp [loop, Loop.signalled] at ended
      | ended aborted =>
          obtain ⟨before, held, rfl⟩ := List.mem_map.mp member
          exact counted.ended (by simpa [loop, Loop.signalled] using ended) before held
  | join draining found closed => cases ended
  | drained joined => exact joined conn member
  | deadline counting => cases ended

theorem counted_step (counted : Counted front state) (move : Move config state event next) :
    Counted (front ++ [event]) next where
  loop := counted_loop counted move
  conns conn member := (counted_conns counted move conn member).1
  counting := counted_counting counted move
  joined conn member := (counted_conns counted move conn member).2
  ended := counted_ended counted move

end Counting

/-- One signal closes no connection and gives no time limit: the loop then ends only when every connection
has ended by itself. The limit needs a second signal, and begins again with every connection that ends. -/
theorem drain_waits (config : Config) (events : List Event) (final : State)
    (ran : Machine.run (step config) (start config) events = some final) :
    (events.count .signal ≤ 1 → final.loop ≠ .ended true ∧ ∀ conn ∈ final.conns, conn.cut = false) ∧
      (final.loop = .ended false → ∀ conn ∈ final.conns, conn.joined = true ∧ conn.phase = .closed) ∧
      (final.loop = .draining true → ∃ front back,
        events = front ++ .signal :: back ∧ .signal ∈ front ∧ ∀ pid, .join pid ∉ back) := by
  have counted : Counted events final := by
    refine Machine.run_history Counted ⟨le_rfl, ?_, ?_, ?_, ?_⟩
      (fun _ _ _ _ counted taken => counted_step counted (step_cases taken)) ran
    · exact fun _ member => absurd member List.not_mem_nil
    · exact fun counting => by cases counting
    · exact fun _ member => absurd member List.not_mem_nil
    · exact fun ended => by cases ended
  refine ⟨fun once => ⟨fun aborted => ?_, fun conn member => ?_⟩, fun ended conn member => ?_, counted.counting⟩
  · have level := counted.loop
    rw [aborted] at level
    exact absurd (level.trans once) (by decide)
  · have level := counted.conns conn member
    rw [Conn.level] at level
    split at level
    · exact absurd (level.trans once) (by decide)
    · rename_i whole
      exact Bool.not_eq_true _ ▸ whole
  · have joined := counted.ended ended conn member
    exact ⟨joined, counted.joined conn member joined⟩

theorem drain_waits_sample : ∃ final,
    Machine.run (step sampleConfig) (start sampleConfig) sampleEvents = some final ∧
      final.loop ≠ .ended true ∧ ∀ conn ∈ final.conns, conn.cut = false := by
  obtain ⟨final, ran, _⟩ := sample_ran
  exact ⟨final, ran, (drain_waits sampleConfig sampleEvents final ran).1 (by decide +kernel)⟩

end WebProxy.ServeMulti

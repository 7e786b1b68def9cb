import WebProxy.CertNames
import WebProxy.Library.Interaction
import WebProxy.LogFrames
import WebProxy.PullStream

/-! `issue_cert_job` and `docker_api`: what one certificate job asks the Docker daemon and does to the data
volume, and what any run of jobs leaves in the live directory. -/

namespace WebProxy.CertIssue

open ByteFile (Bytes)
open CertJob (Order acmeCommand certNames)
open FetchChunk (isSuccess)
open Interaction
open Pulls (DaemonFailure percentEncodePath)

structure DaemonCall where
  method : String
  path : String
  body : Option Json
  timeoutSecs : Nat

inductive Exchange where
  | failed (failure : DaemonFailure)
  | late
  | unread (cause : String)
  | replied (status : Nat) (reason : String) (body : Option Json)

def dockerApi (socket : String) (call : DaemonCall) : Exchange → Except String Json
  | .failed failure => .error (failure.text socket)
  | .late => .error ("docker api timed out after " ++ toString call.timeoutSecs ++ "s")
  | .unread cause => .error ("read docker api response: " ++ cause)
  | .replied status reason body =>
      let value := body.getD .null
      if isSuccess status then .ok value
      else .error ("docker api HTTP " ++ toString status ++ " " ++ reason ++ ": " ++
        (value.textAt "message").getD "no message")

/-- What a job does outside itself. `wait` is a request with a time limit of its own around it. -/
inductive Action where
  | progress
  | daemon
  | wait
  | logs
  | makeDir
  | copy
  deriving DecidableEq, Repr

def Action.sends : Action → Type
  | .progress => String
  | .daemon => DaemonCall
  | .wait => DaemonCall × Nat
  | .logs => String × Nat
  | .makeDir => String
  | .copy => String × String

def Action.hears : Action → Type
  | .progress => Unit
  | .daemon => Exchange
  | .wait => Option Exchange
  | .logs => Except String Bytes
  | .makeDir => Except String Unit
  | .copy => Except String Unit

def issuing : Interface := ⟨Action, Action.sends, Action.hears⟩

abbrev Job (α : Type) : Type := Program issuing (Except String α)

def say (message : String) : Job Unit := .ask .progress message (fun _ => .done (.ok ()))

/-- The daemon's socket and the container of the gateway, and what `String::from_utf8_lossy` and
`char::is_alphanumeric` do. -/
structure Setting where
  socket : String
  selfId : String
  cacheDir : String
  lossy : Bytes → List Char
  isAlphanumeric : Char → Bool

variable (setting : Setting)

def callDaemon (method path : String) (body : Option Json) (timeoutSecs : Nat) : Job Json :=
  .ask .daemon ⟨method, path, body, timeoutSecs⟩
    (fun exchange => .done (dockerApi setting.socket ⟨method, path, body, timeoutSecs⟩ exchange))

def volumeSource (info : Json) : Except String String :=
  match ((info.get "Mounts").bind Json.asArray).bind
      (fun mounts => mounts.find? (fun mount => mount.textAt "Destination" = some "/data")) with
  | none => .error "gateway /data volume not found"
  | some mount =>
      match mount.textAt "Source" with
      | none => .error "/data mount has no source"
      | some source => .ok source

def prepare (order : Order) : Job String :=
  (say ("拉取 acme.sh 镜像（" ++ order.imageRef ++ "）…")).andThen fun _ =>
  (callDaemon setting "POST" ("/images/create?fromImage=" ++ percentEncodePath order.imageRef ++ "&tag=latest")
    none 900).andThen fun _ =>
  (say "定位数据卷…").andThen fun _ =>
  (callDaemon setting "GET" ("/containers/" ++ setting.selfId ++ "/json") none 30).andThen fun info =>
  match volumeSource info with
  | .error error => .done (.error error)
  | .ok source =>
      .ask .daemon ⟨"DELETE", "/containers/web-proxy-acme?force=true&v=true", none, 30⟩
        (fun _ => .done (.ok source))

def environment (order : Order) : List String :=
  ["CF_Token=" ++ order.token, "CF_Account_ID=" ++ order.account, "CF_Zone_ID=" ++ order.zone]

def textsJson (texts : List String) : Json := .array (texts.map Json.string)

/-- The container that issues: its command, its environment and the volume it has at `/certs`. -/
def issuerJson (order : Order) (source : String) : Json :=
  .object [("Image", .string "neilpang/acme.sh:latest"), ("Cmd", textsJson (acmeCommand order)),
    ("Env", textsJson (environment order)),
    ("HostConfig", .object [
      ("Mounts", .array [.object [("Type", .string "volume"), ("Source", .string source),
        ("Target", .string "/certs")]]),
      ("Dns", textsJson ["223.5.5.5", "119.29.29.29"]), ("AutoRemove", .bool false)])]

def createIssuer (order : Order) (source : String) : Job String :=
  (say "创建 acme.sh 容器（DNS-01 验证）…").andThen fun _ =>
  (callDaemon setting "POST" "/containers/create?name=web-proxy-acme" (some (issuerJson order source))
    60).andThen fun created =>
  match created.textAt "Id" with
  | none => .done (.error "container create returned no Id")
  | some id => .done (.ok id)

def logTail (logs : Except String Bytes) : String :=
  match logs with
  | .ok bytes =>
      ((LogFrames.containerLogTail setting.lossy setting.isAlphanumeric bytes).map String.ofList).getD ""
  | .error _ => ""

def labelled {α : Type} (label : String) (result : Except String α) : Except String α :=
  result.mapError (fun cause => label ++ ": " ++ cause)

def finishIssuer (id : String) (waited : Except String Json) : Job Unit :=
  match labelled "docker wait" waited with
  | .error error => .done (.error error)
  | .ok value =>
      let exitCode := ((value.get "StatusCode").bind Json.asI64).getD (-1)
      if exitCode ≠ 0 then
        .ask .logs (id, 40) (fun logs =>
          .ask .daemon ⟨"DELETE", "/containers/" ++ id ++ "?force=true", none, 30⟩ (fun _ =>
            .done (.error ("acme.sh 退出码 " ++ toString exitCode ++ ": " ++ logTail setting logs))))
      else .ask .daemon ⟨"DELETE", "/containers/" ++ id, none, 30⟩ (fun _ => .done (.ok ()))

def runIssuer (id : String) : Job Unit :=
  (say "等待 DNS-01 验证与签发（约 1-2 分钟）…").andThen fun _ =>
  (callDaemon setting "POST" ("/containers/" ++ id ++ "/start") none 60).andThen fun _ =>
  .ask .wait (⟨"POST", "/containers/" ++ id ++ "/wait", none, 960⟩, 900) (fun waited =>
    match waited with
    | none => .done (.error "签发超时（15 分钟）")
    | some exchange =>
        finishIssuer setting id
          (dockerApi setting.socket ⟨"POST", "/containers/" ++ id ++ "/wait", none, 960⟩ exchange))

/-- A path that a separator comes behind: not an empty one, and not one that has it already. -/
def Bare (path : String) : Prop := path.toList.getLast?.all (· = '/') = false

instance (path : String) : Decidable (Bare path) := inferInstanceAs (Decidable (_ = false))

/-- `Path::join`. -/
def joinPath (base part : String) : String :=
  if part.toList.head? = some '/' then part else if Bare base then base ++ "/" ++ part else base ++ part

def liveDir : String := joinPath (joinPath setting.cacheDir "certs") "live"

def certDir (domain : String) : String := joinPath (joinPath setting.cacheDir "certs") (domain ++ "_ecc")

def copyFile (source target label : String) : Job Unit :=
  .ask .copy (source, target) (fun copied => .done (labelled label copied))

def makeDir (path : String) : Job Unit := .ask .makeDir path .done

def deploy (order : Order) : Job Unit :=
  (say "部署证书…").andThen fun _ =>
  (makeDir (liveDir setting)).andThen fun _ =>
  (copyFile (joinPath (certDir setting order.domain) "fullchain.cer")
    (joinPath (liveDir setting) "fullchain.pem") "copy fullchain").andThen fun _ =>
  (copyFile (joinPath (certDir setting order.domain) (order.domain ++ ".key"))
    (joinPath (liveDir setting) "privkey.pem") "copy privkey").andThen fun _ =>
  say ("证书已签发（" ++ String.intercalate ", " (certNames order.domain order.accelDomain) ++ "）")

def issueCertJob (order : Order) : Job Unit :=
  (prepare setting order).andThen fun source =>
  (createIssuer setting order source).andThen fun id =>
  (runIssuer setting id).andThen fun _ =>
  deploy setting order

/-- The data volume, by the paths in it, and the folders in it that issuers were told to write to. -/
structure World where
  files : String → Option String
  folders : List String

/-- The gateway has the volume at `/data`. -/
def World.read (world : World) (path : String) : Option String :=
  (Text.stripPrefix path "/data/").bind world.files

def World.write (world : World) (path : String) (content : Option String) : World :=
  match Text.stripPrefix path "/data/" with
  | some inside => { world with files := Function.update world.files inside content }
  | none => world

def argument (flag : String) : List String → Option String
  | word :: value :: rest => if word = flag then some value else argument flag (value :: rest)
  | _ => none

def textsOf (value : Json) : List String := (value.asArray.getD []).filterMap Json.asStr

/-- Where in the volume a container writes: acme.sh keeps an ECC certificate below its certificate home, in a
folder with the name of the first domain, and the container has the volume at its mount's target. -/
def issuerFolder (body : Json) : Option String := do
  let words := textsOf (← body.get "Cmd")
  let home ← argument "--cert-home" words
  let domain ← argument "-d" words
  let mounts ← ((body.get "HostConfig").bind (fun config => config.get "Mounts")).bind Json.asArray
  let target ← mounts.head?.bind (fun mount => mount.textAt "Target")
  Text.stripPrefix (joinPath home (domain ++ "_ecc")) (target ++ "/")

/-- What the surroundings choose at a request: how the exchange with the daemon ends and what the containers
make of the volume in the meantime, or how an operation on a file fails and what it leaves. -/
structure Turn where
  exchange : Exchange
  late : Bool
  logs : Except String Bytes
  change : (String → Option String) → String → Option String
  failure : Option String
  left : Option String

def host : Host issuing Turn World := fun turn action request world =>
  match action, request with
  | .progress, _ => ((), world)
  | .daemon, call =>
      (turn.exchange,
        ⟨turn.change world.files, world.folders ++ ((DaemonCall.body call).bind issuerFolder).toList⟩)
  | .wait, _ =>
      (if turn.late then none else some turn.exchange, { world with files := turn.change world.files })
  | .logs, _ => (turn.logs, { world with files := turn.change world.files })
  | .makeDir, _ =>
      match turn.failure with
      | none => (.ok (), world)
      | some cause => (.error cause, world)
  | .copy, (source, target) =>
      match turn.failure, world.read source with
      | none, some content => (.ok (), world.write target (some content))
      | none, none => (.error "No such file or directory (os error 2)", world)
      | some cause, _ => (.error cause, world.write target turn.left)

def Confined (world : World) (files : String → Option String) : Prop :=
  ∀ path, (∀ folder ∈ world.folders, ∀ file, path ≠ folder ++ "/" ++ file) → files path = world.files path

def Plain (domain : String) : Prop := '/' ∉ domain.toList

instance (domain : String) : Decidable (Plain domain) := inferInstanceAs (Decidable ('/' ∉ domain.toList))

theorem plain_join {base part : String} (bare : Bare base) (plain : Plain part) :
    joinPath base part = base ++ "/" ++ part := by
  have relative : part.toList.head? ≠ some '/' := by
    intro slash
    exact plain (List.mem_of_mem_head? slash)
  rw [joinPath, if_neg relative, if_pos bare]

theorem plain_ecc {domain : String} (plain : Plain domain) : Plain (domain ++ "_ecc") := by
  simpa [Plain] using plain

theorem bare_append {base part : String} (bare : Bare part) : Bare (base ++ part) := by
  unfold Bare at bare ⊢
  rw [String.toList_append, List.getLast?_append]
  cases last : part.toList.getLast? with
  | none =>
      rw [last] at bare
      cases bare
  | some final =>
      rw [last] at bare
      exact bare

def landed (domain file : String) : String := "certs/" ++ domain ++ "_ecc/" ++ file

/-- Nothing came to where `deploy` looks. -/
structure Kept (start world : World) : Prop where
  folders : ∀ folder ∈ world.folders, ∃ domain, Plain domain ∧ folder = domain ++ "_ecc"
  files : ∀ domain file, Plain domain → world.files (landed domain file) = start.files (landed domain file)

/-- The live pair is the one that lay in a domain's folder at the start. -/
structure Deployed (start world : World) (domain : String) : Prop where
  plain : Plain domain
  chain : ∃ content, start.files (landed domain "fullchain.cer") = some content ∧
    world.files "certs/live/fullchain.pem" = some content
  key : ∃ content, start.files (landed domain (domain ++ ".key")) = some content ∧
    world.files "certs/live/privkey.pem" = some content

theorem landed_apart {domain other file inner : String} (plain : Plain other) :
    landed domain file ≠ other ++ "_ecc" ++ "/" ++ inner := by
  intro same
  have letters : "certs".toList ++ '/' :: (domain ++ "_ecc/" ++ file).toList =
      (other ++ "_ecc").toList ++ '/' :: inner.toList := by
    have whole := congrArg String.toList same
    simpa [landed] using whole
  have apart : '/' ∉ (other ++ "_ecc").toList := by simpa [Plain] using plain
  have first := Split.splitOnce_append (by decide : '/' ∉ "certs".toList)
    (domain ++ "_ecc/" ++ file).toList
  rw [letters, Split.splitOnce_append apart] at first
  have fronts := congrArg List.getLast? (Prod.mk.inj (Option.some.inj first)).1
  simp at fronts

theorem textsOf_textsJson (texts : List String) : textsOf (textsJson texts) = texts := by
  rw [textsJson, textsOf, Json.asArray, Option.getD_some, List.filterMap_map]
  exact List.filterMap_some

theorem certNames_head (domain : String) (accelDomain : Option String) :
    ∃ names, certNames domain accelDomain = domain :: names := by
  have kept : ∀ names name, ∃ more, CertJob.pushNew (domain :: names) name = domain :: more := by
    intro names name
    rw [CertJob.pushNew]
    split
    · exact ⟨names, rfl⟩
    · exact ⟨names ++ [name], rfl⟩
  cases accelDomain with
  | none => exact kept _ _
  | some accel =>
      rw [CertJob.certNames_eq]
      split
      · exact kept _ _
      · obtain ⟨more, pushed⟩ := kept ["*." ++ domain] accel
        rw [pushed]
        exact kept _ _

theorem issuerFolder_job {order : Order} (plain : Plain order.domain) (source : String) :
    issuerFolder (issuerJson order source) = some (order.domain ++ "_ecc") := by
  obtain ⟨names, named⟩ := certNames_head order.domain order.accelDomain
  have home : argument "--cert-home" (acmeCommand order) = some "/certs" := by
    simp [acmeCommand, argument]
  have domain : argument "-d" (acmeCommand order) = some order.domain := by
    simp [acmeCommand, argument, named]
  have folder : joinPath "/certs" (order.domain ++ "_ecc") = "/certs" ++ "/" ++ (order.domain ++ "_ecc") :=
    plain_join (by decide) (plain_ecc plain)
  have command : (issuerJson order source).get "Cmd" = some (textsJson (acmeCommand order)) := by
    simp [issuerJson, Json.get]
  have mounts : (((issuerJson order source).get "HostConfig").bind (fun config => config.get "Mounts")).bind
      Json.asArray = some [.object [("Type", .string "volume"), ("Source", .string source),
        ("Target", .string "/certs")]] := by
    simp [issuerJson, Json.get, Json.asArray]
  have target : ([Json.object [("Type", .string "volume"), ("Source", .string source),
      ("Target", .string "/certs")]].head?.bind (fun mount => mount.textAt "Target")) = some "/certs" := by
    simp [Json.textAt, Json.get, Json.asStr]
  have inside : Text.stripPrefix ("/certs" ++ "/" ++ (order.domain ++ "_ecc")) ("/certs" ++ "/") =
      some (order.domain ++ "_ecc") := Text.stripPrefix_append _ _
  simp only [issuerFolder, Option.bind_eq_bind, command, Option.bind_some, textsOf_textsJson, home, domain,
    mounts, target, folder, inside]

/-- Requests that leave the live directory alone, and whose container writes to a folder of a plain name. -/
def Quiet : (action : Action) → action.sends → Prop
  | .copy, _ => False
  | .daemon, call => ∀ folder, (DaemonCall.body call).bind issuerFolder = some folder →
      ∃ domain, Plain domain ∧ folder = domain ++ "_ecc"
  | _, _ => True

def jobRules (start : World) : Rules issuing Turn World where
  host := host
  admits := fun turn _ _ world => Confined world (turn.change world.files)
  rely := Eq
  guar := fun _ after => Kept start after

theorem jobs_steady (start : World) : (jobRules start).Steady :=
  ⟨fun _ => rfl, fun _ _ _ => Eq.trans⟩

theorem Kept.turn {start world : World} (kept : Kept start world) {files : String → Option String}
    (confined : Confined world files) (domain file : String) (plain : Plain domain) :
    files (landed domain file) = start.files (landed domain file) := by
  rw [confined, kept.files domain file plain]
  intro folder member inner
  obtain ⟨other, named, rfl⟩ := kept.folders folder member
  exact landed_apart named

theorem quiet_keeps (start : World) (action : Action) (request : action.sends) (world : World) (turn : Turn)
    (quiet : Quiet action request) (kept : Kept start world) (confined : Confined world (turn.change world.files)) :
    Kept start (host turn action request world).2 := by
  cases action with
  | progress => exact kept
  | daemon =>
      refine ⟨?_, kept.turn confined⟩
      intro folder member
      rcases List.mem_append.mp member with old | new
      · exact kept.folders folder old
      · exact quiet folder (Option.mem_toList.mp new)
  | wait => exact ⟨kept.folders, kept.turn confined⟩
  | logs => exact ⟨kept.folders, kept.turn confined⟩
  | makeDir =>
      change Kept start (match turn.failure with
        | none => ((.ok () : Except String Unit), world)
        | some cause => (.error cause, world)).2
      split
      · exact kept
      · exact kept
  | copy => cases quiet

theorem quiet_holds {start world : World} {β : Type} {program : Program issuing β}
    (asks : program.Asks Quiet) (kept : Kept start world) :
    program.Holds (jobRules start) (fun _ => Kept start) world :=
  asks.holds (Kept start) (fun _ _ holds same => Eq.subst (motive := Kept start) same holds)
    (fun action request state turn quiet holds confined =>
      ⟨quiet_keeps start action request state turn quiet holds confined,
        quiet_keeps start action request state turn quiet holds confined⟩) kept

variable {setting : Setting}

theorem say_quiet (message : String) : (say message).Asks Quiet := ⟨trivial, fun _ => trivial⟩

theorem makeDir_quiet (path : String) : (makeDir path).Asks Quiet := ⟨trivial, fun _ => trivial⟩

theorem callDaemon_quiet (method path : String) (timeoutSecs : Nat) :
    (callDaemon setting method path none timeoutSecs).Asks Quiet :=
  ⟨fun _ found => absurd found (by simp), fun _ => trivial⟩

theorem prepare_quiet (order : Order) : (prepare setting order).Asks Quiet := by
  refine (say_quiet _).andThen fun _ => (callDaemon_quiet _ _ _).andThen fun _ =>
    (say_quiet _).andThen fun _ => (callDaemon_quiet _ _ _).andThen fun info => ?_
  cases volumeSource info with
  | error error => trivial
  | ok source => exact ⟨fun _ found => absurd found (by simp), fun _ => trivial⟩

theorem createIssuer_quiet {order : Order} (plain : Plain order.domain) (source : String) :
    (createIssuer setting order source).Asks Quiet := by
  refine (say_quiet _).andThen fun _ => Program.Asks.andThen ⟨?_, fun _ => trivial⟩ fun created => ?_
  · intro folder found
    change issuerFolder (issuerJson order source) = some folder at found
    rw [issuerFolder_job plain] at found
    exact ⟨order.domain, plain, (Option.some.inj found).symm⟩
  · cases created.textAt "Id" <;> trivial

theorem runIssuer_quiet (id : String) : (runIssuer setting id).Asks Quiet := by
  refine (say_quiet _).andThen fun _ => (callDaemon_quiet _ _ _).andThen fun _ => ⟨trivial, ?_⟩
  intro waited
  cases waited with
  | none => trivial
  | some exchange =>
      change (finishIssuer setting id (dockerApi setting.socket _ exchange)).Asks Quiet
      unfold finishIssuer
      split
      · trivial
      · dsimp only
        split
        · exact ⟨trivial, fun _ => ⟨fun _ found => absurd found (by simp), fun _ => trivial⟩⟩
        · exact ⟨fun _ found => absurd found (by simp), fun _ => trivial⟩

def Succeeds (start : World) (result : Except String Unit) (world : World) : Prop :=
  Kept start world ∧ (result = .ok () → ∃ domain, Deployed start world domain)

theorem certDir_file (placed : setting.cacheDir = "/data") {domain file : String} (plain : Plain domain)
    (simple : Plain file) : Text.stripPrefix (joinPath (certDir setting domain) file) "/data/" =
      some (landed domain file) := by
  have folder : certDir setting domain = "/data/certs/" ++ (domain ++ "_ecc") := by
    rw [certDir, placed, plain_join (by decide) (by decide : Plain "certs"),
      plain_join (by decide) (plain_ecc plain), ← String.toList_inj]
    simp
  have bare : Bare (certDir setting domain) := by
    rw [folder]
    exact bare_append (bare_append (by decide))
  have path : joinPath (certDir setting domain) file = "/data/" ++ landed domain file := by
    rw [plain_join bare simple, folder, landed, ← String.toList_inj]
    simp
  rw [path, Text.stripPrefix_append]

theorem live_file (placed : setting.cacheDir = "/data") {file : String} (simple : Plain file) :
    Text.stripPrefix (joinPath (liveDir setting) file) "/data/" = some ("certs/live/" ++ file) := by
  have folder : liveDir setting = "/data/certs/live" := by
    rw [liveDir, placed]
    decide +kernel
  have path : joinPath (liveDir setting) file = "/data/" ++ ("certs/live/" ++ file) := by
    rw [folder, plain_join (by decide) simple, ← String.toList_inj]
    simp
  rw [path, Text.stripPrefix_append]

theorem landed_not_live {domain file name : String} (plain : Plain domain) :
    landed domain file ≠ "certs/live/" ++ name := by
  intro same
  have letters : (domain ++ "_ecc").toList ++ '/' :: file.toList = "live".toList ++ '/' :: name.toList := by
    have whole := congrArg String.toList same
    simpa [landed] using whole
  have apart : '/' ∉ (domain ++ "_ecc").toList := by simpa [Plain] using plain
  have first := Split.splitOnce_append (by decide : '/' ∉ "live".toList) name.toList
  rw [← letters, Split.splitOnce_append apart] at first
  have fronts := congrArg List.getLast? (Prod.mk.inj (Option.some.inj first)).1
  simp at fronts

theorem write_inside {world : World} {path inside : String} (content : Option String)
    (within : Text.stripPrefix path "/data/" = some inside) :
    world.write path content = { world with files := Function.update world.files inside content } := by
  rw [World.write, within]

theorem Kept.write {start world : World} (kept : Kept start world) {path name : String}
    (content : Option String) (within : Text.stripPrefix path "/data/" = some ("certs/live/" ++ name)) :
    Kept start (world.write path content) := by
  rw [write_inside content within]
  refine ⟨kept.folders, ?_⟩
  intro domain file plain
  change Function.update world.files _ content (landed domain file) = _
  rw [Function.update_of_ne (landed_not_live plain)]
  exact kept.files domain file plain

structure Copied (start before : World) (domain file name : String) (result : Except String Unit)
    (after : World) : Prop where
  kept : Kept start after
  copied : result = .ok () → ∃ content, start.files (landed domain file) = some content ∧
    after.files ("certs/live/" ++ name) = some content
  others : ∀ other, other ≠ "certs/live/" ++ name → after.files other = before.files other

theorem copyFile_holds {start world : World} (kept : Kept start world) {domain file name source target : String}
    (plain : Plain domain) (from_folder : Text.stripPrefix source "/data/" = some (landed domain file))
    (to_live : Text.stripPrefix target "/data/" = some ("certs/live/" ++ name)) (label : String) :
    (copyFile source target label).Holds (jobRules start) (Copied start world domain file name) world := by
  rintro _ rfl turn _
  have found : world.read source = world.files (landed domain file) := by
    rw [World.read, from_folder, Option.bind_some]
  have written : ∀ content, (world.write target content).files =
      Function.update world.files ("certs/live/" ++ name) content := by
    intro content
    rw [write_inside content to_live]
  have frame : ∀ content other, other ≠ "certs/live/" ++ name →
      (world.write target content).files other = world.files other := by
    intro content other differs
    rw [written, Function.update_of_ne differs]
  have failed : ∀ (cause : String) (after : World), Copied start world domain file name (.error cause) after →
      ∀ later, after = later → Copied start world domain file name (.error cause) later := by
    rintro cause after copied _ rfl
    exact copied
  change Kept start (host turn .copy (source, target) world).2 ∧
    Program.Holds (jobRules start) (Copied start world domain file name)
      (.done (labelled label (host turn .copy (source, target) world).1))
      (host turn .copy (source, target) world).2
  cases failure : turn.failure with
  | some cause =>
      have answer : host turn .copy (source, target) world = (.error cause, world.write target turn.left) := by
        simp only [host, failure]
      rw [answer]
      exact ⟨kept.write turn.left to_live,
        failed _ _ ⟨kept.write turn.left to_live, (fun same => nomatch same), frame turn.left⟩⟩
  | none =>
      cases content : world.files (landed domain file) with
      | none =>
          have answer : host turn .copy (source, target) world =
              (.error "No such file or directory (os error 2)", world) := by
            simp only [host, failure, found, content]
          rw [answer]
          exact ⟨kept, failed _ _ ⟨kept, (fun same => nomatch same), fun _ _ => rfl⟩⟩
      | some text =>
          have answer : host turn .copy (source, target) world = (.ok (), world.write target (some text)) := by
            simp only [host, failure, found, content]
          rw [answer]
          refine ⟨kept.write (some text) to_live, ?_⟩
          rintro _ rfl
          refine ⟨kept.write (some text) to_live, fun _ => ⟨text, ?_, ?_⟩, frame (some text)⟩
          · rw [← kept.files domain file plain, content]
          · change (world.write target (some text)).files _ = _
            rw [written, Function.update_self]

theorem deploy_holds (placed : setting.cacheDir = "/data") {order : Order} (plain : Plain order.domain)
    {start world : World} (kept : Kept start world) :
    (deploy setting order).Holds (jobRules start) (Succeeds start) world := by
  have steady := jobs_steady start
  have fails : ∀ (error : String) (later : World), Kept start later → ∀ further, later = further →
      Succeeds start (.error error) further := by
    rintro error later holds _ rfl
    exact ⟨holds, fun same => nomatch same⟩
  have keyed : Plain (order.domain ++ ".key") := by simpa [Plain] using plain
  refine (quiet_holds (say_quiet _) kept).andThen steady (fun _ world kept => ?_) fails
  refine (quiet_holds (makeDir_quiet _) kept).andThen steady (fun _ world kept => ?_) fails
  refine (copyFile_holds kept plain (certDir_file placed plain (by decide)) (live_file placed (by decide))
    _).andThen steady (fun _ later chain => ?_) (fun error later copied => fails error later copied.kept)
  refine (copyFile_holds chain.kept plain (certDir_file placed plain keyed) (live_file placed (by decide))
    _).andThen steady (fun _ last key => ?_) (fun error later copied => fails error later copied.kept)
  obtain ⟨chainText, chainStart, chainLive⟩ := chain.copied rfl
  have both : Deployed start last order.domain := by
    refine ⟨plain, ⟨chainText, chainStart, ?_⟩, key.copied rfl⟩
    rw [← chainLive]
    exact key.others _ (by decide)
  rintro _ rfl turn _
  exact ⟨key.kept, by rintro _ rfl; exact ⟨key.kept, fun _ => ⟨order.domain, both⟩⟩⟩

theorem issueCertJob_holds (placed : setting.cacheDir = "/data") {order : Order} (plain : Plain order.domain)
    {start world : World} (kept : Kept start world) :
    (issueCertJob setting order).Holds (jobRules start) (Succeeds start) world := by
  have fails : ∀ (error : String) (later : World), Kept start later → ∀ further, later = further →
      Succeeds start (.error error) further := by
    rintro error later holds _ rfl
    exact ⟨holds, fun same => nomatch same⟩
  refine (quiet_holds (prepare_quiet order) kept).andThen (jobs_steady start) (fun source found holds => ?_) fails
  refine (quiet_holds (createIssuer_quiet plain source) holds).andThen (jobs_steady start)
    (fun id made holds => ?_) fails
  refine (quiet_holds (runIssuer_quiet id) holds).andThen (jobs_steady start) (fun _ ended holds => ?_) fails
  exact deploy_holds placed plain holds

abbrev Jobs : Type := Server issuing (Except String Unit) World

abbrev JobEvent : Type := Interaction.Event issuing (Except String Unit) Turn

/-- A job is spawned for settings that were saved, when the ones before it are over; it may be killed with the
process at any time. -/
def Issued (setting : Setting) (jobs : Jobs) : JobEvent → Prop
  | .spawn program => jobs.Idle ∧ ∃ settings order, settings.validate = .ok () ∧
      CertJob.orderOf settings = some order ∧ program = issueCertJob setting order
  | .answer _ turn => Confined jobs.state (turn.change jobs.state.files)
  | .drop _ => True

theorem plain_of_valid {settings : Settings} {order : Order} (valid : settings.validate = .ok ())
    (ordered : CertJob.orderOf settings = some order) : Plain order.domain := by
  unfold CertJob.orderOf at ordered
  split at ordered
  · rename_i domain token zone account apex _ _ _
    split at ordered
    · cases ordered
      have clean := (Settings.validate_ok valid).1 domain apex
      unfold Settings.badName at clean
      simp only [Bool.or_eq_false_iff, Bool.not_eq_false', List.all_eq_true] at clean
      intro member
      exact absurd (clean.2 '/' member) (by decide)
    · cases ordered
  · cases ordered

structure Inv (start : World) (jobs : Jobs) : Prop where
  alone : jobs.Alone (jobRules start) (Succeeds start)
  kept : Kept start jobs.state
  succeeded : ∀ number, jobs.result number = some (.ok ()) → ∃ domain, Plain domain ∧
    start.files (landed domain "fullchain.cer") ≠ none ∧ start.files (landed domain (domain ++ ".key")) ≠ none

theorem issued_starts (placed : setting.cacheDir = "/data") {start : World} {jobs : Jobs} (kept : Kept start jobs.state)
    {event : JobEvent} (issued : Issued setting jobs event) :
    Serial jobs event ∧ Admitted (jobRules start) jobs event ∧
      ∀ program, event = .spawn program → program.Holds (jobRules start) (Succeeds start) jobs.state := by
  cases event with
  | spawn program =>
      obtain ⟨idle, settings, order, valid, ordered, rfl⟩ := issued
      refine ⟨idle, trivial, ?_⟩
      rintro _ same
      cases same
      exact issueCertJob_holds placed (plain_of_valid valid ordered) kept
  | answer number turn => exact ⟨trivial, fun _ _ _ _ => issued, fun _ same => nomatch same⟩
  | drop number => exact ⟨trivial, trivial, fun _ same => nomatch same⟩

theorem just_deployed (placed : setting.cacheDir = "/data") {start : World} {jobs next : Jobs} {event : JobEvent}
    (inv : Inv start jobs) (issued : Issued setting jobs event) (taken : step host jobs event = some next)
    {number : Nat} (before : jobs.result number ≠ some (.ok ())) (after : next.result number = some (.ok ())) :
    ∃ domain, Deployed start next.state domain := by
  obtain ⟨serial, admitted, starts⟩ := issued_starts placed inv.kept issued
  exact (alone_ended (fun _ => rfl) inv.alone starts admitted taken before after).2 rfl

theorem inv_step (placed : setting.cacheDir = "/data") {start : World} {jobs next : Jobs} {event : JobEvent}
    (inv : Inv start jobs) (issued : Issued setting jobs event) (taken : step host jobs event = some next) :
    Inv start next := by
  obtain ⟨serial, admitted, starts⟩ := issued_starts placed inv.kept issued
  obtain ⟨alone, moved⟩ := alone_step (fun _ => rfl) inv.alone serial starts admitted taken
  refine ⟨alone, ?_, ?_⟩
  · rcases moved with same | kept
    · rw [same]
      exact inv.kept
    · exact kept
  · intro number ended
    by_cases before : jobs.result number = some (.ok ())
    · exact inv.succeeded number before
    · obtain ⟨domain, plain, ⟨chain, held, _⟩, key, kept, _⟩ := just_deployed placed inv issued taken before ended
      exact ⟨domain, plain, by simp [held], by simp [kept]⟩

/-- Over any run of certificate jobs, answered in any way and killed at any time: the folders that `deploy`
copies from stay as they were at the start, so what a job puts online lay there before any container ran, and
where nothing lay there no job succeeds. -/
theorem jobs_deploy_old_files (setting : Setting) (placed : setting.cacheDir = "/data") (start : World)
    (clean : start.folders = []) (events : List JobEvent) (final : Jobs)
    (issued : Machine.Along (step host) (Issued setting) ⟨start, []⟩ events)
    (ran : Machine.run (step host) ⟨start, []⟩ events = some final) :
    (∀ domain file, Plain domain →
      final.state.files (landed domain file) = start.files (landed domain file)) ∧
    (∀ number, final.result number = some (.ok ()) → ∃ domain, Plain domain ∧
      start.files (landed domain "fullchain.cer") ≠ none ∧
      start.files (landed domain (domain ++ ".key")) ≠ none) ∧
    ∀ front event back middle next number, events = front ++ event :: back →
      Machine.run (step host) ⟨start, []⟩ front = some middle → step host middle event = some next →
      middle.result number ≠ some (.ok ()) → next.result number = some (.ok ()) →
      ∃ domain, Deployed start next.state domain := by
  have begin : Inv start ⟨start, []⟩ := by
    refine ⟨alone_start _ _ start, ⟨?_, fun _ _ _ => rfl⟩, ?_⟩
    · intro folder member
      rw [clean] at member
      cases member
    · intro number ended
      simp [Server.result] at ended
  have kept : ∀ jobs event next, Inv start jobs → Issued setting jobs event → step host jobs event = some next →
      Inv start next := fun _ _ _ inv issued taken => inv_step placed inv issued taken
  have last := Machine.along_invariant (Inv start) kept begin issued ran
  refine ⟨last.kept.files, last.succeeded, ?_⟩
  intro front event back middle next number split reached taken before after
  subst split
  obtain ⟨early, late⟩ := Machine.along_append issued reached
  exact just_deployed placed (Machine.along_invariant (Inv start) kept begin early reached) late.1 taken before
    after

def sampleSetting : Setting where
  socket := "/var/run/docker.sock"
  selfId := "4f2a"
  cacheDir := "/data"
  lossy := fun _ => []
  isAlphanumeric := fun _ => false

def sampleOrder : Order := ⟨"a.org", "token", "zone", "account", "127.0.0.1:4443/neilpang/acme.sh:latest", none⟩

def sampleVolume : World where
  files path :=
    if path = "certs/a.org_ecc/fullchain.cer" then some "chain"
    else if path = "certs/a.org_ecc/a.org.key" then some "key" else none
  folders := []

def replied (body : Json) : Turn := ⟨.replied 200 "OK" (some body), false, .ok [], id, none, none⟩

def sampleTurns : List Turn :=
  [replied .null, replied .null, replied .null,
    replied (.object [("Mounts", .array [.object [("Destination", .string "/data"),
      ("Source", .string "web-proxy-data")]])]),
    replied .null, replied .null, replied (.object [("Id", .string "c1")]), replied .null, replied .null,
    replied (.object [("StatusCode", .number (.posInt 0))]), replied .null, replied .null, replied .null,
    replied .null, replied .null, replied .null]

def sampleJobEvents : List JobEvent :=
  .spawn (issueCertJob sampleSetting sampleOrder) :: sampleTurns.map (.answer 0)

theorem jobs_deploy_old_files_sample : ∃ final,
    Machine.run (step host) ⟨sampleVolume, []⟩ sampleJobEvents = some final ∧
      final.state.files "certs/live/privkey.pem" = some "key" ∧
      final.state.files (landed "a.org" "fullchain.cer") = some "chain" := by
  have ends : (Machine.run (step host) ⟨sampleVolume, []⟩ sampleJobEvents).map (fun final : Jobs =>
      final.state.files "certs/live/privkey.pem") = some (some "key") := by decide +kernel
  obtain ⟨final, ran, key⟩ := Option.map_eq_some_iff.mp ends
  have issued : Machine.Along (step host) (Issued sampleSetting) ⟨sampleVolume, []⟩ sampleJobEvents := by
    refine ⟨⟨fun _ _ found => by simp at found, { CertJob.sampleSettings with domain := some "a.org" },
      sampleOrder, by decide +kernel, by decide +kernel, rfl⟩, ?_⟩
    intro next _
    refine Machine.along_iff.mpr ?_
    intro front event back middle split _
    have member : event ∈ sampleTurns.map (Interaction.Event.answer 0) := by
      rw [split]
      simp
    have still : ∀ turn ∈ sampleTurns, turn.change = id := by simp [sampleTurns, replied]
    obtain ⟨turn, listed, rfl⟩ := List.mem_map.mp member
    intro path _
    rw [still turn listed]
    rfl
  obtain ⟨same, _, _⟩ := jobs_deploy_old_files sampleSetting rfl sampleVolume rfl sampleJobEvents final issued ran
  exact ⟨final, ran, key, (same "a.org" "fullchain.cer" (by decide)).trans (by decide)⟩

end WebProxy.CertIssue

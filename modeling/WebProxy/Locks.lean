import WebProxy.Library.LockOrder
import WebProxy.ServeMulti
import WebProxy.Sources

/-! The locks of the gateway: what every request handler and every task of its own takes, holds and waits
for, in the order of the source. What a run of a function depends on otherwise (answers, sizes, how often a
loop goes round) is a parameter of its script. The locks of `std` are left out: none is held across a
wait. -/

namespace WebProxy.Locks

open FairLocks
open ServeMulti (Handler)

/-- The locks that tokio hands out. A pool of sources, a pull job and a chunked download have their own, and
`ConcurrencyLimitLayer` gives every route its permits. -/
inductive Lock where
  | route (handler : Handler)
  | inflight
  | flight (hex : String)
  | permits (download : Nat)
  | part (download : Nat)
  | stats (pool : Nat)
  | weights (pool : Nat)
  | tokenCache (pool : Nat)
  | sources
  | evictLock
  | activeDownloads
  | entries
  | settingsLock
  | certJob
  | history
  | jobs
  | state (job : Nat)
  deriving DecidableEq

/-- What `main` has from the environment, and the throughput of the sources when a download starts. A limit
of no requests is refused at the start. -/
structure Setup where
  maxConcurrentRequests : Nat
  positive : 0 < maxConcurrentRequests
  throughput : Nat → Nat

/-- What a writer takes of an `RwLock`. -/
def maxReads : Nat := 2 ^ 29 - 1

def Setup.capacity (setup : Setup) : Lock → Nat
  | .route _ => setup.maxConcurrentRequests
  | .permits download => (Sources.chunkPlanFor (setup.throughput download)).2
  | .stats _ | .weights _ | .sources => maxReads
  | _ => 1

/-- The handlers that wait for nothing but locks: not for a body, an upstream or the daemon. -/
def immediate : Handler → Bool
  | .startPull | .startWarm | .saveSettings | .issueCert | .createDnsRecords | .saveSourcesConfig
  | .proxy => false
  | _ => true

def level : Lock → Nat
  | .route handler => if immediate handler then 3 else 0
  | .flight _ => 1
  | .permits _ => 2
  | .weights _ | .state _ => 5
  | _ => 4

/-- Tasks are joined with the flight of a digest held at most, and an upstream or a client is waited for
with a permit of a download besides. -/
def Setup.ranks (setup : Setup) : Ranks Lock where
  capacity := setup.capacity
  level := level
  bar := 1
  calm := 2
  bar_le := by decide

abbrev Code := Script Lock

/-- A guard that lives for one statement or one block without a wait in it. -/
def brief (lock : Lock) (amount : Nat) (rest : Code) : Code :=
  .acquire lock amount (.release lock rest)

def outsides : Nat → Code → Code
  | 0, rest => rest
  | waits + 1, rest => .outside (outsides waits rest)

def joins : Nat → Code → Code
  | 0, rest => rest
  | tasks + 1, rest => .join (joins tasks rest)

/-! ### `SourcePool` -/

/-- The weights are read first; the stats only where no weighted draw ends the search. -/
def pick (pool : Nat) (drawn : Bool) (rest : Code) : Code :=
  brief (.weights pool) 1 (if drawn then rest else brief (.stats pool) 1 rest)

def chunkPlan (pool : Nat) (rest : Code) : Code :=
  brief (.stats pool) 1 rest

def weightsSnapshot (pool : Nat) (rest : Code) : Code :=
  .acquire (.stats pool) 1 (.acquire (.weights pool) 1
    (.release (.weights pool) (.release (.stats pool) rest)))

def recomputeWeights (pool : Nat) (rest : Code) : Code :=
  .acquire (.stats pool) 1 (.acquire (.weights pool) maxReads
    (.release (.weights pool) (.release (.stats pool) rest)))

def report (pool : Nat) (rest : Code) : Code :=
  brief (.stats pool) maxReads (recomputeWeights pool rest)

def reportThroughput (pool : Nat) (measured : Bool) (rest : Code) : Code :=
  if measured then brief (.stats pool) maxReads rest else rest

/-- How a call of `blob_token` goes: the source takes no token, the cache has one or the URL does not
parse, no token comes back, or one does. -/
inductive TokenCall where
  | unneeded
  | atHand
  | refused (waits : Nat)
  | fetched

def blobToken (pool : Nat) (rest : Code) : TokenCall → Code
  | .unneeded => rest
  | .atHand => brief (.tokenCache pool) 1 rest
  | .refused waits => brief (.tokenCache pool) 1 (outsides waits rest)
  | .fetched => brief (.tokenCache pool) 1 (outsides 2 (brief (.tokenCache pool) 1 rest))

def probeOne (pool : Nat) (asked : Bool) : Code :=
  if asked then .outside (brief (.stats pool) maxReads .done) else .done

def probeAll (pool : Nat) (probes : List Bool) : Code :=
  probes.foldr (fun asked rest => .fork (probeOne pool asked) rest)
    (joins (probes.length + 1) (recomputeWeights pool .done))

/-! ### `chunks::download` -/

/-- The pieces of a chunk as they come in, with the end of the stream unless the last of them cannot be
written. -/
def fetchPieces (download : Nat) (written : Bool) : Nat → Code → Code
  | 0, rest => if written then .outside rest else rest
  | pieces + 1, rest => .outside (brief (.part download) 1 (fetchPieces download written pieces rest))

/-- One round of a chunk's retry loop. `requests` counts the redirects with the request, a response that is
refused has no `pieces`, and a chunk is flushed unless its stream or the file failed. -/
structure Attempt where
  drawn : Bool
  parsed : Bool
  token : TokenCall
  requests : Nat
  pieces : Option Nat
  written : Bool
  flushed : Bool
  fetched : Bool
  measured : Bool

def fetchChunk (download : Nat) (attempt : Attempt) (rest : Code) : Code :=
  outsides attempt.requests (match attempt.pieces with
    | none => rest
    | some pieces =>
        fetchPieces download attempt.written pieces (if attempt.flushed then brief (.part download) 1 rest else rest))

def chunkAttempt (pool download : Nat) (attempt : Attempt) (rest : Code) : Code :=
  pick pool attempt.drawn (if attempt.parsed then
    blobToken pool (fetchChunk download attempt (report pool
      (if attempt.fetched then reportThroughput pool attempt.measured rest else rest))) attempt.token
  else report pool rest)

def chunkTask (pool download : Nat) : Option (List Attempt) → Code
  | none => .done
  | some attempts => .acquire (.permits download) 1
      (attempts.foldr (chunkAttempt pool download) (.release (.permits download) .done))

/-- How a download ends: early on an error, after the flush with a wrong digest or a failed rename, or
committed, with an eviction where the cache is over its capacity. -/
inductive Outcome where
  | failed
  | rejected
  | committed (evicts : Bool)

/-- A run of `download`, unless the folder or the part file cannot be had. `rounds` are the chunks that are collected, each with the chunks that are emitted
then, and for each of those whether a client still takes it. -/
structure Download where
  pool : Nat
  number : Nat
  planned : Bool
  opened : Bool
  chunks : List (Option (List Attempt))
  rounds : List (List Bool)
  outcome : Outcome

def emit (number : Nat) (sent : Bool) (rest : Code) : Code :=
  brief (.part number) 1 (if sent then .outside rest else rest)

def collectRound (number : Nat) (round : List Bool) (rest : Code) : Code :=
  .join (round.foldr (emit number) rest)

def finish (number : Nat) (rest : Code) : Outcome → Code
  | .failed => rest
  | .rejected => brief (.part number) 1 rest
  | .committed evicts => brief (.part number) 1 (if evicts then brief .evictLock 1 rest else rest)

/-- The entry of the download among the active ones is removed by a task that the guard's drop starts. -/
def download (course : Download) (rest : Code) : Code :=
  if course.planned then chunkPlan course.pool (if course.opened then
    brief .activeDownloads 1
      (course.chunks.foldr (fun chunk rest => .fork (chunkTask course.pool course.number chunk) rest)
        (course.rounds.foldr (collectRound course.number)
          (finish course.number (.spawn [] (brief .activeDownloads 1 .done) rest) course.outcome)))
  else rest) else rest

/-- The task that downloads the blob for a request: a failure is told to the client, with the flight still
held. -/
def downloadTask (hex : String) (course : Download) (told : Bool) : Code :=
  download course (outsides (if told then 1 else 0) (.release (.flight hex) .done))

/-- `tee_blob_to_cache`: `waits` are the pieces of the upstream and what is sent to the client. -/
def teeTask (hex : String) (waits : Nat) (evicts : Bool) : Code :=
  outsides waits (if evicts then brief .evictLock 1 (.release (.flight hex) .done)
    else .release (.flight hex) .done)

/-! ### Requests

`rest` is what is left of a request when its handler is through: the permit of its route. -/

/-- What becomes of a blob request that has the flight of its digest: the blob is there by now or the
upstream's answer is only passed on, the body is teed into the cache, or a chunked download starts. -/
inductive Landing where
  | passed (waits : Nat)
  | teed (requests waits : Nat) (evicts : Bool)
  | chunked (requests : Nat) (course : Download) (told : Bool)

def land (hex : String) (rest : Code) : Landing → Code
  | .passed waits => outsides waits (.release (.flight hex) rest)
  | .teed requests waits evicts => outsides requests (.spawn [.flight hex] (teeTask hex waits evicts) rest)
  | .chunked requests course told => outsides requests
      (brief .sources 1 (.spawn [.flight hex] (downloadTask hex course told) rest))

def proxyBlob (hex : String) (landing : Landing) (rest : Code) : Code :=
  brief .inflight 1 (.acquire (.flight hex) 1 (land hex rest landing))

/-- A digest of a manifest that is warmed and has its flight: nothing to do after some answers, or a
download. -/
inductive Warming where
  | skipped (waits : Nat)
  | queued (waits : Nat) (course : Download)

def warmBlob (hex : String) (rest : Code) : Warming → Code
  | .skipped waits => outsides waits (.release (.flight hex) rest)
  | .queued waits course => outsides waits
      (brief .sources 1 (.spawn [.flight hex] (downloadTask hex course false) rest))

def tryWarm (blob : String × Warming) (rest : Code) : Code :=
  brief .inflight 1 (.attempt (.flight blob.1) 1 (warmBlob blob.1 rest blob.2) rest)

def startWarm (waits : Nat) (blobs : List (String × Warming)) (rest : Code) : Code :=
  outsides waits (blobs.foldr tryWarm rest)

/-- `proxy_manifest`: the cache, and after a miss the upstream and the cache again. -/
def proxyManifest (found stored : Bool) (waits : Nat) (rest : Code) : Code :=
  brief .entries 1 (if found then rest
    else outsides waits (if stored then brief .entries 1 rest else rest))

def tryState (job : Nat) (rest : Code) : Code :=
  .attempt (.state job) 1 (.release (.state job) rest) rest

/-- What the task of a pull job does once its outcome is written: nothing, the check of the outcome, or
after that the renaming. -/
inductive Retag where
  | plain
  | unpulled
  | renamed (waits : Nat)

/-- A run of a job's task. `lines` has a progress line that the job's state takes, or a wait for the daemon;
the final message is read where the stream came to its end. -/
structure PullRun where
  job : Nat
  lines : List Bool
  ended : Bool
  retag : Retag

def retagging (job : Nat) : Retag → Code
  | .plain => .done
  | .unpulled => brief (.state job) 1 .done
  | .renamed waits => brief (.state job) 1 (brief (.state job) 1
      (outsides waits (brief (.state job) 1 .done)))

def runJob (run : PullRun) : Code :=
  run.lines.foldr (fun line rest => if line then brief (.state run.job) 1 rest else .outside rest)
    (if run.ended then brief (.state run.job) 1 (brief (.state run.job) 1 (retagging run.job run.retag))
    else brief (.state run.job) 1 (retagging run.job run.retag))

/-- A call of `PullManager::start`: the jobs that are looked at first, and with a new job those of the
trimming. -/
structure PullCall where
  checked : List Nat
  started : Option (List Nat × PullRun)

def PullCall.code (call : PullCall) (rest : Code) : Code :=
  .acquire .jobs 1 (call.checked.foldr tryState (.release .jobs (match call.started with
    | none => rest
    | some (trimmed, run) => .acquire .jobs 1 (trimmed.foldr tryState (.release .jobs
        (.spawn [] (runJob run) rest))))))

def listPulls (pulls : List Nat) (rest : Code) : Code :=
  .acquire .jobs 1 (pulls.foldr (fun job rest => brief (.state job) 1 rest) (.release .jobs rest))

def progress (before : Nat) (rest : Code) : Code :=
  outsides before (.attempt .certJob 1 (.release .certJob rest) rest)

/-- A run of the task of `issue_cert`: the waits before each progress message, those between the last one
and the outcome, where the job fails, and those of a restart. -/
structure CertRun where
  messages : List Nat
  unreported : Nat
  restarts : Nat

def certTask (run : CertRun) : Code :=
  run.messages.foldr progress (outsides run.unreported (brief .certJob 1 (outsides run.restarts .done)))

def issueCert (running : Bool) (lookups : Nat) (task : Option CertRun) (rest : Code) : Code :=
  brief .certJob 1 (if running then rest else outsides lookups (match task with
    | none => rest
    | some run => .spawn [] (certTask run) rest))

def saveSources (saved : Option (Nat × List Bool)) (rest : Code) : Code :=
  .acquire .sources maxReads (match saved with
    | none => .release .sources rest
    | some (pool, probes) => .spawn [] (probeAll pool probes) (.release .sources rest))

/-- What a request does. `refused` is every request that takes no lock and waits for nothing, `unread` one
that ends after it has waited for its body, and `passed` one of the proxy that takes no lock. -/
inductive Entry where
  | refused (handler : Handler)
  | unread (handler : Handler) (slow : immediate handler = false)
  | passed (waits : Nat)
  | blob (hex : String) (landing : Landing)
  | manifest (found stored : Bool) (waits : Nat)
  | startWarm (waits : Nat) (blobs : List (String × Warming))
  | startPull (call : PullCall)
  | saveSettings
  | issueCert (running : Bool) (lookups : Nat) (task : Option CertRun)
  | createDnsRecords (waits : Nat)
  | saveSourcesConfig (saved : Option (Nat × List Bool))
  | restartGateway (waits : Nat)
  | stats (pool : Nat)
  | metricsHistory
  | downloads
  | listPulls (pulls : List Nat)
  | getSettings
  | sourcesView (pool : Nat)
  | getSourcesConfig
  | triggerProbe (pool : Nat) (probes : List Bool)
  | clearCache

def Entry.handler : Entry → Handler
  | .refused handler | .unread handler _ => handler
  | .passed _ | .blob _ _ | .manifest _ _ _ => .proxy
  | .startWarm _ _ => .startWarm
  | .startPull _ => .startPull
  | .saveSettings => .saveSettings
  | .issueCert _ _ _ => .issueCert
  | .createDnsRecords _ => .createDnsRecords
  | .saveSourcesConfig _ => .saveSourcesConfig
  | .restartGateway _ => .restartGateway
  | .stats _ => .stats
  | .metricsHistory => .metricsHistory
  | .downloads => .downloads
  | .listPulls _ => .listPulls
  | .getSettings => .getSettings
  | .sourcesView _ => .sourcesView
  | .getSourcesConfig => .getSourcesConfig
  | .triggerProbe _ _ => .triggerProbe
  | .clearCache => .clearCache

def Entry.code (rest : Code) : Entry → Code
  | .refused _ => rest
  | .unread _ _ => .outside rest
  | .passed waits => outsides waits rest
  | .blob hex landing => proxyBlob hex landing rest
  | .manifest found stored waits => proxyManifest found stored waits rest
  | .startWarm waits blobs => Locks.startWarm waits blobs rest
  | .startPull call => .outside (call.code rest)
  | .saveSettings => .outside (brief .settingsLock 1 rest)
  | .issueCert running lookups task => Locks.issueCert running lookups task rest
  | .createDnsRecords waits => outsides waits rest
  | .saveSourcesConfig saved => .outside (saveSources saved rest)
  | .restartGateway waits => .spawn [] (outsides waits .done) rest
  | .stats pool => brief .sources 1 (chunkPlan pool (brief .entries 1 (brief .activeDownloads 1 rest)))
  | .metricsHistory => brief .history 1 rest
  | .downloads => brief .activeDownloads 1 rest
  | .listPulls pulls => Locks.listPulls pulls rest
  | .getSettings => brief .certJob 1 rest
  | .sourcesView pool => brief .sources 1 (weightsSnapshot pool rest)
  | .getSourcesConfig => brief .sources 1 rest
  | .triggerProbe pool probes => brief .sources 1 (.spawn [] (probeAll pool probes) rest)
  | .clearCache => brief .activeDownloads 1 (brief .evictLock 1 (brief .entries 1 rest))

def sample (pool : Nat) : Code :=
  let after : Code := brief .sources 1 (weightsSnapshot pool (brief .history 1 .done))
  .attempt .activeDownloads 1 (.release .activeDownloads after) after

/-- What comes in: a request, with a permit of its route where its router has the limit, and the rounds of
the two loops that run for themselves. -/
inductive Arrival where
  | request (limited : Bool) (entry : Entry)
  | sampler (pool : Nat)
  | prober (pool : Nat) (probes : List Bool)

def Arrival.script : Arrival → Code
  | .request true entry =>
      .acquire (.route entry.handler) 1 (entry.code (.release (.route entry.handler) .done))
  | .request false entry => entry.code .done
  | .sampler pool => sample pool
  | .prober pool probes => probeAll pool probes

section Order

variable {setup : Setup}

structure Fits (setup : Setup) (held : List Lock) (script : Code) : Prop where
  orderly : setup.ranks.Orderly held script
  deep : setup.ranks.Deep script

/-- What is held is at most on a level. -/
def Within (highest : Nat) (held : List Lock) : Prop :=
  ∀ other ∈ held, level other ≤ highest

variable {held : List Lock} {rest : Code}

theorem Within.mono {low high : Nat} (within : Within low held) (order : low ≤ high) : Within high held := by
  intro other member
  exact Nat.le_trans (within other member) order

theorem Within.below {highest : Nat} (within : Within highest held) {lock : Lock}
    (high : highest < level lock) : ∀ other ∈ held, level other < level lock := by
  intro other member
  exact Nat.lt_of_le_of_lt (within other member) high

theorem within_nil (highest : Nat) : Within highest [] := by
  intro other member
  cases member

theorem within_cons {highest : Nat} {lock : Lock} (low : level lock ≤ highest) (within : Within highest held) :
    Within highest (lock :: held) := by
  intro other member
  rcases List.mem_cons.mp member with same | old
  · rw [same]
    exact low
  · exact within other old

theorem filter_head {lock : Lock} (above : ∀ other ∈ held, level other < level lock) :
    (lock :: held).filter (fun other => other ≠ lock) = held := by
  have kept : held.filter (fun other => other ≠ lock) = held := by
    apply List.filter_eq_self.mpr
    intro other member
    have lower := above other member
    rw [decide_eq_true_eq]
    intro same
    rw [same] at lower
    omega
  rw [List.filter_cons_of_neg (by simp), kept]

theorem one_le_capacity (setup : Setup) (lock : Lock) : 1 ≤ setup.capacity lock := by
  cases lock with
  | route handler => exact setup.positive
  | permits download =>
      change 1 ≤ (Sources.chunkPlanFor (setup.throughput download)).2
      unfold Sources.chunkPlanFor
      split
      · decide
      · exact Nat.le_trans (by decide : 1 ≤ Sources.concurrencyMin) (Nat.le_max_left _ _)
  | stats pool | weights pool | sources => exact (by decide : 1 ≤ maxReads)
  | _ => exact Nat.le_refl 1

theorem acquire_fits {lock : Lock} {amount : Nat} (small : amount ≤ setup.capacity lock)
    (above : ∀ other ∈ held, level other < level lock) (high : 2 ≤ level lock)
    (fits : Fits setup (lock :: held) rest) : Fits setup held (.acquire lock amount rest) :=
  ⟨⟨small, above, fits.orderly⟩, high, fits.deep⟩

theorem release_fits {lock : Lock} (above : ∀ other ∈ held, level other < level lock)
    (fits : Fits setup held rest) : Fits setup (lock :: held) (.release lock rest) := by
  constructor
  · change setup.ranks.Orderly ((lock :: held).filter (fun other => other ≠ lock)) rest
    rw [filter_head above]
    exact fits.orderly
  · exact fits.deep

theorem attempt_fits {lock : Lock} {amount : Nat} {taken missed : Code}
    (got : Fits setup (lock :: held) taken) (without : Fits setup held missed) :
    Fits setup held (.attempt lock amount taken missed) :=
  ⟨⟨got.orderly, without.orderly⟩, got.deep, without.deep⟩

theorem brief_fits (within : Within 3 held) (lock : Lock) {amount : Nat} (high : 4 ≤ level lock)
    (small : amount ≤ setup.capacity lock) (fits : Fits setup held rest) :
    Fits setup held (brief lock amount rest) := by
  have below := within.below (Nat.lt_of_lt_of_le (Nat.lt_succ_self 3) high)
  exact acquire_fits small below (by omega) (release_fits below fits)

theorem mutex_fits (within : Within 3 held) (lock : Lock) (high : 4 ≤ level lock)
    (fits : Fits setup held rest) : Fits setup held (brief lock 1 rest) :=
  brief_fits within lock high (one_le_capacity setup lock) fits

theorem outside_fits (calm : Within 2 held) (fits : Fits setup held rest) : Fits setup held (.outside rest) :=
  ⟨⟨calm, fits.orderly⟩, fits.deep⟩

theorem outsides_fits (calm : Within 2 held) (waits : Nat) (fits : Fits setup held rest) :
    Fits setup held (outsides waits rest) := by
  induction waits with
  | zero => exact fits
  | succ waits ih => exact outside_fits calm ih

theorem fork_fits {task : Code} (child : Fits setup [] task) (fits : Fits setup held rest) :
    Fits setup held (.fork task rest) :=
  ⟨⟨child.deep, child.orderly, fits.orderly⟩, fits.deep⟩

theorem spawn_fits {task : Code} (child : Fits setup [] task) (fits : Fits setup held rest) :
    Fits setup held (.spawn [] task rest) := by
  constructor
  · change setup.ranks.Orderly (held.filter (fun other => other ∈ [])) task ∧
      setup.ranks.Orderly (held.filter (fun other => other ∉ [])) rest
    simp only [List.not_mem_nil, decide_false, List.filter_false, not_false_eq_true, decide_true, List.filter_true]
    exact ⟨child.orderly, fits.orderly⟩
  · exact fits.deep

theorem done_fits : Fits setup [] .done :=
  ⟨rfl, trivial⟩

theorem both_fits (within : Within 3 held) (pool amount : Nat) (small : amount ≤ maxReads)
    (fits : Fits setup held rest) :
    Fits setup held (.acquire (.stats pool) 1 (.acquire (.weights pool) amount
      (.release (.weights pool) (.release (.stats pool) rest)))) := by
  have below := within.below (show 3 < level (.stats pool) from Nat.lt_succ_self 3)
  have inner := (within_cons (Nat.le_refl (level (.stats pool))) (within.mono (Nat.le_succ 3))).below
    (show 4 < level (.weights pool) from Nat.lt_succ_self 4)
  apply acquire_fits (one_le_capacity setup _) below (by decide : 2 ≤ 4)
  apply acquire_fits small inner (by decide : 2 ≤ 5)
  exact release_fits inner (release_fits below fits)

theorem report_fits (within : Within 3 held) (pool : Nat) (fits : Fits setup held rest) :
    Fits setup held (report pool rest) := by
  apply brief_fits within (.stats pool) (Nat.le_refl 4) (Nat.le_refl maxReads)
  exact both_fits within pool maxReads (Nat.le_refl _) fits

theorem pick_fits (within : Within 3 held) (pool : Nat) (drawn : Bool) (fits : Fits setup held rest) :
    Fits setup held (pick pool drawn rest) := by
  apply mutex_fits within (.weights pool) (Nat.le_succ 4)
  cases drawn with
  | true => exact fits
  | false => exact mutex_fits within (.stats pool) (Nat.le_refl 4) fits

theorem blobToken_fits (calm : Within 2 held) (pool : Nat) (call : TokenCall) (fits : Fits setup held rest) :
    Fits setup held (blobToken pool rest call) := by
  have locked : ∀ {rest : Code}, Fits setup held rest → Fits setup held (brief (.tokenCache pool) 1 rest) :=
    mutex_fits (calm.mono (Nat.le_succ 2)) (.tokenCache pool) (Nat.le_refl 4)
  cases call with
  | unneeded => exact fits
  | atHand => exact locked fits
  | refused waits => exact locked (outsides_fits calm waits fits)
  | fetched => exact locked (outsides_fits calm 2 (locked fits))

theorem part_fits (within : Within 3 held) (number : Nat) (fits : Fits setup held rest) :
    Fits setup held (brief (.part number) 1 rest) :=
  mutex_fits within (.part number) (Nat.le_refl 4) fits

theorem fetchPieces_fits (calm : Within 2 held) (number pieces : Nat) (written : Bool)
    (fits : Fits setup held rest) : Fits setup held (fetchPieces number written pieces rest) := by
  induction pieces with
  | zero =>
      unfold fetchPieces
      split
      · exact outside_fits calm fits
      · exact fits
  | succ pieces ih => exact outside_fits calm (part_fits (calm.mono (Nat.le_succ 2)) number ih)

theorem chunkAttempt_fits (calm : Within 2 held) (pool number : Nat) (attempt : Attempt)
    (fits : Fits setup held rest) : Fits setup held (chunkAttempt pool number attempt rest) := by
  have within := calm.mono (Nat.le_succ 2)
  have landed : Fits setup held (report pool
      (if attempt.fetched then reportThroughput pool attempt.measured rest else rest)) := by
    apply report_fits within
    unfold reportThroughput
    split
    · split
      · exact brief_fits within (.stats pool) (Nat.le_refl 4) (Nat.le_refl maxReads) fits
      · exact fits
    · exact fits
  apply pick_fits within
  split
  · apply blobToken_fits calm
    apply outsides_fits calm
    cases attempt.pieces with
    | none => exact landed
    | some pieces =>
        apply fetchPieces_fits calm
        split
        · exact part_fits within number landed
        · exact landed
  · exact report_fits within pool fits

theorem chunkTask_fits (pool number : Nat) (chunk : Option (List Attempt)) :
    Fits setup [] (chunkTask pool number chunk) := by
  cases chunk with
  | none => exact done_fits
  | some attempts =>
      have below := (within_nil 1).below (show 1 < level (.permits number) from Nat.lt_succ_self 1)
      have calm : Within 2 [Lock.permits number] := within_cons (Nat.le_refl 2) (within_nil 2)
      apply acquire_fits (one_le_capacity setup _) below (Nat.le_refl 2)
      induction attempts with
      | nil => exact release_fits below done_fits
      | cons attempt attempts ih => exact chunkAttempt_fits calm pool number attempt ih

theorem probeOne_fits (pool : Nat) (asked : Bool) : Fits setup [] (probeOne pool asked) := by
  cases asked with
  | false => exact done_fits
  | true =>
      apply outside_fits (within_nil 2)
      exact brief_fits (within_nil 3) (.stats pool) (Nat.le_refl 4) (Nat.le_refl maxReads) done_fits

theorem join_fits (low : Within 1 held) (fits : Fits setup held rest) : Fits setup held (.join rest) :=
  ⟨⟨low, fits.orderly⟩, fits.deep⟩

theorem joins_fits (low : Within 1 held) (tasks : Nat) (fits : Fits setup held rest) :
    Fits setup held (joins tasks rest) := by
  induction tasks with
  | zero => exact fits
  | succ tasks ih => exact join_fits low ih

theorem probeAll_fits (pool : Nat) (probes : List Bool) : Fits setup [] (probeAll pool probes) := by
  have after : Fits setup [] (joins (probes.length + 1) (recomputeWeights pool .done)) := by
    apply joins_fits (within_nil 1)
    exact both_fits (within_nil 3) pool maxReads (Nat.le_refl _) done_fits
  unfold probeAll
  generalize joins (probes.length + 1) (recomputeWeights pool .done) = last at after ⊢
  induction probes with
  | nil => exact after
  | cons asked probes ih => exact fork_fits (probeOne_fits pool asked) ih

theorem collectRound_fits (low : Within 1 held) (number : Nat) (round : List Bool)
    (fits : Fits setup held rest) : Fits setup held (collectRound number round rest) := by
  apply join_fits low
  induction round with
  | nil => exact fits
  | cons sent round ih =>
      apply part_fits (low.mono (by decide)) number
      split
      · exact outside_fits (low.mono (Nat.le_succ 1)) ih
      · exact ih

theorem finish_fits (within : Within 3 held) (number : Nat) (outcome : Outcome) (fits : Fits setup held rest) :
    Fits setup held (finish number rest outcome) := by
  cases outcome with
  | failed => exact fits
  | rejected => exact part_fits within number fits
  | committed evicts =>
      apply part_fits within number
      split
      · exact mutex_fits within .evictLock (Nat.le_refl 4) fits
      · exact fits

theorem download_fits (low : Within 1 held) (course : Download) (fits : Fits setup held rest) :
    Fits setup held (download course rest) := by
  have within : Within 3 held := low.mono (by decide)
  have removal : Fits setup [] (brief .activeDownloads 1 .done) :=
    mutex_fits (within_nil 3) .activeDownloads (Nat.le_refl 4) done_fits
  have ended := finish_fits within course.number course.outcome (spawn_fits removal fits)
  have collected : Fits setup held (course.rounds.foldr (collectRound course.number)
      (finish course.number (.spawn [] (brief .activeDownloads 1 .done) rest) course.outcome)) := by
    induction course.rounds with
    | nil => exact ended
    | cons round rounds ih => exact collectRound_fits low course.number round ih
  unfold download
  split
  · apply mutex_fits within (.stats course.pool) (Nat.le_refl 4)
    split
    · apply mutex_fits within .activeDownloads (Nat.le_refl 4)
      induction course.chunks with
      | nil => exact collected
      | cons chunk chunks ih => exact fork_fits (chunkTask_fits course.pool course.number chunk) ih
    · exact fits
  · exact fits

theorem flight_below (ground : Within 0 held) (hex : String) :
    ∀ other ∈ held, level other < level (.flight hex) :=
  ground.below (Nat.lt_succ_self 0)

theorem within_flight (ground : Within 0 held) (hex : String) : Within 1 (.flight hex :: held) :=
  within_cons (Nat.le_refl 1) (ground.mono (Nat.le_succ 0))

theorem handOver_fits (ground : Within 0 held) {hex : String} {task : Code}
    (child : Fits setup [.flight hex] task) (fits : Fits setup held rest) :
    Fits setup (.flight hex :: held) (.spawn [.flight hex] task rest) := by
  have differs : ∀ other ∈ held, other ≠ .flight hex := by
    intro other member same
    have low := ground other member
    rw [same] at low
    cases low
  constructor
  · change setup.ranks.Orderly ((Lock.flight hex :: held).filter (fun other => other ∈ [Lock.flight hex])) task ∧
      setup.ranks.Orderly ((Lock.flight hex :: held).filter (fun other => other ∉ [Lock.flight hex])) rest
    have taken : (Lock.flight hex :: held).filter (fun other => other ∈ [Lock.flight hex]) = [.flight hex] := by
      rw [List.filter_cons_of_pos (by simp), List.filter_eq_nil_iff.mpr]
      intro other member
      simpa using differs other member
    have kept : (Lock.flight hex :: held).filter (fun other => other ∉ [Lock.flight hex]) = held := by
      rw [List.filter_cons_of_neg (by simp), List.filter_eq_self.mpr]
      intro other member
      simpa using differs other member
    rw [taken, kept]
    exact ⟨child.orderly, fits.orderly⟩
  · exact fits.deep

theorem landed_fits (ground : Within 0 held) {hex : String} (fits : Fits setup held rest) :
    Fits setup (.flight hex :: held) (.release (.flight hex) rest) :=
  release_fits (flight_below ground hex) fits

theorem downloadTask_fits (hex : String) (course : Download) (told : Bool) :
    Fits setup [.flight hex] (downloadTask hex course told) := by
  have low := within_flight (within_nil 0) hex
  apply download_fits low
  exact outsides_fits (low.mono (Nat.le_succ 1)) _ (landed_fits (within_nil 0) done_fits)

theorem teeTask_fits (hex : String) (waits : Nat) (evicts : Bool) :
    Fits setup [.flight hex] (teeTask hex waits evicts) := by
  have low := within_flight (within_nil 0) hex
  have landed : Fits setup [.flight hex] (.release (.flight hex) .done) := landed_fits (within_nil 0) done_fits
  apply outsides_fits (low.mono (Nat.le_succ 1))
  split
  · exact mutex_fits (low.mono (by decide)) .evictLock (Nat.le_refl 4) landed
  · exact landed

theorem land_fits (ground : Within 0 held) (hex : String) (landing : Landing) (fits : Fits setup held rest) :
    Fits setup (.flight hex :: held) (land hex rest landing) := by
  have low := within_flight ground hex
  have calm : Within 2 (.flight hex :: held) := low.mono (Nat.le_succ 1)
  cases landing with
  | passed waits => exact outsides_fits calm waits (landed_fits ground fits)
  | teed requests waits evicts =>
      apply outsides_fits calm
      exact handOver_fits ground (teeTask_fits hex waits evicts) fits
  | chunked requests course told =>
      apply outsides_fits calm
      apply mutex_fits (low.mono (by decide)) .sources (Nat.le_refl 4)
      exact handOver_fits ground (downloadTask_fits hex course told) fits

theorem proxyBlob_orderly (ground : Within 0 held) (hex : String) (landing : Landing)
    (fits : Fits setup held rest) : setup.ranks.Orderly held (proxyBlob hex landing rest) := by
  have below := ground.below (show 0 < level .inflight by decide)
  refine ⟨Nat.le_refl 1, below, ?_⟩
  change setup.ranks.Orderly ((Lock.inflight :: held).filter (fun other => other ≠ .inflight))
    (.acquire (.flight hex) 1 (land hex rest landing))
  rw [filter_head below]
  exact ⟨Nat.le_refl 1, flight_below ground hex, (land_fits ground hex landing fits).orderly⟩

theorem startWarm_fits (ground : Within 0 held) (waits : Nat) (blobs : List (String × Warming))
    (fits : Fits setup held rest) : Fits setup held (startWarm waits blobs rest) := by
  apply outsides_fits (ground.mono (by decide))
  induction blobs with
  | nil => exact fits
  | cons blob blobs ih =>
      have low := within_flight ground blob.1
      have calm : Within 2 (.flight blob.1 :: held) := low.mono (Nat.le_succ 1)
      apply mutex_fits (ground.mono (by decide)) .inflight (Nat.le_refl 4)
      apply attempt_fits
      · cases blob.2 with
        | skipped waits => exact outsides_fits calm waits (landed_fits ground ih)
        | queued waits course =>
            apply outsides_fits calm
            apply mutex_fits (low.mono (by decide)) .sources (Nat.le_refl 4)
            exact handOver_fits ground (downloadTask_fits blob.1 course false) ih
      · exact ih

theorem proxyManifest_fits (calm : Within 2 held) (found stored : Bool) (waits : Nat)
    (fits : Fits setup held rest) : Fits setup held (proxyManifest found stored waits rest) := by
  have within := calm.mono (Nat.le_succ 2)
  apply mutex_fits within .entries (Nat.le_refl 4)
  split
  · exact fits
  · apply outsides_fits calm
    split
    · exact mutex_fits within .entries (Nat.le_refl 4) fits
    · exact fits

theorem jobs_below (within : Within 3 held) (job : Nat) :
    ∀ other ∈ Lock.jobs :: held, level other < level (.state job) :=
  (within_cons (Nat.le_refl (level .jobs)) (within.mono (Nat.le_succ 3))).below
    (show 4 < level (.state job) from Nat.lt_succ_self 4)

theorem jobs_fits (within : Within 3 held) (fits : Fits setup (.jobs :: held) rest) :
    Fits setup held (.acquire .jobs 1 rest) :=
  acquire_fits (Nat.le_refl 1) (within.below (show 3 < level .jobs from Nat.lt_succ_self 3)) (by decide : 2 ≤ 4)
    fits

theorem jobs_released (within : Within 3 held) (fits : Fits setup held rest) :
    Fits setup (.jobs :: held) (.release .jobs rest) :=
  release_fits (within.below (show 3 < level .jobs from Nat.lt_succ_self 3)) fits

theorem tryStates_fits (within : Within 3 held) (pulls : List Nat) (fits : Fits setup (.jobs :: held) rest) :
    Fits setup (.jobs :: held) (pulls.foldr tryState rest) := by
  induction pulls with
  | nil => exact fits
  | cons job pulls ih => exact attempt_fits (release_fits (jobs_below within job) ih) ih

theorem runJob_fits (run : PullRun) : Fits setup [] (runJob run) := by
  have locked : ∀ {rest : Code}, Fits setup [] rest → Fits setup [] (brief (.state run.job) 1 rest) :=
    mutex_fits (within_nil 3) (.state run.job) (Nat.le_succ 4)
  have retagged : Fits setup [] (retagging run.job run.retag) := by
    cases run.retag with
    | plain => exact done_fits
    | unpulled => exact locked done_fits
    | renamed waits => exact locked (locked (outsides_fits (within_nil 2) waits (locked done_fits)))
  unfold runJob
  induction run.lines with
  | nil =>
      rw [List.foldr_nil]
      split
      · exact locked (locked retagged)
      · exact locked retagged
  | cons line lines ih =>
      rw [List.foldr_cons]
      split
      · exact locked ih
      · exact outside_fits (within_nil 2) ih

theorem pullCall_fits (within : Within 3 held) (call : PullCall) (fits : Fits setup held rest) :
    Fits setup held (call.code rest) := by
  apply jobs_fits within
  apply tryStates_fits within
  apply jobs_released within
  cases call.started with
  | none => exact fits
  | some started =>
      apply jobs_fits within
      apply tryStates_fits within
      apply jobs_released within
      exact spawn_fits (runJob_fits started.2) fits

theorem listPulls_fits (within : Within 3 held) (pulls : List Nat) (fits : Fits setup held rest) :
    Fits setup held (listPulls pulls rest) := by
  apply jobs_fits within
  induction pulls with
  | nil => exact jobs_released within fits
  | cons job pulls ih =>
      have below := jobs_below within job
      exact acquire_fits (Nat.le_refl 1) below (by decide : 2 ≤ 5) (release_fits below ih)

theorem certTask_fits (run : CertRun) : Fits setup [] (certTask run) := by
  have ended : Fits setup [] (outsides run.unreported (brief .certJob 1 (outsides run.restarts .done))) := by
    apply outsides_fits (within_nil 2)
    exact mutex_fits (within_nil 3) .certJob (Nat.le_refl 4) (outsides_fits (within_nil 2) _ done_fits)
  unfold certTask
  induction run.messages with
  | nil => exact ended
  | cons before messages ih =>
      apply outsides_fits (within_nil 2)
      exact attempt_fits (release_fits ((within_nil 3).below (show 3 < level .certJob by decide)) ih) ih

theorem issueCert_fits (calm : Within 2 held) (running : Bool) (lookups : Nat)
    (task : Option CertRun) (fits : Fits setup held rest) :
    Fits setup held (issueCert running lookups task rest) := by
  apply mutex_fits (calm.mono (Nat.le_succ 2)) .certJob (Nat.le_refl 4)
  split
  · exact fits
  · apply outsides_fits calm
    cases task with
    | none => exact fits
    | some run => exact spawn_fits (certTask_fits run) fits

theorem saveSources_fits (within : Within 3 held) (saved : Option (Nat × List Bool))
    (fits : Fits setup held rest) : Fits setup held (saveSources saved rest) := by
  have below := within.below (show 3 < level .sources from Nat.lt_succ_self 3)
  have released : Fits setup (.sources :: held) (.release .sources rest) := release_fits below fits
  apply acquire_fits (Nat.le_refl maxReads) below (by decide : 2 ≤ 4)
  cases saved with
  | none => exact released
  | some saved => exact spawn_fits (probeAll_fits saved.1 saved.2) released

theorem entry_orderly (entry : Entry) (within : Within 3 held)
    (ground : immediate entry.handler = false → Within 0 held) (fits : Fits setup held rest) :
    setup.ranks.Orderly held (entry.code rest) := by
  have locked : ∀ {lock : Lock} {rest : Code}, level lock = 4 → Fits setup held rest →
      Fits setup held (brief lock 1 rest) := by
    intro lock rest high fits
    exact mutex_fits within lock (Nat.le_of_eq high.symm) fits
  have calm : immediate entry.handler = false → Within 2 held := fun slow => (ground slow).mono (by decide)
  cases entry with
  | refused handler => exact fits.orderly
  | unread handler slow => exact (outside_fits (calm slow) fits).orderly
  | passed waits => exact (outsides_fits (calm rfl) waits fits).orderly
  | blob hex landing => exact proxyBlob_orderly (ground rfl) hex landing fits
  | manifest found stored waits => exact (proxyManifest_fits (calm rfl) found stored waits fits).orderly
  | startWarm waits blobs => exact (startWarm_fits (ground rfl) waits blobs fits).orderly
  | startPull call => exact (outside_fits (calm rfl) (pullCall_fits within call fits)).orderly
  | saveSettings => exact (outside_fits (calm rfl) (locked rfl fits)).orderly
  | issueCert running lookups task => exact (issueCert_fits (calm rfl) running lookups task fits).orderly
  | createDnsRecords waits => exact (outsides_fits (calm rfl) waits fits).orderly
  | saveSourcesConfig saved => exact (outside_fits (calm rfl) (saveSources_fits within saved fits)).orderly
  | restartGateway waits =>
      exact (spawn_fits (outsides_fits (within_nil 2) waits done_fits) fits).orderly
  | stats pool => exact (locked rfl (locked rfl (locked rfl (locked rfl fits)))).orderly
  | metricsHistory | downloads | getSettings | getSourcesConfig => exact (locked rfl fits).orderly
  | listPulls pulls => exact (listPulls_fits within pulls fits).orderly
  | sourcesView pool => exact (locked rfl (both_fits within pool 1 (by decide) fits)).orderly
  | triggerProbe pool probes => exact (locked rfl (spawn_fits (probeAll_fits pool probes) fits)).orderly
  | clearCache => exact (locked rfl (locked rfl (locked rfl fits))).orderly

theorem sample_fits (pool : Nat) : Fits setup [] (sample pool) := by
  have after : Fits setup [] (brief .sources 1 (weightsSnapshot pool (brief .history 1 .done))) := by
    apply mutex_fits (within_nil 3) .sources (Nat.le_refl 4)
    apply both_fits (within_nil 3) pool 1 (by decide)
    exact mutex_fits (within_nil 3) .history (Nat.le_refl 4) done_fits
  exact attempt_fits (release_fits ((within_nil 3).below (show 3 < level .activeDownloads by decide)) after) after

theorem arrival_orderly (setup : Setup) (arrival : Arrival) : setup.ranks.Orderly [] arrival.script := by
  cases arrival with
  | sampler pool => exact (sample_fits pool).orderly
  | prober pool probes => exact (probeAll_fits pool probes).orderly
  | request limited entry =>
      cases limited with
      | false =>
          apply entry_orderly entry (within_nil 3) _ done_fits
          intro _
          exact within_nil 0
      | true =>
          have low : level (.route entry.handler) ≤ 3 := by
            change (if immediate entry.handler then 3 else 0) ≤ 3
            split <;> decide
          have nothing : ∀ other ∈ ([] : List Lock), level other < level (.route entry.handler) := by
            intro other member
            cases member
          refine ⟨setup.positive, nothing, ?_⟩
          apply entry_orderly entry (within_cons low (within_nil 3))
          · intro slow
            apply within_cons _ (within_nil 0)
            simp [level, slow]
          · exact release_fits nothing done_fits

end Order

/-- What the gateway lets in, in any order and any number. -/
def Served : Event Lock → Prop
  | .enter script => ∃ arrival : Arrival, script = arrival.script
  | _ => True

theorem sound_served {setup : Setup} {events : List (Event Lock)} {final : State Lock}
    (served : ∀ event ∈ events, Served event)
    (ran : Machine.run setup.ranks.step State.empty events = some final) : Sound setup.ranks final := by
  apply sound_run sound_empty _ ran
  intro event member
  have allowed := served event member
  cases event with
  | enter script =>
      obtain ⟨arrival, same⟩ := allowed
      subst same
      exact arrival_orderly setup arrival
  | advance _ | collect _ _ | grant _ | drop _ => trivial

inductive Lasting : Lock → Prop where
  | route (handler : Handler) (slow : immediate handler = false) : Lasting (.route handler)
  | flight (hex : String) : Lasting (.flight hex)
  | permits (download : Nat) : Lasting (.permits download)

theorem lasting_of_low {lock : Lock} (low : level lock ≤ 2) : Lasting lock := by
  cases lock with
  | route handler =>
      apply Lasting.route
      by_contra quick
      rw [Bool.not_eq_false] at quick
      simp [level, quick] at low
  | flight hex => exact .flight hex
  | permits number => exact .permits number
  | _ => exact absurd low (by simp [level])

/-- No deadlock. From every state the gateway can be in, the tasks that are there take a bounded number of
steps and come by themselves to where nothing moves; there every chain of waiting ends at a task that waits
for an upstream, a client or the daemon, and the only locks that are waited for are the flight of a digest,
the permits of a download and those of a route whose handler waits for the outside. -/
theorem gateway_never_deadlocks (setup : Setup) (events : List (Event Lock)) (final : State Lock)
    (served : ∀ event ∈ events, Served event)
    (ran : Machine.run setup.ranks.step State.empty events = some final) :
    (∀ later last, (∀ event ∈ later, ∀ script, event ≠ .enter script) →
      Machine.run setup.ranks.step final later = some last → later.length ≤ final.work) ∧
    (∃ later last, Machine.run setup.ranks.step final later = some last ∧
      Machine.Along setup.ranks.step Inner final later ∧ Quiet setup.ranks last) ∧
    (Quiet setup.ranks final →
      (∀ index, Busy final index →
        ∃ last, Relation.ReflTransGen (Waits final) index last ∧ AtOutside final last) ∧
      ∀ (index : Nat) (task : FairLocks.Task Lock) (lock : Lock), final.tasks[index]? = some task →
        task.WaitsFor lock → Lasting lock) := by
  have sound := sound_served served ran
  refine ⟨?_, exists_quiet sound, ?_⟩
  · intro later last inside went
    have bounded := run_bounded sound inside went
    omega
  · intro quiet
    refine ⟨fun index busy => quiet_outside sound quiet busy, ?_⟩
    intro index task lock found waits
    exact lasting_of_low (quiet_low sound quiet found waits)

def Arrival.quick : Arrival → Bool
  | .request _ entry => immediate entry.handler
  | .sampler _ => true
  | .prober _ _ => false

section Quick

variable {setup : Setup} {rest : Code}

theorem brief_aloof {lock : Lock} {amount : Nat} (high : level lock = 4) (aloof : Aloof setup.ranks rest) :
    Aloof setup.ranks (brief lock amount rest) := by
  refine ⟨?_, aloof⟩
  change 2 < level lock
  omega

theorem snapshot_aloof (pool : Nat) (aloof : Aloof setup.ranks rest) :
    Aloof setup.ranks (weightsSnapshot pool rest) :=
  ⟨(by decide : 2 < 4), (by decide : 2 < 5), aloof⟩

theorem listPulls_aloof (pulls : List Nat) (aloof : Aloof setup.ranks rest) :
    Aloof setup.ranks (listPulls pulls rest) := by
  refine ⟨(by decide : 2 < 4), ?_⟩
  induction pulls with
  | nil => exact aloof
  | cons job pulls ih => exact ⟨(by decide : 2 < 5), ih⟩

theorem entry_aloof (entry : Entry) (quick : immediate entry.handler = true) (aloof : Aloof setup.ranks rest) :
    Aloof setup.ranks (entry.code rest) := by
  cases entry with
  | unread handler slow =>
      change immediate handler = true at quick
      rw [slow] at quick
      cases quick
  | passed _ | blob _ _ | manifest _ _ _ | startWarm _ _ | startPull _ | saveSettings | issueCert _ _ _
  | createDnsRecords _ | saveSourcesConfig _ => cases quick
  | refused handler => exact aloof
  | restartGateway waits => exact aloof
  | stats pool => exact brief_aloof rfl (brief_aloof rfl (brief_aloof rfl (brief_aloof rfl aloof)))
  | metricsHistory | downloads | getSettings | getSourcesConfig => exact brief_aloof rfl aloof
  | listPulls pulls => exact listPulls_aloof pulls aloof
  | sourcesView pool => exact brief_aloof rfl (snapshot_aloof pool aloof)
  | triggerProbe pool probes => exact brief_aloof rfl aloof
  | clearCache => exact brief_aloof rfl (brief_aloof rfl (brief_aloof rfl aloof))

theorem arrival_aloof (setup : Setup) {arrival : Arrival} (quick : arrival.quick = true) :
    Aloof setup.ranks arrival.script := by
  cases arrival with
  | prober pool probes => cases quick
  | sampler pool =>
      have after : Aloof setup.ranks (brief .sources 1 (weightsSnapshot pool (brief .history 1 .done))) :=
        brief_aloof rfl (snapshot_aloof pool (brief_aloof rfl trivial))
      exact ⟨after, after⟩
  | request limited entry =>
      cases limited with
      | false => exact entry_aloof entry quick trivial
      | true =>
          refine ⟨?_, entry_aloof entry quick trivial⟩
          have at_once : immediate entry.handler = true := quick
          change 2 < if immediate entry.handler then 3 else 0
          rw [if_pos at_once]
          decide

end Quick

/-- A stalled upstream, client or daemon holds up no request that does not wait for one itself: whatever the
tasks before and beside it do, it is through as soon as nothing moves any more. -/
theorem quick_requests_unhindered (setup : Setup) (front back : List (Event Lock)) (arrival : Arrival)
    (start final : State Lock) (quick : arrival.quick = true)
    (served : ∀ event ∈ front ++ back, Served event)
    (reached : Machine.run setup.ranks.step State.empty front = some start)
    (ran : Machine.run setup.ranks.step start (.enter arrival.script :: back) = some final)
    (quiet : Quiet setup.ranks final) :
    ∃ task, final.tasks[start.tasks.length]? = some task ∧ task.rest = .done := by
  have whole : Machine.run setup.ranks.step State.empty (front ++ .enter arrival.script :: back) =
      some final := Machine.run_through reached ran
  have allowed : ∀ event ∈ front ++ .enter arrival.script :: back, Served event := by
    intro event member
    rcases List.mem_append.mp member with early | late
    · exact served event (List.mem_append_left _ early)
    · rcases List.mem_cons.mp late with same | later
      · rw [same]
        exact ⟨arrival, rfl⟩
      · exact served event (List.mem_append_right _ later)
  have sound := sound_served allowed whole
  obtain ⟨entered, taken, went⟩ := Machine.run_cons_some ran
  cases taken
  have there : StaysAloof setup.ranks start.tasks.length (start.push (fresh arrival.script none)) :=
    ⟨fresh arrival.script none, List.getElem?_concat_length, arrival_aloof setup quick⟩
  obtain ⟨task, found, aloof⟩ : StaysAloof setup.ranks start.tasks.length final :=
    Machine.run_invariant _ (fun _ _ _ stays step => aloof_step stays step) there went
  exact ⟨task, found, aloof_quiet sound quiet found aloof⟩

def sampleSetup : Setup := ⟨2, by decide, fun _ => 0⟩

def stalled : List (Event Lock) :=
  .enter (Arrival.request true (.blob "a" (.passed 1))).script :: List.replicate 4 (.advance 0)

def behind : List (Event Lock) :=
  .enter (Arrival.request true (.blob "a" (.passed 1))).script :: List.replicate 4 (.advance 1)

def shown : List (Event Lock) := List.replicate 10 (.advance 1)

theorem stalled_served : ∀ event ∈ stalled, Served event := by
  intro event member
  rcases List.mem_cons.mp member with same | later
  · rw [same]
    exact ⟨_, rfl⟩
  · rw [List.eq_of_mem_replicate later]
    trivial

theorem behind_served : ∀ event ∈ stalled ++ behind, Served event := by
  intro event member
  rcases List.mem_append.mp member with early | late
  · exact stalled_served event early
  · rcases List.mem_cons.mp late with same | later
    · rw [same]
      exact ⟨_, rfl⟩
    · rw [List.eq_of_mem_replicate later]
      trivial

/-- With the first request stalled, the second waits for it. -/
theorem gateway_never_deadlocks_stalled : ∃ final,
    Machine.run sampleSetup.ranks.step State.empty (stalled ++ behind) = some final ∧
      Waits final 1 0 ∧ AtOutside final 0 ∧
      ∃ later last, Machine.run sampleSetup.ranks.step final later = some last ∧
        Machine.Along sampleSetup.ranks.step Inner final later ∧ Quiet sampleSetup.ranks last := by
  obtain ⟨final, ran⟩ : ∃ final, Machine.run sampleSetup.ranks.step State.empty (stalled ++ behind) =
      some final := ⟨_, rfl⟩
  obtain ⟨_, settles, _⟩ := gateway_never_deadlocks sampleSetup (stalled ++ behind) final behind_served ran
  cases ran
  refine ⟨_, rfl, ?_, ⟨_, _, rfl, rfl⟩, settles⟩
  exact .lock rfl ⟨rfl, _, _, rfl⟩ rfl (List.mem_cons_self)

theorem collect_none {setup : Setup} {state : State Lock} {index other : Nat} {task : FairLocks.Task Lock}
    (found : state.tasks[index]? = some task) (apart : ∀ next, task.rest ≠ .join next) :
    setup.ranks.step state (.collect index other) = none := by
  change state.tasks[index]?.bind
    (fun task => state.tasks[other]?.bind (state.collect index other task)) = none
  rw [found, Option.bind_some, Option.bind_eq_none_iff]
  intro child _
  unfold State.collect
  split
  · rename_i next head _
    exact absurd head (apart next)
  · rfl

theorem quiet_shown {queue : Lock → List Nat} (empty : ∀ lock, queue lock = []) (waiting : FairLocks.Task Lock)
    (next : Code) (away : waiting.rest = .outside next) :
    Quiet sampleSetup.ranks ⟨[waiting, ⟨.done, [], false, none⟩], queue⟩ := by
  intro event inner
  cases event with
  | enter script | drop index => cases inner
  | advance index =>
      match index with
      | 0 => exact absurd ⟨waiting, next, rfl, away⟩ inner
      | 1 => rfl
      | index + 2 => rfl
  | collect index other =>
      match index with
      | 0 => exact collect_none rfl (by simp [away])
      | 1 => exact collect_none rfl (by simp)
      | index + 2 => rfl
  | grant lock =>
      change sampleSetup.ranks.grant _ lock = none
      simp [Ranks.grant, empty lock]

theorem quick_requests_unhindered_stats : ∃ start final,
    Machine.run sampleSetup.ranks.step State.empty stalled = some start ∧
      Machine.run sampleSetup.ranks.step start
        (.enter (Arrival.request true (.stats 0)).script :: shown) = some final ∧
      ∃ task, final.tasks[1]? = some task ∧ task.rest = .done := by
  obtain ⟨start, reached⟩ : ∃ start,
      Machine.run sampleSetup.ranks.step State.empty stalled = some start := ⟨_, rfl⟩
  obtain ⟨final, ran⟩ : ∃ final, Machine.run sampleSetup.ranks.step start
      (.enter (Arrival.request true (.stats 0)).script :: shown) = some final := by
    cases reached
    exact ⟨_, rfl⟩
  have served : ∀ event ∈ stalled ++ shown, Served event := by
    intro event member
    rcases List.mem_append.mp member with early | late
    · exact stalled_served event early
    · rw [List.eq_of_mem_replicate late]
      trivial
  have quiet : Quiet sampleSetup.ranks final := by
    cases reached
    cases ran
    exact quiet_shown (fun _ => rfl) _ _ rfl
  have ended := quick_requests_unhindered sampleSetup stalled shown (.request true (.stats 0)) start final rfl
    served reached ran quiet
  refine ⟨start, final, reached, ran, ?_⟩
  cases reached
  exact ended

end WebProxy.Locks

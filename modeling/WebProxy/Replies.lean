import WebProxy.Commit

/-! What a client of `proxy_blob` gets while the blob is downloaded: the channel behind the response
body, beside everything that happens on disk to the digest. -/

namespace WebProxy.Replies

open ByteFile (Bytes)
open FetchChunk (BodyItem delivered complete)
open Attempts (Store Job)
open Bitmap (Plan)
open Download (Attempt)
open Digest (hexEncode letterDigest letterKey sampleSha256)

/-- A response body as its client has it. `announced` is the Content-Length, `listening` ends with the
first send that fails, and `unchecked` is the body of `stream_to_channel`. -/
structure Reply where
  announced : Option Nat
  items : List BodyItem
  listening : Bool
  unchecked : Bool
  deriving DecidableEq, Repr

/-- The disk, the body of the running task when it has a client, and the bodies that are over. -/
structure State where
  store : Store
  reply : Option Reply
  past : List Reply

/-- `respond` and `warm` spawn `chunks::download`, `tee` and `stream` are the two beginnings of
`tee_blob_to_cache`. `disk` is a step of the running task or a removal, `fail` a `?` of `download`
before the commit; `taken` says whether the client still takes the item. -/
inductive Event where
  | respond (digest : String) (total totalBps : Nat)
  | warm (digest : String) (total totalBps : Nat)
  | tee
  | stream
  | disk (event : Attempts.Event)
  | teePiece (data : Bytes) (taken : Bool)
  | relay (item : BodyItem) (taken : Bool)
  | relayEnd
  | fail
  | kill
  deriving DecidableEq, Repr

def Reply.open (announced : Option Nat) (unchecked : Bool) : Reply := ⟨announced, [], true, unchecked⟩

def Reply.send (reply : Reply) (item : BodyItem) (taken : Bool) : Reply :=
  if reply.listening && taken then { reply with items := reply.items ++ [item] }
  else { reply with listening := false }

def Reply.collect (reply : Reply) (before after : Attempt) : Reply :=
  if before.sent.length < after.sent.length then
    reply.send (.data (after.sent.drop before.sent.length)) true
  else { reply with listening := after.connected }

def Reply.close (reply : Reply) (whole : Bool) : Reply := if whole then reply else reply.send .error true

def State.finish (state : State) (store : Store) (whole : Bool) : State :=
  { store := store, reply := none, past := state.past ++ (state.reply.map (Reply.close · whole)).toList }

/-- Whether a step ends the task: with success after the commit, and with an error elsewhere. -/
def ending (before after : Store) : Option Bool :=
  match before.job, after.job with
  | .idle, _ => none
  | .renamed, .idle => some true
  | .teeVerified _, .idle => some before.part.isSome
  | _, .idle => some false
  | _, _ => none

def Reply.follow (reply : Reply) (before after : Store) : Reply :=
  match before.job, after.job with
  | .chunked _ _ attempt, .chunked _ _ next => reply.collect attempt next
  | _, _ => reply

def State.follow (state : State) (after : Store) : State :=
  match ending state.store after with
  | some whole => state.finish after whole
  | none => { state with store := after, reply := state.reply.map (Reply.follow · state.store after) }

/-- The steps of a task, but for its beginning, and the removals. A task has a sender when there is a
client. -/
def inner (client : Bool) : Attempts.Event → Bool
  | .stat _ _ _ | .teeCreate | .teePiece _ | .kill => false
  | .openPart connected => connected == client
  | _ => true

def failing : Job → Bool
  | .stated _ _ _ _ | .planned _ _ | .chunked _ _ _ | .verified _ => true
  | _ => false

def step (sha256 : Bytes → Bytes) (hex : String) (state : State) : Event → Option State
  | .respond digest total totalBps =>
      if state.reply.isNone then
        (Attempts.step sha256 hex state.store (.stat digest total totalBps)).map (fun store =>
          { state with store := store, reply := some (Reply.open (some total) false) })
      else none
  | .warm digest total totalBps =>
      if state.reply.isNone then
        (Attempts.step sha256 hex state.store (.stat digest total totalBps)).map (fun store =>
          { state with store := store })
      else none
  | .tee =>
      if state.reply.isNone then
        (Attempts.step sha256 hex state.store .teeCreate).map (fun store =>
          { state with store := store, reply := some (Reply.open none false) })
      else none
  | .stream =>
      match state.reply, state.store.job with
      | none, .idle => some { state with reply := some (Reply.open none true) }
      | _, _ => none
  | .disk event =>
      if inner state.reply.isSome event then
        (Attempts.step sha256 hex state.store event).map state.follow
      else none
  | .teePiece data taken =>
      (Attempts.step sha256 hex state.store (.teePiece data)).map (fun store =>
        { state with store := store, reply := state.reply.map (Reply.send · (.data data) taken) })
  | .relay item taken =>
      match state.reply, state.store.job with
      | some reply, .idle =>
          if reply.unchecked && reply.listening then
            some { state with reply := some (reply.send item taken) }
          else none
      | _, _ => none
  | .relayEnd =>
      match state.reply with
      | some reply => if reply.unchecked then some (state.finish state.store true) else none
      | none => none
  | .fail =>
      if failing state.store.job then some (state.finish { state.store with job := .idle } false) else none
  | .kill => some (state.finish { state.store with job := .idle } false)

def start (part sidecar : Option Bytes) : State := ⟨Store.found part sidecar, none, []⟩

/-- The body is the content the key names, and as long as it was announced. -/
structure Whole (sha256 : Bytes → Bytes) (hex : String) (reply : Reply) : Prop where
  named : hexEncode (sha256 (delivered reply.items)) = hex
  length : ∀ total, reply.announced = some total → (delivered reply.items).length = total

def Running (sha256 : Bytes → Bytes) (hex : String) (reply : Reply) : Job → Prop
  | .stated digest total _ _ =>
      Digest.sha256Hex digest = some hex ∧ reply = Reply.open (some total) false
  | .planned digest plan =>
      Digest.sha256Hex digest = some hex ∧ reply = Reply.open (some plan.total) false
  | .chunked digest plan attempt =>
      Digest.sha256Hex digest = some hex ∧ reply.announced = some plan.total ∧
        complete reply.items = true ∧ delivered reply.items = attempt.sent ∧
        reply.listening = attempt.connected
  | .verified _ | .renamed | .teeVerified _ => reply.listening = true → Whole sha256 hex reply
  | .teeing _ hashed _ =>
      reply.announced = none ∧ complete reply.items = true ∧
        (reply.listening = true → delivered reply.items = hashed)
  | .idle => reply.unchecked = true
  | _ => True

/-- Every body that is over, was checked and did not end in an error is the blob. -/
def Settled (sha256 : Bytes → Bytes) (hex : String) (reply : Reply) : Prop :=
  reply.unchecked = false → reply.listening = true → complete reply.items = true →
    Whole sha256 hex reply

structure Faithful (sha256 : Bytes → Bytes) (hex : String) (state : State) : Prop where
  sound : Attempts.Sound state.store
  running : ∀ reply, state.reply = some reply → Running sha256 hex reply state.store.job
  past : ∀ reply ∈ state.past, Settled sha256 hex reply

inductive Turn (sha256 : Bytes → Bytes) (hex : String) (state : Store) (event : Attempts.Event) :
    Store → Prop where
  | stay {after : Store} (same : after.job = state.job) : Turn sha256 hex state event after
  | load {after : Store} {digest : String} {total totalBps partLen : Nat}
      (was : state.job = .stated digest total totalBps partLen)
      (now : after.job = .planned digest (Plan.resume state.sidecar partLen total totalBps)) :
      Turn sha256 hex state event after
  | openPart {after : Store} {digest : String} {plan : Plan} {file : Bytes} {connected : Bool}
      (asked : event = .openPart connected) (was : state.job = .planned digest plan)
      (now : after.job = .chunked digest plan (Download.start plan file connected)) :
      Turn sha256 hex state event after
  | attempt {after : Store} {digest : String} {plan : Plan} {attempt next : Attempt}
      {inside : Download.Event} (was : state.job = .chunked digest plan attempt)
      (taken : Download.step plan attempt inside = some next)
      (now : after.job = .chunked digest plan next) : Turn sha256 hex state event after
  | verify {after : Store} {digest : String} {plan : Plan} {attempt : Attempt}
      (was : state.job = .chunked digest plan attempt) (ended : attempt.phase = .collected)
      (passed : Digest.downloadVerdict sha256 digest attempt.hashed = .commit)
      (now : after.job = .verified plan.total) : Turn sha256 hex state event after
  | commit {after : Store} {total : Nat} (was : state.job = .verified total)
      (now : after.job = .renamed) : Turn sha256 hex state event after
  | clean {after : Store} (was : state.job = .renamed) (now : after.job = .idle) :
      Turn sha256 hex state event after
  | teeEnd {after : Store} {file hashed : Bytes} {total : Nat}
      (was : state.job = .teeing file hashed total)
      (passed : Digest.teeVerdict sha256 hex hashed = .commit)
      (now : after.job = .teeVerified total) : Turn sha256 hex state event after
  | teeCommit {after : Store} {total : Nat} (was : state.job = .teeVerified total)
      (now : after.job = .idle) : Turn sha256 hex state event after
  | lose {after : Store} (was : state.job ≠ .idle)
      (now : after.job = .rejected ∨ after.job = .unpaired ∨ after.job = .teeFailed) :
      Turn sha256 hex state event after
  | quit {after : Store} (ends : ending state after = some false) : Turn sha256 hex state event after

variable {sha256 : Bytes → Bytes} {hex : String}

theorem sound_idle (store : Store) : Attempts.Sound { store with job := .idle } :=
  Attempts.sound_of_not_chunked (by simp)

/-- The first answer for the only byte of `a` has a byte too many, which ends up in the committed file; the
client of the second try gets the one byte. -/
def overlongEvents : List Event :=
  [.respond letterDigest 1 0, .disk .load, .disk (.openPart true), .disk (.attempt (.poll 0)),
   .disk (.attempt (.accept 0)), .disk (.attempt (.piece 0 [97, 98])), .disk (.attempt (.finishBody 0)),
   .disk (.attempt (.accept 0)), .disk (.attempt (.piece 0 [97])), .disk (.attempt (.finishBody 0)),
   .disk (.attempt (.join 0)), .disk (.attempt (.save (some 9))), .disk (.attempt (.emit true)),
   .disk (.attempt (.emit true)), .disk (.attempt .leave), .disk .verify, .disk .rename,
   .disk .removeSidecar]

end WebProxy.Replies

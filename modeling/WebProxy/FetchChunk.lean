import WebProxy.Url

/-! One ranged fetch of `chunks.rs`: the redirect loop, the checks on the final response and
the loop that writes its body into the part file. -/

namespace WebProxy.FetchChunk

open ByteFile (Bytes writeAt readExact byte)

inductive BodyItem where
  | data (piece : Bytes)
  | error
  deriving DecidableEq, Repr

/-- An upstream response. Header values are the readable ones: a header that is absent or not
visible ASCII is `none`. -/
structure Response where
  status : Nat
  location : Option String
  contentRange : Option String
  body : List BodyItem
  deriving DecidableEq, Repr

inductive Answer where
  | response (response : Response)
  | failed
  | timedOut
  deriving DecidableEq, Repr

inductive FetchError where
  | timedOut (offset : Nat)
  | send
  | maxRedirects (offset : Nat)
  | missingLocation
  | join
  | offAllowlist (offset : Nat) (host : String)
  | rangeNotSatisfiable (offset : Nat)
  | ignoredRange (offset : Nat)
  | http (offset status : Nat)
  | contentRangeStart (offset start : Nat)
  | read (offset : Nat)
  | shortRead (offset got length : Nat)
  deriving DecidableEq, Repr

structure Request where
  url : Url
  range : Nat × Nat
  bearer : Option String
  deriving DecidableEq, Repr

def isRedirection (status : Nat) : Bool := 300 ≤ status && status < 400

def isSuccess (status : Nat) : Bool := 200 ≤ status && status < 300

def maxRedirects : Nat := 5

/-- `reqwest` sends nothing for a scheme other than http and https. -/
def sendable (url : Url) : Bool := url.scheme = "http" || url.scheme = "https"

structure Target where
  token : String
  offset : Nat
  length : Nat
  allowedHosts : List String

def Target.request (target : Target) (url : Url) (useAuth : Bool) : Request :=
  ⟨url, (target.offset, target.offset + target.length - 1),
    if useAuth && target.token ≠ "" then some target.token else none⟩

def Target.follows (target : Target) (current next : Url) : Bool :=
  next.host = current.host ||
    target.allowedHosts.contains (Text.toAsciiLowercase (next.host.getD ""))

structure Trace where
  requests : List Request
  outcome : Except FetchError Response

/-- The redirect loop. Each round consumes one answer; where the list ends the upstream stays
silent and the send times out. -/
def redirectLoop (join : Url → String → Option Url) (target : Target) :
    List Answer → Url → Bool → Nat → Trace
  | [], current, useAuth, _ =>
      if sendable current then ⟨[target.request current useAuth], .error (.timedOut target.offset)⟩
      else ⟨[], .error .send⟩
  | answer :: answers, current, useAuth, redirects =>
      if sendable current then
        let request := target.request current useAuth
        match answer with
        | .timedOut => ⟨[request], .error (.timedOut target.offset)⟩
        | .failed => ⟨[request], .error .send⟩
        | .response response =>
            if isRedirection response.status then
              if maxRedirects ≤ redirects then ⟨[request], .error (.maxRedirects target.offset)⟩
              else
                match response.location with
                | none => ⟨[request], .error .missingLocation⟩
                | some location =>
                    match join current location with
                    | none => ⟨[request], .error .join⟩
                    | some next =>
                        if target.follows current next then
                          let rest := redirectLoop join target answers next
                            (useAuth && next.host = current.host) (redirects + 1)
                          ⟨request :: rest.requests, rest.outcome⟩
                        else
                          ⟨[request], .error (.offAllowlist target.offset
                            (Text.toAsciiLowercase (next.host.getD "")))⟩
            else ⟨[request], .ok response⟩
      else ⟨[], .error .send⟩

def reportedStart (contentRange : String) : Option Nat :=
  (Text.stripPrefix contentRange "bytes ").bind
    (fun rest => Text.parseU64 (rest.toList.takeWhile (· ≠ '-')))

def checkResponse (offset : Nat) (response : Response) : Except FetchError Unit :=
  if response.status = 416 then .error (.rangeNotSatisfiable offset)
  else if response.status = 200 then .error (.ignoredRange offset)
  else if isSuccess response.status = false then .error (.http offset response.status)
  else
    match response.contentRange.bind reportedStart with
    | some start => if start ≠ offset then .error (.contentRangeStart offset start) else .ok ()
    | none => .ok ()

structure Writer where
  cursor : Nat
  received : Nat
  deriving DecidableEq, Repr

def Writer.open (offset : Nat) : Writer := ⟨offset, 0⟩

/-- One round of the write loop: seek to the cursor, write the piece, advance. -/
def Writer.write (writer : Writer) (file piece : Bytes) : Writer × Bytes :=
  (⟨writer.cursor + piece.length, writer.received + piece.length⟩, writeAt file writer.cursor piece)

/-- The length check, which comes after every write. -/
def Writer.close (writer : Writer) (offset length : Nat) : Except FetchError Nat :=
  if writer.received ≠ length then .error (.shortRead offset writer.received length)
  else .ok writer.received

def writeBody (offset length : Nat) : List BodyItem → Writer → Bytes → Bytes × Except FetchError Nat
  | [], writer, file => (file, writer.close offset length)
  | .error :: _, _, file => (file, .error (.read offset))
  | .data piece :: rest, writer, file =>
      writeBody offset length rest (writer.write file piece).1 (writer.write file piece).2

structure Fetched where
  requests : List Request
  file : Bytes
  result : Except FetchError Nat

def fetchChunk (join : Url → String → Option Url) (target : Target) (initialUrl : Url)
    (answers : List Answer) (file : Bytes) : Fetched :=
  let trace := redirectLoop join target answers initialUrl true 0
  match trace.outcome with
  | .error error => ⟨trace.requests, file, .error error⟩
  | .ok response =>
      match checkResponse target.offset response with
      | .error error => ⟨trace.requests, file, .error error⟩
      | .ok () =>
          let written := writeBody target.offset target.length response.body
            (Writer.open target.offset) file
          ⟨trace.requests, written.1, written.2⟩

def delivered : List BodyItem → Bytes
  | [] => []
  | .error :: _ => []
  | .data piece :: rest => piece ++ delivered rest

def complete : List BodyItem → Bool
  | [] => true
  | .error :: _ => false
  | .data _ :: rest => complete rest

theorem writeBody_eq (offset length : Nat) (body : List BodyItem) (writer : Writer) (file : Bytes) :
    writeBody offset length body writer file =
      (writeAt file writer.cursor (delivered body),
       if complete body then
         Writer.close ⟨writer.cursor + (delivered body).length,
           writer.received + (delivered body).length⟩ offset length
       else .error (.read offset)) := by
  induction body generalizing writer file with
  | nil => simp [writeBody, delivered, complete]
  | cons item rest ih =>
      cases item with
      | error => simp [writeBody, delivered, complete]
      | data piece =>
          rw [writeBody, ih]
          simp only [Writer.write, delivered, complete, List.length_append, ByteFile.writeAt_append]
          simp only [Nat.add_assoc]

def accepted (join : Url → String → Option Url) (target : Target) (initialUrl : Url)
    (answers : List Answer) : Option Response :=
  match (redirectLoop join target answers initialUrl true 0).outcome with
  | .error _ => none
  | .ok response =>
      match checkResponse target.offset response with
      | .error _ => none
      | .ok () => some response

theorem fetchChunk_refused {join : Url → String → Option Url} {target : Target} {initialUrl : Url}
    {answers : List Answer} (refused : accepted join target initialUrl answers = none)
    (file : Bytes) :
    (fetchChunk join target initialUrl answers file).file = file ∧
      ∀ count, (fetchChunk join target initialUrl answers file).result ≠ .ok count := by
  unfold accepted at refused
  unfold fetchChunk
  cases ended : (redirectLoop join target answers initialUrl true 0).outcome with
  | error error => simp [ended]
  | ok response =>
      cases checked : checkResponse target.offset response with
      | error error => simp [ended, checked]
      | ok passed => simp [ended, checked] at refused

theorem fetchChunk_accepted {join : Url → String → Option Url} {target : Target} {initialUrl : Url}
    {answers : List Answer} {response : Response}
    (reached : accepted join target initialUrl answers = some response) (file : Bytes) :
    (fetchChunk join target initialUrl answers file).file =
        writeAt file target.offset (delivered response.body) ∧
      ∀ count, (fetchChunk join target initialUrl answers file).result = .ok count ↔
        complete response.body = true ∧ (delivered response.body).length = target.length ∧
          count = target.length := by
  unfold accepted at reached
  unfold fetchChunk
  cases ended : (redirectLoop join target answers initialUrl true 0).outcome with
  | error error => simp [ended] at reached
  | ok found =>
      cases checked : checkResponse target.offset found with
      | error error => simp [ended, checked] at reached
      | ok passed =>
          simp only [ended, checked, Option.some.injEq] at reached
          subst reached
          simp only [ended, checked, writeBody_eq, Writer.open, true_and]
          intro count
          by_cases whole : complete found.body = true
          · simp only [whole, if_true, Writer.close, Nat.zero_add, true_and]
            by_cases size : (delivered found.body).length = target.length
            · simp [size, eq_comm]
            · simp [size]
          · simp [whole]

/-- What a fetch of `[offset, offset + length)` may do to the part file: no byte outside the
range changes, the file does not grow past it, and success means the range holds the body. -/
structure Isolated (join : Url → String → Option Url) (target : Target) (initialUrl : Url)
    (answers : List Answer) (file : Bytes) : Prop where
  outside : ∀ place, place < target.offset ∨ target.offset + target.length ≤ place →
    byte (fetchChunk join target initialUrl answers file).file place = byte file place
  extent : (fetchChunk join target initialUrl answers file).file.length ≤
    max file.length (target.offset + target.length)
  success : ∀ count, (fetchChunk join target initialUrl answers file).result = .ok count →
    count = target.length ∧ ∃ response, accepted join target initialUrl answers = some response ∧
      readExact (fetchChunk join target initialUrl answers file).file target.offset target.length =
        some (delivered response.body)

/-- Whatever the body delivers past the requested length is already in the file there. -/
def OverrunPresent (target : Target) (file : Bytes) (response : Response) : Prop :=
  ∀ k, target.length ≤ k → k < (delivered response.body).length →
    target.offset + k < file.length ∧ byte file (target.offset + k) = byte (delivered response.body) k

theorem writeAt_outside_iff (target : Target) (file : Bytes) (response : Response) :
    ((∀ place, place < target.offset ∨ target.offset + target.length ≤ place →
        byte (writeAt file target.offset (delivered response.body)) place = byte file place) ∧
      (writeAt file target.offset (delivered response.body)).length ≤
        max file.length (target.offset + target.length)) ↔
    OverrunPresent target file response := by
  constructor
  · intro effect k past inside
    rcases effect with ⟨outside, extent⟩
    have some_body : delivered response.body ≠ [] := by
      intro empty
      simp [empty] at inside
    have reach := ByteFile.end_le_writeAt_length file target.offset _ some_body
    refine ⟨by omega, ?_⟩
    have same := outside (target.offset + k) (Or.inr (by omega))
    rw [ByteFile.byte_writeAt, if_pos (by omega), Nat.add_sub_cancel_left] at same
    exact same.symm
  · intro present
    constructor
    · intro place away
      rw [ByteFile.byte_writeAt]
      split
      · rename_i written
        have matched := (present (place - target.offset) (by omega) (by omega)).2
        rw [← matched]
        congr 1
        omega
      · rfl
    · by_cases long : target.length < (delivered response.body).length
      · -- the last delivered byte lies inside the file, so the file does not grow
        have last := (present ((delivered response.body).length - 1) (by omega) (by omega)).1
        exact ByteFile.writeAt_length_le _ _ _ _ (by omega) (by omega)
      · exact ByteFile.writeAt_length_le _ _ _ _ (by omega) (by omega)

/-- A fetch is isolated exactly when the response never reaches the write loop or its body
leaves everything past the requested range as it was. -/
theorem fetchChunk_isolated_iff (join : Url → String → Option Url) (target : Target)
    (initialUrl : Url) (answers : List Answer) (file : Bytes) :
    Isolated join target initialUrl answers file ↔
      ∀ response, accepted join target initialUrl answers = some response →
        OverrunPresent target file response := by
  cases reached : accepted join target initialUrl answers with
  | none =>
      obtain ⟨same, failed⟩ := fetchChunk_refused reached file
      constructor
      · intro _ response impossible
        cases impossible
      · intro _
        refine ⟨?_, ?_, ?_⟩
        · intro place _
          rw [same]
        · rw [same]
          exact Nat.le_max_left _ _
        · intro count returned
          exact absurd returned (failed count)
  | some response =>
      obtain ⟨written, succeeded⟩ := fetchChunk_accepted reached file
      have effect := writeAt_outside_iff target file response
      constructor
      · intro isolated found same
        cases same
        have outside := isolated.outside
        have extent := isolated.extent
        rw [written] at outside extent
        exact effect.mp ⟨outside, extent⟩
      · intro present
        obtain ⟨outside, extent⟩ := effect.mpr (present response rfl)
        refine ⟨by rw [written]; exact outside, by rw [written]; exact extent, ?_⟩
        intro count returned
        obtain ⟨_, size, total⟩ := (succeeded count).mp returned
        refine ⟨total, response, reached, ?_⟩
        rw [written, ← size]
        exact ByteFile.readExact_writeAt_self file target.offset _

/-- A 206 that answers a one-byte range with two bytes overwrites the byte after the range. -/
theorem overlong_body_overwrites_neighbour :
    ¬ Isolated (fun _ _ => none) ⟨"", 0, 1, []⟩
      ⟨"https", "", none, some "registry-1.docker.io", none, "/v2/library/alpine/blobs/x", none⟩
      [.response ⟨206, none, some "bytes 0-0/2", [.data [7, 8]]⟩] [1, 2] := by
  intro isolated
  exact absurd (isolated.outside 1 (Or.inr (by decide))) (by decide)

end WebProxy.FetchChunk

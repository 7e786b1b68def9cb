import WebProxy.ByteRange
import WebProxy.Responses

/-! `cached_blob_response` and the stream behind its body, `file_stream_range`. -/

namespace WebProxy.CachedBlob

open ByteFile (Bytes)
open ByteRange (Fault sub parseSingleByteRange)
open FetchChunk (BodyItem delivered complete)
open Redirects (getAll)
open Responses (Response utf8 headerValue contentLength dockerContentDigest errorResponse)

def fileReadBuffer : Nat := 64 * 1024

/-- A blob as the system reads it. One read returns some of the bytes it is asked for, at a
position one more than `segment` says at most; a seek or a read may fail. -/
structure BlobFile where
  content : Bytes
  segment : Nat → Nat
  seekFails : Nat → Bool
  readFails : Nat → Bool

def BlobFile.Healthy (file : BlobFile) : Prop :=
  ∀ position, file.seekFails position = false ∧ file.readFails position = false

/-- The loop of `read_exact`: it reads on until the slice is full and fails at the end of the
file. -/
def BlobFile.fill (file : BlobFile) : Nat → Nat → Nat → Option Bytes
  | _, _, 0 => some []
  | 0, _, _ + 1 => none
  | rounds + 1, position, left + 1 =>
      if file.readFails position then none
      else
        match (file.content.drop position).take (min (file.segment position + 1) (left + 1)) with
        | [] => none
        | byte :: more =>
            (file.fill rounds (position + (more.length + 1)) (left - more.length)).map
              (fun rest => byte :: more ++ rest)

def BlobFile.readExact (file : BlobFile) (cursor want : Nat) : Option Bytes :=
  if file.seekFails cursor then none else file.fill want cursor want

def streamLoop (file : BlobFile) (buffer : Nat) : Nat → Nat → Nat → Except Fault (List BodyItem)
  | 0, _, _ => .error .endless
  | rounds + 1, cursor, remaining =>
      if remaining = 0 then .ok []
      else
        let want := min remaining buffer
        match file.readExact cursor want with
        | some chunk => do
            let left ← sub remaining want
            let rest ← streamLoop file buffer rounds (cursor + want) left
            return .data chunk :: rest
        | none => do
            let rest ← streamLoop file buffer rounds cursor 0
            return .error :: rest

def fileStreamRange (file : BlobFile) (buffer offset len : Nat) : Except Fault (List BodyItem) :=
  streamLoop file buffer (len + 1) offset len

/-- How `File::open` ends. -/
inductive Opened where
  | file (file : BlobFile)
  | notFound
  | failed

def contentRange : String := "content-range"

def acceptRanges : String := "accept-ranges"

def digestValue (digest : String) : Bytes := (headerValue digest).getD (utf8 "unknown")

def rangeText (start last size : Nat) : String :=
  "bytes " ++ toString start ++ "-" ++ toString last ++ "/" ++ toString size

def rangeNotSatisfiable (size : Nat) (digest : String) : Response :=
  match headerValue ("bytes */" ++ toString size) with
  | some value => ⟨416, [(contentRange, value), (dockerContentDigest, digestValue digest)], []⟩
  | none => ⟨416, [], []⟩

def blobHeaders (digest : String) (len : Nat) (rangeHeader : Option String) : Redirects.HeaderMap :=
  [(contentLength, utf8 (toString len)), (acceptRanges, utf8 "bytes"),
    (dockerContentDigest, digestValue digest)] ++
    ((rangeHeader.bind headerValue).map (fun value => (contentRange, value))).toList

/-- `again` is the second `lookup` after the file has vanished, `passthrough` the response of the
upstream. -/
structure Surroundings where
  buffer : Nat
  opened : Opened
  again : Bool
  passthrough : Response

def Surroundings.respond (surroundings : Surroundings) (head : Bool) (digest : String)
    (status start len : Nat) (rangeHeader : Option String) : Except Fault Response :=
  if head then .ok ⟨status, blobHeaders digest len rangeHeader, []⟩
  else
    match surroundings.opened with
    | .file file => do
        let body ← fileStreamRange file surroundings.buffer start len
        return ⟨status, blobHeaders digest len rangeHeader, body⟩
    | .notFound =>
        if surroundings.again then .ok (errorResponse ⟨503, "cache transient, retry\n"⟩)
        else .ok surroundings.passthrough
    | .failed => .ok (errorResponse Redirects.badGateway)

def cachedBlobResponse (surroundings : Surroundings) (size : Nat) (head : Bool) (digest : String)
    (range : Option String) : Except Fault Response := do
  let parsed ← match range with
    | some value => parseSingleByteRange value size
    | none => .ok none
  match parsed with
  | some (.ok (start, last)) =>
      let span ← sub last start
      surroundings.respond head digest 206 start (span + 1) (some (rangeText start last size))
  | some (.error ()) => return rangeNotSatisfiable size digest
  | none => surroundings.respond head digest 200 0 size none

theorem fill_some {file : BlobFile} {rounds position left : Nat} {got : Bytes}
    (filled : file.fill rounds position left = some got) :
    got = (file.content.drop position).take left ∧ got.length = left := by
  induction rounds generalizing position left got with
  | zero =>
      cases left with
      | zero =>
          cases filled
          exact ⟨rfl, rfl⟩
      | succ left => cases filled
  | succ rounds ih =>
      cases left with
      | zero =>
          cases filled
          exact ⟨rfl, rfl⟩
      | succ left =>
          rw [BlobFile.fill] at filled
          split at filled
          · cases filled
          · split at filled
            · cases filled
            · rename_i byte more piece
              obtain ⟨rest, filledRest, rfl⟩ := Option.map_eq_some_iff.mp filled
              obtain ⟨same, size⟩ := ih filledRest
              have count := congrArg List.length piece
              rw [List.length_take, List.length_drop, List.length_cons] at count
              have cut : byte :: more = (file.content.drop position).take (more.length + 1) := by
                rw [← piece, List.take_eq_take_iff, List.length_drop]
                omega
              have total : left + 1 = more.length + 1 + (left - more.length) := by omega
              constructor
              · rw [total, List.take_add, ← cut, same, List.drop_drop]
              · rw [List.length_append, size, List.length_cons]
                omega

theorem fill_healthy {file : BlobFile} (healthy : file.Healthy) {rounds position left : Nat}
    (enough : left ≤ rounds) (inside : position + left ≤ file.content.length) :
    (file.fill rounds position left).isSome := by
  induction rounds generalizing position left with
  | zero =>
      have empty : left = 0 := by omega
      subst empty
      rfl
  | succ rounds ih =>
      cases left with
      | zero => rfl
      | succ left =>
          rw [BlobFile.fill, (healthy position).2, if_neg (by decide)]
          split
          · rename_i nothing
            have count := congrArg List.length nothing
            rw [List.length_take, List.length_drop, List.length_nil] at count
            omega
          · rename_i byte more piece
            have count := congrArg List.length piece
            rw [List.length_take, List.length_drop, List.length_cons] at count
            rw [Option.isSome_map]
            exact ih (by omega) (by omega)

theorem readExact_some {file : BlobFile} {cursor want : Nat} {chunk : Bytes}
    (read : file.readExact cursor want = some chunk) :
    chunk = (file.content.drop cursor).take want ∧ chunk.length = want := by
  rw [BlobFile.readExact] at read
  split at read
  · cases read
  · exact fill_some read

theorem readExact_healthy {file : BlobFile} (healthy : file.Healthy) {cursor want : Nat}
    (inside : cursor + want ≤ file.content.length) : file.readExact cursor want ≠ none := by
  rw [BlobFile.readExact, (healthy cursor).1, if_neg (by decide)]
  exact Option.isSome_iff_ne_none.mp (fill_healthy healthy (Nat.le_refl _) inside)

/-- A body of the slice: nothing but a beginning of it is sent, all of it unless the body ends in
an error, and there is an error only where the file has one. -/
structure Streams (file : BlobFile) (slice : Bytes) (len : Nat) (body : List BodyItem) : Prop where
  part : delivered body <+: slice
  whole : complete body = true → delivered body = slice
  count : complete body = true → (delivered body).length = len
  healthy : file.Healthy → complete body = true

theorem streamLoop_streams (file : BlobFile) {buffer : Nat} (room : 0 < buffer) (rounds : Nat)
    {cursor remaining : Nat} (enough : remaining < rounds)
    (inside : cursor + remaining ≤ file.content.length) :
    ∃ items, streamLoop file buffer rounds cursor remaining = .ok items ∧
      Streams file ((file.content.drop cursor).take remaining) remaining items := by
  induction rounds generalizing cursor remaining with
  | zero => omega
  | succ rounds ih =>
      rw [streamLoop]
      by_cases finished : remaining = 0
      · subst finished
        exact ⟨[], if_pos rfl, List.prefix_rfl, fun _ => rfl, fun _ => rfl, fun _ => rfl⟩
      · rw [if_neg finished]
        have want := Nat.min_le_left remaining buffer
        have progress : 0 < min remaining buffer := by omega
        cases read : file.readExact cursor (min remaining buffer) with
        | some chunk =>
            obtain ⟨same, size⟩ := readExact_some read
            have after : min remaining buffer ≤ remaining ∧
                cursor + min remaining buffer + (remaining - min remaining buffer) ≤
                  file.content.length := by omega
            obtain ⟨rest, looped, streams⟩ := ih (by omega) after.2
            have slice : (file.content.drop cursor).take remaining = chunk ++
                (file.content.drop (cursor + min remaining buffer)).take
                  (remaining - min remaining buffer) := by
              rw [same, ← List.drop_drop, ← List.take_add, Nat.add_sub_cancel' want]
            refine ⟨.data chunk :: rest, ?_, ?_⟩
            · simp only [read, ByteRange.sub_ok want]
              change Except.bind (streamLoop file buffer rounds (cursor + min remaining buffer)
                (remaining - min remaining buffer)) _ = _
              rw [looped]
              rfl
            · rw [slice]
              refine ⟨?_, ?_, ?_, streams.healthy⟩
              · exact (List.prefix_append_right_inj chunk).mpr streams.part
              · intro ended
                rw [delivered, streams.whole ended]
              · intro ended
                rw [delivered, List.length_append, streams.count ended, size]
                exact Nat.add_sub_cancel' want
        | none =>
            have looped : streamLoop file buffer rounds cursor 0 = .ok [] := by
              cases rounds with
              | zero => omega
              | succ rounds => rw [streamLoop, if_pos rfl]
            refine ⟨[.error], ?_, List.nil_prefix, ?_, ?_, ?_⟩
            · simp only [read, looped]
              rfl
            · intro ended
              cases ended
            · intro ended
              cases ended
            · intro healthy
              exact absurd read (readExact_healthy healthy (by omega))

theorem respond_file {surroundings : Surroundings} (room : 0 < surroundings.buffer)
    {file : BlobFile} (opened : surroundings.opened = .file file) (digest : String)
    (status start len : Nat) (rangeHeader : Option String)
    (inside : start + len ≤ file.content.length) :
    ∃ body, surroundings.respond false digest status start len rangeHeader =
        .ok ⟨status, blobHeaders digest len rangeHeader, body⟩ ∧
      Streams file ((file.content.drop start).take len) len body := by
  obtain ⟨body, looped, streams⟩ := streamLoop_streams file room (len + 1)
    (Nat.lt_succ_self len) inside
  have streamed : fileStreamRange file surroundings.buffer start len = .ok body := looped
  refine ⟨body, ?_, streams⟩
  rw [Surroundings.respond, if_neg (by decide), opened]
  simp only [streamed]
  rfl

theorem digits_plain (number : Nat) {char : Char} (member : char ∈ (toString number).toList) :
    32 ≤ char.toNat ∧ char.toNat ≤ 126 := by
  have spelled : (toString number).toList = Nat.toDigits 10 number := by
    rw [Nat.toString_eq_ofList_toDigits, String.toList_ofList]
  rw [spelled] at member
  have digit := Text.isDigit_iff.mp (Nat.isDigit_of_mem_toDigits (by decide) (by decide) member)
  omega

theorem mark_plain {text : String}
    (plain : text.toList.all (fun char => 32 ≤ char.toNat && char.toNat ≤ 126) = true) {char : Char}
    (member : char ∈ text.toList) : 32 ≤ char.toNat ∧ char.toNat ≤ 126 := by
  simpa using List.all_eq_true.mp plain char member

theorem headerValue_rangeText (start last size : Nat) :
    headerValue (rangeText start last size) = some (utf8 (rangeText start last size)) := by
  apply Responses.headerValue_plain
  intro char member
  simp only [rangeText, String.toList_append, List.mem_append] at member
  rcases member with ((((front | first) | mark) | final) | mark) | total
  · exact mark_plain (by decide) front
  · exact digits_plain start first
  · exact mark_plain (by decide) mark
  · exact digits_plain last final
  · exact mark_plain (by decide) mark
  · exact digits_plain size total

theorem blobHeaders_length (digest : String) (len : Nat) (rangeHeader : Option String) :
    getAll (blobHeaders digest len rangeHeader) contentLength = [utf8 (toString len)] := by
  cases value : rangeHeader.bind headerValue with
  | none => simp [getAll, blobHeaders, value, contentLength, acceptRanges, dockerContentDigest]
  | some bytes =>
      simp [getAll, blobHeaders, value, contentLength, acceptRanges, dockerContentDigest, contentRange]

theorem blobHeaders_range (digest : String) (len start last size : Nat) :
    getAll (blobHeaders digest len (some (rangeText start last size))) contentRange =
      [utf8 (rangeText start last size)] := by
  simp [getAll, blobHeaders, headerValue_rangeText, contentLength, acceptRanges, dockerContentDigest,
    contentRange]

theorem answer_bounds {spec : ByteRange.RangeSpec} {size start last : Nat}
    (accepted : spec.answer size = .ok (start, last)) : start ≤ last ∧ last < size := by
  cases spec with
  | bounded first final =>
      rw [ByteRange.RangeSpec.answer] at accepted
      split at accepted
      · cases accepted
      · split at accepted
        · cases accepted
          omega
        · cases accepted
  | onward first =>
      rw [ByteRange.RangeSpec.answer] at accepted
      split at accepted
      · cases accepted
        omega
      · cases accepted
  | suffix length =>
      rw [ByteRange.RangeSpec.answer] at accepted
      split at accepted
      · cases accepted
        omega
      · cases accepted

inductive Exact (file : BlobFile) (response : Response) : Prop
  | refused : response.status = 416 → response.body = [] → Exact file response
  | whole : response.status = 200 →
      getAll response.headers contentLength = [utf8 (toString file.content.length)] →
      Streams file file.content file.content.length response.body → Exact file response
  | part (start last : Nat) : response.status = 206 → start ≤ last → last < file.content.length →
      getAll response.headers contentLength = [utf8 (toString (last - start + 1))] →
      getAll response.headers contentRange = [utf8 (rangeText start last file.content.length)] →
      Streams file ((file.content.drop start).take (last - start + 1)) (last - start + 1)
        response.body →
      Exact file response

theorem rangeNotSatisfiable_exact (file : BlobFile) (size : Nat) (digest : String) :
    Exact file (rangeNotSatisfiable size digest) := by
  rw [rangeNotSatisfiable]
  split
  · exact .refused rfl rfl
  · exact .refused rfl rfl

theorem whole_exact {file : BlobFile} {body : List BodyItem} (digest : String)
    (streams : Streams file file.content file.content.length body) :
    Exact file ⟨200, blobHeaders digest file.content.length none, body⟩ :=
  .whole rfl (blobHeaders_length digest file.content.length none) streams

theorem part_exact {file : BlobFile} {body : List BodyItem} (digest : String) {start last : Nat}
    (ordered : start ≤ last) (inside : last < file.content.length)
    (streams : Streams file ((file.content.drop start).take (last - start + 1)) (last - start + 1)
      body) :
    Exact file ⟨206, blobHeaders digest (last - start + 1)
      (some (rangeText start last file.content.length)), body⟩ :=
  .part start last rfl ordered inside (blobHeaders_length digest (last - start + 1) _)
    (blobHeaders_range digest (last - start + 1) start last file.content.length) streams

/-- A GET of a cached blob is answered without an underflow or an endless loop, by a refusal, the
whole blob or exactly the range in its headers. -/
theorem cached_range_exact (surroundings : Surroundings) (file : BlobFile) (digest : String)
    (range : Option String) (room : 0 < surroundings.buffer)
    (opened : surroundings.opened = .file file) :
    ∃ response, cachedBlobResponse surroundings file.content.length false digest range = .ok response ∧
      Exact file response := by
  have all : ∃ response,
      surroundings.respond false digest 200 0 file.content.length none = .ok response ∧
        Exact file response := by
    obtain ⟨body, sent, streams⟩ :=
      respond_file room opened digest 200 0 file.content.length none (by omega)
    rw [List.drop_zero, List.take_length] at streams
    exact ⟨_, sent, whole_exact digest streams⟩
  cases range with
  | none => exact all
  | some value =>
      rw [cachedBlobResponse, ByteRange.parseSingleByteRange_eq]
      cases read : ByteRange.readRange value with
      | none => exact all
      | some spec =>
          cases answer : spec.answer file.content.length with
          | error refused =>
              refine ⟨rangeNotSatisfiable file.content.length digest, ?_,
                rangeNotSatisfiable_exact ..⟩
              simp only [Option.map_some, answer]
              rfl
          | ok bounds =>
              obtain ⟨start, last⟩ := bounds
              obtain ⟨ordered, inside⟩ := answer_bounds answer
              obtain ⟨body, sent, streams⟩ := respond_file room opened digest 206 start
                (last - start + 1) (some (rangeText start last file.content.length)) (by omega)
              refine ⟨_, ?_, part_exact digest ordered inside streams⟩
              simp only [Option.map_some, answer]
              change Except.bind (sub last start) _ = _
              rw [ByteRange.sub_ok ordered]
              exact sent

def sampleFile : BlobFile := ⟨[10, 20, 30, 40], fun _ => 0, fun _ => false, fun _ => false⟩

def sampleSurroundings : Surroundings := ⟨fileReadBuffer, .file sampleFile, false, ⟨502, [], []⟩⟩

theorem cached_range_exact_sample :
    (∃ response, cachedBlobResponse sampleSurroundings 4 false "sha256:ab" (some "bytes=1-2") =
        .ok response ∧ Exact sampleFile response) ∧
      (cachedBlobResponse sampleSurroundings 4 false "sha256:ab" (some "bytes=1-2")).map
        (fun response => (response.status, delivered response.body)) = .ok (206, [20, 30]) :=
  ⟨cached_range_exact sampleSurroundings sampleFile "sha256:ab" (some "bytes=1-2") (by decide) rfl,
    by decide +kernel⟩

end WebProxy.CachedBlob

import WebProxy.Redirects

/-! The responses the gateway sends back: which upstream headers it copies, how a body is read
under a limit, and how a header is set from text. -/

namespace WebProxy.Responses

open ByteFile (Bytes)
open FetchChunk (BodyItem)
open Redirects (HeaderMap UpstreamResponse ErrorResponse getAll remove)

/-- The gateway's own response; a body may be an upstream's stream. -/
structure Response where
  status : Nat
  headers : HeaderMap
  body : List BodyItem
  deriving DecidableEq, Repr

def contentType : String := "content-type"

def contentLength : String := "content-length"

def wwwAuthenticate : String := "www-authenticate"

def dockerContentDigest : String := "docker-content-digest"

def utf8 (text : String) : Bytes := text.toList.flatMap String.utf8EncodeChar

def headerValue (text : String) : Option Bytes :=
  if (utf8 text).all (fun byte => (32 ≤ byte && byte ≠ 127) || byte = 9) then some (utf8 text)
  else none

def insert (headers : HeaderMap) (name : String) (value : Bytes) : HeaderMap :=
  remove headers name ++ [(name, value)]

def errorResponse (error : ErrorResponse) : Response :=
  if error.body = "" then ⟨error.status, [], []⟩
  else ⟨error.status, [(contentType, utf8 "text/plain; charset=utf-8")], [.data (utf8 error.body)]⟩

def isResponseHeaderAllowed (name : String) : Bool :=
  if name ∈ ["connection", "transfer-encoding", "set-cookie", wwwAuthenticate, Redirects.location,
      contentLength] then false
  else
    !(["proxy-authenticate", "proxy-authorization", "keep-alive", "te", "trailer", "upgrade",
        "forwarded"].contains name) && !"x-forwarded-".toList.isPrefixOf name.toList

def copyResponseHeaders (source target : HeaderMap) : HeaderMap :=
  target ++ source.filter (fun field => isResponseHeaderAllowed field.1)

def streamingResponse (upstream : UpstreamResponse) (body : List BodyItem) (head : Bool) : Response :=
  ⟨upstream.status, copyResponseHeaders upstream.headers [], if head then [] else body⟩

def maxManifestResponseBytes : Nat := 16 * 1024 * 1024

def readCapped (maxBytes : Nat) : Bytes → List BodyItem → Option Bytes
  | body, [] => some body
  | _, .error :: _ => none
  | body, .data piece :: rest =>
      if maxBytes < body.length + piece.length then none
      else readCapped maxBytes (body ++ piece) rest

def readResponseBodyCapped (items : List BodyItem) (maxBytes : Nat) : Option Bytes :=
  readCapped maxBytes [] items

theorem getAll_insert (headers : HeaderMap) (name : String) (value : Bytes) :
    getAll (insert headers name value) name = [value] := by
  have none_left : getAll (remove headers name) name = [] := by
    simp [getAll, remove, List.filter_filter]
  have parts : getAll (insert headers name value) name =
      getAll (remove headers name) name ++ [value] := by
    simp [getAll, insert]
  rw [parts, none_left, List.nil_append]

theorem utf8_length_le (text : String) : (utf8 text).length ≤ 4 * text.toList.length := by
  have spread : ∀ chars : List Char,
      (chars.flatMap String.utf8EncodeChar).length ≤ 4 * chars.length := by
    intro chars
    induction chars with
    | nil => exact Nat.le_refl 0
    | cons char rest ih =>
        have size := char.utf8Size_le_four
        rw [List.flatMap_cons, List.length_append, String.length_utf8EncodeChar, List.length_cons]
        omega
  exact spread text.toList

theorem headerValue_plain {text : String}
    (plain : ∀ char ∈ text.toList, 32 ≤ char.toNat ∧ char.toNat ≤ 126) :
    headerValue text = some (utf8 text) := by
  rw [headerValue, if_pos]
  rw [List.all_eq_true]
  intro byte member
  obtain ⟨char, inside, encoded⟩ := List.mem_flatMap.mp member
  have range := plain char inside
  have single : char.utf8Size = 1 := by
    rw [Char.utf8Size_eq_one_iff, UInt32.le_iff_toNat_le]
    have small : char.val.toNat ≤ 126 := range.2
    exact Nat.le_trans small (by decide)
  rw [String.utf8EncodeChar_eq_singleton single, List.mem_singleton] at encoded
  have value : byte.toNat = char.toNat := by
    rw [encoded, UInt32.toNat_toUInt8]
    exact Nat.mod_eq_of_lt (show char.toNat < 2 ^ 8 by omega)
  simp [UInt8.le_iff_toNat_le, ← UInt8.toNat_inj, value]
  omega

theorem streamingResponse_unchallenged (upstream : UpstreamResponse) (body : List BodyItem)
    (head : Bool) :
    getAll (streamingResponse upstream body head).headers wwwAuthenticate = [] := by
  simp only [getAll, streamingResponse, copyResponseHeaders, List.nil_append, List.map_eq_nil_iff,
    List.filter_eq_nil_iff, List.mem_filter]
  intro field kept named
  have same : field.1 = wwwAuthenticate := by simpa using named
  rw [same] at kept
  exact absurd kept.2 (by decide)

theorem readCapped_some {maxBytes : Nat} {items : List BodyItem} {start body : Bytes}
    (inside : start.length ≤ maxBytes) (read : readCapped maxBytes start items = some body) :
    body = start ++ FetchChunk.delivered items ∧ FetchChunk.complete items = true ∧
      body.length ≤ maxBytes := by
  induction items generalizing start with
  | nil =>
      cases read
      exact ⟨by simp [FetchChunk.delivered], rfl, inside⟩
  | cons item rest ih =>
      cases item with
      | error => cases read
      | data piece =>
          rw [readCapped] at read
          split at read
          · cases read
          · have fits : (start ++ piece).length ≤ maxBytes := by
              rw [List.length_append]
              omega
            obtain ⟨whole, ended, bounded⟩ := ih fits read
            refine ⟨?_, ?_, bounded⟩
            · rw [whole, FetchChunk.delivered, List.append_assoc]
            · simpa [FetchChunk.complete] using ended

end WebProxy.Responses

import WebProxy.Library.ByteFile
import WebProxy.Library.Table

/-! `ManifestCache` of `cache.rs`: manifests under a key for a limited time and in a limited
number of bytes. -/

namespace WebProxy.Manifests

open ByteFile (Bytes)

abbrev Key := String × String × String

/-- A stored manifest. `author` is a ghost: the number of the call that stored it. -/
structure CachedManifest where
  contentType : Option String
  dockerDigest : Option String
  body : Bytes
  stored : Nat
  author : Nat
  deriving DecidableEq, Repr

structure ManifestCache where
  ttl : Nat
  maxEntries : Nat
  maxBytes : Nat
  bytes : Nat
  entries : List (Key × CachedManifest)
  distinct : (entries.map (·.1)).Nodup

namespace ManifestCache

def new (ttl maxEntries maxBytes : Nat) : ManifestCache :=
  ⟨ttl, maxEntries, maxBytes, 0, [], List.nodup_nil⟩

/-- `entry.stored.elapsed() < self.ttl`. -/
def fresh (ttl now : Nat) (entry : CachedManifest) : Bool := now - entry.stored < ttl

def lookup (entries : List (Key × CachedManifest)) (key : Key) : Option CachedManifest :=
  (entries.find? (fun entry => entry.1 = key)).map (·.2)

def get (cache : ManifestCache) (now : Nat) (key : Key) : Option CachedManifest :=
  (lookup cache.entries key).filter (fresh cache.ttl now)

def live (cache : ManifestCache) (now : Nat) : List (Key × CachedManifest) :=
  cache.entries.filter (fun entry => fresh cache.ttl now entry.2)

def insert (entries : List (Key × CachedManifest)) (key : Key) (value : CachedManifest) :
    List (Key × CachedManifest) :=
  entries.filter (fun entry => entry.1 ≠ key) ++ [(key, value)]

theorem live_distinct (cache : ManifestCache) (now : Nat) : ((cache.live now).map (·.1)).Nodup :=
  (List.filter_sublist.map _).nodup cache.distinct

theorem insert_distinct {entries : List (Key × CachedManifest)} (key : Key) (value : CachedManifest)
    (distinct : (entries.map (·.1)).Nodup) : ((insert entries key value).map (·.1)).Nodup := by
  rw [insert, List.map_append, List.nodup_append]
  refine ⟨(List.filter_sublist.map _).nodup distinct, List.nodup_singleton _, ?_⟩
  intro first member second last same
  obtain ⟨entry, kept, rfl⟩ := List.mem_map.mp member
  rw [List.map_singleton, List.mem_singleton] at last
  have other := (List.mem_filter.mp kept).2
  rw [same, last] at other
  simp at other

/-- The bytes the map would hold with the value in it. The bodies lie in memory together, so their
sum fits a `usize` and the saturating operations do not saturate. -/
def nextBytes (entries : List (Key × CachedManifest)) (key : Key) (value : CachedManifest) : Nat :=
  Weights.weight (fun entry => entry.2.body.length) entries -
    ((lookup entries key).map (·.body.length)).getD 0 + value.body.length

def put (cache : ManifestCache) (now : Nat) (key : Key) (value : CachedManifest) : ManifestCache :=
  if cache.maxBytes < value.body.length then cache
  else if cache.maxEntries ≤ (cache.live now).length ∨
      cache.maxBytes < nextBytes (cache.live now) key value then
    { cache with
      bytes := value.body.length
      entries := insert [] key value
      distinct := insert_distinct key value List.nodup_nil }
  else
    { cache with
      bytes := nextBytes (cache.live now) key value
      entries := insert (cache.live now) key value
      distinct := insert_distinct key value (cache.live_distinct now) }

def clear (cache : ManifestCache) : ManifestCache :=
  { cache with bytes := 0, entries := [], distinct := List.nodup_nil }

theorem get_some {cache : ManifestCache} {now : Nat} {key : Key} {value : CachedManifest}
    (found : cache.get now key = some value) : (key, value) ∈ cache.entries := by
  have held : Table.lookup cache.entries key = some value :=
    (Option.filter_eq_some_iff.mp found).1
  exact Table.mem_of_lookup held

theorem mem_insert {entries : List (Key × CachedManifest)} {key : Key} {value : CachedManifest}
    {entry : Key × CachedManifest} (member : entry ∈ insert entries key value) :
    entry = (key, value) ∨ entry ∈ entries := by
  rcases List.mem_append.mp member with kept | last
  · exact Or.inr (List.mem_filter.mp kept).1
  · exact Or.inl (List.mem_singleton.mp last)

/-- What a put can do: it refuses the value, or it inserts it into the live entries or into an
emptied map, and the counter follows. -/
inductive PutMove (cache : ManifestCache) (now : Nat) (key : Key) (value : CachedManifest) :
    ManifestCache → Prop
  | refused : cache.maxBytes < value.body.length → PutMove cache now key value cache
  | flushed : value.body.length ≤ cache.maxBytes →
      (cache.maxEntries ≤ (cache.live now).length ∨
        cache.maxBytes < nextBytes (cache.live now) key value) →
      PutMove cache now key value
        { cache with
          bytes := value.body.length
          entries := insert [] key value
          distinct := insert_distinct key value List.nodup_nil }
  | added : value.body.length ≤ cache.maxBytes → (cache.live now).length < cache.maxEntries →
      nextBytes (cache.live now) key value ≤ cache.maxBytes →
      PutMove cache now key value
        { cache with
          bytes := nextBytes (cache.live now) key value
          entries := insert (cache.live now) key value
          distinct := insert_distinct key value (cache.live_distinct now) }

theorem put_cases {cache next : ManifestCache} {now : Nat} {key : Key} {value : CachedManifest}
    (stored : cache.put now key value = next) : PutMove cache now key value next := by
  rw [← stored, put]
  split
  · rename_i large
    exact .refused large
  · rename_i small
    split
    · rename_i full
      exact .flushed (Nat.le_of_not_lt small) full
    · rename_i fits
      rw [not_or] at fits
      exact .added (Nat.le_of_not_lt small) (Nat.lt_of_not_le fits.1) (Nat.le_of_not_lt fits.2)

theorem mem_put {cache : ManifestCache} {now : Nat} {key : Key} {value : CachedManifest}
    {entry : Key × CachedManifest} (member : entry ∈ (cache.put now key value).entries) :
    entry = (key, value) ∨ entry ∈ cache.entries := by
  generalize stored : cache.put now key value = next at member
  cases put_cases stored with
  | refused _ => exact Or.inr member
  | flushed _ _ =>
      rcases mem_insert member with same | absent
      · exact Or.inl same
      · cases absent
  | added _ _ _ =>
      rcases mem_insert member with same | alive
      · exact Or.inl same
      · exact Or.inr (List.mem_filter.mp alive).1

end ManifestCache

end WebProxy.Manifests

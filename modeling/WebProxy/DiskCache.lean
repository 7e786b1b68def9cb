import WebProxy.Library.Machine
import WebProxy.Library.Weights
import WebProxy.Sources

/-! The byte accounting of `DiskCache`: `init`, `committed`, `evict_old` and `clear`, each run to
completion over the files of the cache directory. -/

namespace WebProxy.Disk

open Weights (weight)

inductive Kind where
  | blob
  | part
  | bitmap
  deriving DecidableEq, Repr

structure Entry where
  hex : String
  kind : Kind
  length : Nat
  modified : Nat
  deriving DecidableEq, Repr

def Entry.name (entry : Entry) : String × Kind := (entry.hex, entry.kind)

def Entry.temporary (entry : Entry) : Bool := entry.kind ≠ .blob

structure Files where
  entries : List Entry
  distinct : (entries.map Entry.name).Nodup

def Files.empty : Files := ⟨[], List.nodup_nil⟩

def Files.keep (files : Files) (kept : Entry → Bool) : Files :=
  ⟨files.entries.filter kept, (List.filter_sublist.map _).nodup files.distinct⟩

theorem put_distinct (files : Files) (entry : Entry) :
    ((entry :: files.entries.filter (fun other => other.name ≠ entry.name)).map Entry.name).Nodup := by
  rw [List.map_cons, List.nodup_cons]
  refine ⟨?_, (files.keep _).distinct⟩
  intro member
  obtain ⟨other, held, same⟩ := List.mem_map.mp member
  simp [same] at held

def Files.put (files : Files) (entry : Entry) : Files :=
  ⟨entry :: files.entries.filter (fun other => other.name ≠ entry.name), put_distinct files entry⟩

def Files.find (files : Files) (name : String × Kind) : Option Entry :=
  files.entries.find? (fun entry => entry.name = name)

/-- The part file takes the name of the blob; the chunked path then removes the sidecar. -/
def Files.rename (files : Files) (part : Entry) (chunked : Bool) : Files :=
  ((files.keep (fun entry => entry.name ≠ (part.hex, .part) ∧
    (chunked = true → entry.name ≠ (part.hex, .bitmap)))).put { part with kind := .blob })

def Entry.blobBytes (entry : Entry) : Nat := if entry.temporary then 0 else entry.length

def scanBytes (files : Files) : Nat := weight Entry.blobBytes files.entries

structure DiskCache where
  files : Files
  maxBytes : Nat
  onDisk : Nat
  now : Nat

/-- `PART_MAX_AGE` in nanoseconds. -/
def partMaxAge : Nat := 3600 * 1000000000

def evictTargetNum : Nat := 9

def evictTargetDen : Nat := 10

def evictTarget (maxBytes : Nat) : Nat := Sources.wrap (maxBytes * evictTargetNum) / evictTargetDen

/-- Temporary files younger than an hour, or dated in the future, are skipped. -/
def Entry.evictable (now : Nat) (entry : Entry) : Bool :=
  !(entry.temporary && now - entry.modified < partMaxAge)

/-- The files of `evict_old` in the order it removes them; the sort is stable. -/
def evictionOrder (now : Nat) (listing : List Entry) : List Entry :=
  (listing.filter (Entry.evictable now)).insertionSort (fun first second => first.modified ≤ second.modified)

structure Eviction where
  attempted : List Entry
  removed : List Entry
  total : Nat

def evictLoop (target : Nat) (removes : Entry → Bool) : List Entry → Nat → Eviction
  | [], total => ⟨[], [], total⟩
  | file :: rest, total =>
      if total ≤ target then ⟨[], [], total⟩
      else if removes file then
        let later := evictLoop target removes rest (total - file.length)
        ⟨file :: later.attempted, file :: later.removed, later.total⟩
      else
        let later := evictLoop target removes rest total
        ⟨file :: later.attempted, later.removed, later.total⟩

def evictOld (removes : Entry → Bool) (listing : List Entry) (cache : DiskCache) : DiskCache :=
  if cache.onDisk ≤ cache.maxBytes then cache
  else
    let eviction := evictLoop (evictTarget cache.maxBytes) removes
      (evictionOrder cache.now listing) cache.onDisk
    { cache with
      files := cache.files.keep (fun entry => entry ∉ eviction.removed)
      onDisk := eviction.total }

def committed (removes : Entry → Bool) (listing : List Entry) (size : Nat) (cache : DiskCache) :
    DiskCache :=
  let counted := { cache with onDisk := cache.onDisk + size }
  if counted.maxBytes < counted.onDisk then evictOld removes listing counted else counted

def clear (cache : DiskCache) : DiskCache :=
  { cache with files := Files.empty, onDisk := 0 }

def init (cache : DiskCache) : DiskCache := { cache with onDisk := scanBytes cache.files }

/-- The operations. `listing` is the order in which the directory is read; `write` and `remove`
are what downloads do to temporary files. -/
inductive Event where
  | init
  | commit (hex : String) (size : Nat) (chunked : Bool) (listing : List Entry)
  | evictOld (listing : List Entry)
  | clear
  | write (hex : String) (kind : Kind) (length : Nat)
  | remove (hex : String) (kind : Kind)
  | tick (elapsed : Nat)
  deriving DecidableEq, Repr

/-- Where a commit stands after the rename: only a digest without a blob is downloaded. -/
def DiskCache.renamed (cache : DiskCache) (hex : String) (chunked : Bool) : Option (Entry × DiskCache) :=
  match cache.files.find (hex, .part), cache.files.find (hex, .blob) with
  | some part, none => some (part, { cache with files := cache.files.rename part chunked })
  | _, _ => none

def step (cache : DiskCache) : Event → Option DiskCache
  | .init => some (init cache)
  | .commit hex size chunked listing =>
      match cache.renamed hex chunked with
      | some (_, next) =>
          if listing.Perm next.files.entries then
            some (committed (fun _ => true) listing size next)
          else none
      | none => none
  | .evictOld listing =>
      if listing.Perm cache.files.entries then some (evictOld (fun _ => true) listing cache) else none
  | .clear => some (clear cache)
  | .write hex kind length =>
      if kind = .blob then none
      else some { cache with files := cache.files.put ⟨hex, kind, length, cache.now⟩ }
  | .remove hex kind =>
      if kind = .blob then none
      else some { cache with files := cache.files.keep (fun entry => entry.name ≠ (hex, kind)) }
  | .tick elapsed => some { cache with now := cache.now + elapsed }

/-- The loop attempts a prefix of the order, the shortest one that brings the counter down to
the target, and subtracts what it removes. -/
theorem evictLoop_spec (target : Nat) (removes : Entry → Bool) (order : List Entry) (total : Nat) :
    let eviction := evictLoop target removes order total
    eviction.attempted = order.take eviction.attempted.length ∧
      eviction.removed = eviction.attempted.filter removes ∧
      eviction.total = total - weight Entry.length eviction.removed ∧
      (eviction.total ≤ target ∨ eviction.attempted = order) ∧
      ∀ count, count < eviction.attempted.length →
        target < total - weight Entry.length ((order.take count).filter removes) := by
  induction order generalizing total with
  | nil => simp [evictLoop]
  | cons file rest ih =>
      simp only [evictLoop]
      split
      · rename_i reached
        simp [reached]
      · rename_i above
        split
        · rename_i removable
          obtain ⟨front, gone, left, ended, needed⟩ := ih (total - file.length)
          refine ⟨?_, ?_, ?_, ?_, ?_⟩
          · simpa using front
          · simpa [removable] using gone
          · rw [Weights.weight_cons, ← Nat.sub_sub]
            exact left
          · simpa using ended
          · intro count below
            cases count with
            | zero => simpa using Nat.not_le.mp above
            | succ count =>
                have more := needed count (by simpa using below)
                simpa [removable, Nat.sub_sub] using more
        · rename_i stuck
          obtain ⟨front, gone, left, ended, needed⟩ := ih total
          refine ⟨?_, ?_, left, ?_, ?_⟩
          · simpa using front
          · simpa [stuck] using gone
          · simpa using ended
          · intro count below
            cases count with
            | zero => simpa using Nat.not_le.mp above
            | succ count =>
                have more := needed count (by simpa using below)
                simpa [stuck] using more

theorem evictTarget_le (maxBytes : Nat) : evictTarget maxBytes ≤ maxBytes := by
  have small : Sources.wrap (maxBytes * evictTargetNum) ≤ maxBytes * evictTargetNum :=
    Nat.mod_le _ _
  simp only [evictTarget, evictTargetNum, evictTargetDen] at small ⊢
  omega

theorem evictionOrder_perm (now : Nat) (listing : List Entry) :
    (evictionOrder now listing).Perm (listing.filter (Entry.evictable now)) :=
  List.perm_insertionSort _ _

theorem Files.nodup (files : Files) : files.entries.Nodup := files.distinct.of_map _

end WebProxy.Disk

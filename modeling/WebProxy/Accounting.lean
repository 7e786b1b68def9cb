import WebProxy.DiskCache

/-! The counter of the cache against the blobs on disk, over whole runs of operations. -/

namespace WebProxy.Disk

open Weights (weight)

/-- The counter is the number `scan_bytes` would compute. -/
def Balanced (cache : DiskCache) : Prop := cache.onDisk = scanBytes cache.files

/-- Removing the file lowers the counter by what it contributed: a blob, or nothing at all. -/
def Entry.counted (entry : Entry) : Bool := !entry.temporary || entry.length = 0

/-- Over capacity, the target is reached by files that precede every aged temporary file with
content. -/
def reachesTarget (cache : DiskCache) (listing : List Entry) : Bool :=
  let order := evictionOrder cache.now listing
  let front := order.takeWhile Entry.counted
  cache.onDisk ≤ cache.maxBytes || front = order ||
    cache.onDisk - weight Entry.length front ≤ evictTarget cache.maxBytes

/-- A commit announces the length of the file it renamed, and no eviction has to go on to a
temporary file with content. -/
def accountable (cache : DiskCache) : Event → Bool
  | .commit hex size chunked listing =>
      match cache.renamed hex chunked with
      | some (part, next) =>
          part.length = size && reachesTarget { next with onDisk := next.onDisk + size } listing
      | none => true
  | .evictOld listing => reachesTarget cache listing
  | _ => true

theorem blobBytes_temporary {entry : Entry} (temporary : entry.temporary = true) :
    entry.blobBytes = 0 := by
  simp [Entry.blobBytes, temporary]

theorem blobBytes_counted {entry : Entry} (counted : entry.counted = true) :
    entry.length = entry.blobBytes := by
  simp only [Entry.counted, Bool.or_eq_true, Bool.not_eq_true', decide_eq_true_eq] at counted
  rcases counted with blob | empty
  · simp [Entry.blobBytes, blob]
  · simp [Entry.blobBytes, empty]

theorem attempted_front {cache : DiskCache} {listing : List Entry}
    (exceeds : ¬ cache.onDisk ≤ cache.maxBytes) (reaches : reachesTarget cache listing = true) :
    (evictLoop (evictTarget cache.maxBytes) (fun _ => true)
      (evictionOrder cache.now listing) cache.onDisk).attempted ⊆
        (evictionOrder cache.now listing).takeWhile Entry.counted := by
  obtain ⟨taken, _, _, _, needed⟩ := evictLoop_spec (evictTarget cache.maxBytes) (fun _ => true)
    (evictionOrder cache.now listing) cache.onDisk
  simp only [List.filter_true] at needed
  have front := List.prefix_iff_eq_take.mp
    (List.takeWhile_prefix (l := evictionOrder cache.now listing) Entry.counted)
  rw [taken, front]
  apply List.take_subset_take_left
  by_contra beyond
  simp only [reachesTarget, Bool.or_eq_true, decide_eq_true_eq, exceeds, false_or] at reaches
  rcases reaches with whole | enough
  · rw [whole, taken, List.length_take] at beyond
    omega
  · have more := needed _ (Nat.lt_of_not_le beyond)
    rw [← front] at more
    omega

theorem removed_counted {cache : DiskCache} {listing : List Entry}
    (exceeds : ¬ cache.onDisk ≤ cache.maxBytes) (reaches : reachesTarget cache listing = true) :
    ∀ entry ∈ (evictLoop (evictTarget cache.maxBytes) (fun _ => true)
      (evictionOrder cache.now listing) cache.onDisk).removed, entry.length = entry.blobBytes := by
  obtain ⟨_, gone, _⟩ := evictLoop_spec (evictTarget cache.maxBytes) (fun _ => true)
    (evictionOrder cache.now listing) cache.onDisk
  rw [gone, List.filter_true]
  intro entry member
  apply blobBytes_counted
  exact List.all_eq_true.mp List.all_takeWhile entry (attempted_front exceeds reaches member)

theorem evictOld_balanced {cache : DiskCache} {listing : List Entry} (balanced : Balanced cache)
    (listed : listing.Perm cache.files.entries) (reaches : reachesTarget cache listing = true) :
    Balanced (evictOld (fun _ => true) listing cache) ∧
      (scanBytes (evictOld (fun _ => true) listing cache).files ≤ cache.maxBytes ∨
        ∀ entry ∈ (evictOld (fun _ => true) listing cache).files.entries,
          entry.evictable cache.now = false) := by
  unfold evictOld
  split
  · rename_i under
    exact ⟨balanced, Or.inl (balanced ▸ under)⟩
  · rename_i exceeds
    have counted := removed_counted exceeds reaches
    obtain ⟨taken, gone, left, ended, _⟩ := evictLoop_spec (evictTarget cache.maxBytes)
      (fun _ => true) (evictionOrder cache.now listing) cache.onDisk
    revert counted taken gone left ended
    generalize evictLoop (evictTarget cache.maxBytes) (fun _ => true)
      (evictionOrder cache.now listing) cache.onDisk = eviction
    intro counted taken gone left ended
    rw [List.filter_true] at gone
    have order := evictionOrder_perm cache.now listing
    have sorted : (evictionOrder cache.now listing).Nodup :=
      order.nodup_iff.mpr ((listed.nodup_iff.mpr cache.files.nodup).filter _)
    have part : eviction.removed ⊆ cache.files.entries := by
      intro entry member
      rw [gone, taken] at member
      exact listed.subset (List.mem_of_mem_filter (order.subset (List.mem_of_mem_take member)))
    have once : eviction.removed.Nodup := by
      rw [gone, taken]
      exact (List.take_sublist _ _).nodup sorted
    have rest := Weights.weight_removed Entry.blobBytes cache.files.nodup once part
    have same : eviction.total = scanBytes
        (cache.files.keep (fun entry => decide (entry ∉ eviction.removed))) := by
      rw [left, Weights.weight_congr counted, balanced]
      simp only [scanBytes, Files.keep]
      omega
    refine ⟨same, ?_⟩
    rcases ended with reached | all
    · left
      rw [← same]
      exact Nat.le_trans reached (evictTarget_le _)
    · right
      intro entry member
      simp only [Files.keep, List.mem_filter, decide_eq_true_eq] at member
      by_contra evictable
      apply member.2
      rw [gone, all]
      apply order.symm.subset
      rw [List.mem_filter]
      exact ⟨listed.symm.subset member.1, by simpa using evictable⟩

theorem scanBytes_keep {files : Files} {kept : Entry → Bool}
    (light : ∀ entry ∈ files.entries, kept entry = false → entry.temporary = true) :
    scanBytes (files.keep kept) = scanBytes files :=
  Weights.weight_filter (fun entry member dropped =>
    blobBytes_temporary (light entry member dropped))

theorem temporary_of_name {entry : Entry} {hex : String} {kind : Kind}
    (named : entry.name = (hex, kind)) (other : kind ≠ .blob) : entry.temporary = true := by
  have same : entry.kind = kind := congrArg Prod.snd named
  simpa [Entry.temporary, same] using other

theorem scanBytes_put {files : Files} {entry : Entry}
    (light : ∀ other ∈ files.entries, other.name = entry.name → other.temporary = true) :
    scanBytes (files.put entry) = entry.blobBytes + scanBytes files := by
  have rest : scanBytes (files.keep (fun other => other.name ≠ entry.name)) = scanBytes files :=
    scanBytes_keep (fun other member dropped => light other member (by simpa using dropped))
  rw [← rest]
  exact Weights.weight_cons _ _ _

theorem find_none {files : Files} {name : String × Kind} (missing : files.find name = none) :
    ∀ entry ∈ files.entries, entry.name ≠ name := by
  intro entry member
  simpa using List.find?_eq_none.mp missing entry member

theorem renamed_scan {cache next : DiskCache} {hex : String} {chunked : Bool} {part : Entry}
    (renamed : cache.renamed hex chunked = some (part, next)) :
    scanBytes next.files = part.length + scanBytes cache.files ∧
      next = { cache with files := next.files } := by
  unfold DiskCache.renamed at renamed
  split at renamed
  · rename_i found held missing
    cases renamed
    have name : part.name = (hex, .part) := by
      simpa using List.find?_some held
    have same : part.hex = hex := congrArg Prod.fst name
    refine ⟨?_, rfl⟩
    simp only [Files.rename]
    rw [scanBytes_put, scanBytes_keep]
    · simp [Entry.blobBytes, Entry.temporary]
    · intro entry _ dropped
      simp only [same, decide_eq_false_iff_not, not_and, Classical.not_imp, Decidable.not_not]
        at dropped
      by_cases isPart : entry.name = (hex, .part)
      · exact temporary_of_name isPart (by decide)
      · exact temporary_of_name (dropped isPart).2 (by decide)
    · intro entry member taken
      rw [same] at taken
      exact absurd taken (find_none missing entry (List.mem_of_mem_filter member))
  · cases renamed

def Bounded (cache : DiskCache) : Prop :=
  scanBytes cache.files ≤ cache.maxBytes ∨
    ∀ entry ∈ cache.files.entries, entry.evictable cache.now = false

theorem evictOld_frame (removes : Entry → Bool) (listing : List Entry) (cache : DiskCache) :
    (evictOld removes listing cache).maxBytes = cache.maxBytes ∧
      (evictOld removes listing cache).now = cache.now := by
  unfold evictOld
  split <;> exact ⟨rfl, rfl⟩

theorem committed_balanced {cache : DiskCache} {listing : List Entry} {size : Nat}
    (balanced : cache.onDisk + size = scanBytes cache.files)
    (listed : listing.Perm cache.files.entries)
    (reaches : reachesTarget { cache with onDisk := cache.onDisk + size } listing = true) :
    Balanced (committed (fun _ => true) listing size cache) ∧
      Bounded (committed (fun _ => true) listing size cache) := by
  unfold committed
  simp only
  split
  · obtain ⟨kept, bound⟩ := @evictOld_balanced { cache with onDisk := cache.onDisk + size } listing
      balanced listed reaches
    obtain ⟨sameMax, sameNow⟩ := evictOld_frame (fun _ => true) listing
      { cache with onDisk := cache.onDisk + size }
    refine ⟨kept, ?_⟩
    unfold Bounded
    rw [sameMax, sameNow]
    exact bound
  · rename_i under
    refine ⟨balanced, Or.inl ?_⟩
    rw [← balanced]
    exact Nat.not_lt.mp under

theorem commit_balanced {cache next : DiskCache} {hex : String} {size : Nat} {chunked : Bool}
    {listing : List Entry} (balanced : Balanced cache)
    (accounted : accountable cache (.commit hex size chunked listing) = true)
    (taken : step cache (.commit hex size chunked listing) = some next) :
    Balanced next ∧ Bounded next := by
  simp only [step] at taken
  split at taken
  · rename_i part after renamed
    split at taken
    · rename_i listed
      cases taken
      simp only [accountable, renamed, Bool.and_eq_true, decide_eq_true_eq] at accounted
      obtain ⟨scanned, frame⟩ := renamed_scan renamed
      have counter : after.onDisk = cache.onDisk := by rw [frame]
      apply committed_balanced _ listed accounted.2
      rw [counter, balanced, scanned, accounted.1, Nat.add_comm]
    · cases taken
  · cases taken

theorem balanced_init (cache : DiskCache) : Balanced (init cache) := rfl

theorem balanced_step (cache : DiskCache) (event : Event) (next : DiskCache)
    (balanced : Balanced cache) (accounted : accountable cache event = true)
    (taken : step cache event = some next) : Balanced next := by
  cases event with
  | init =>
      cases taken
      rfl
  | commit hex size chunked listing => exact (commit_balanced balanced accounted taken).1
  | evictOld listing =>
      simp only [step] at taken
      split at taken
      · rename_i listed
        cases taken
        exact (evictOld_balanced balanced listed accounted).1
      · cases taken
  | clear =>
      cases taken
      rfl
  | write hex kind length =>
      simp only [step] at taken
      split at taken
      · cases taken
      · rename_i temporary
        cases taken
        refine balanced.trans ?_
        rw [scanBytes_put (fun other _ same => temporary_of_name same temporary),
          blobBytes_temporary (temporary_of_name rfl temporary), Nat.zero_add]
  | remove hex kind =>
      simp only [step] at taken
      split at taken
      · cases taken
      · rename_i temporary
        cases taken
        refine balanced.trans (scanBytes_keep ?_).symm
        intro entry _ dropped
        exact temporary_of_name (by simpa using dropped) temporary
  | tick elapsed =>
      cases taken
      exact balanced

/-- In every run of accountable operations after `init` the counter is what `scan_bytes` would
compute, and every commit ends within capacity or with nothing left to evict. -/
theorem accounting_exact (cache : DiskCache) (events : List Event) (final : DiskCache)
    (accounted : Machine.Along step (fun state event => accountable state event = true)
      (init cache) events)
    (ran : Machine.run step (init cache) events = some final) :
    final.onDisk = scanBytes final.files ∧
      ∀ front hex size chunked listing, events = front ++ [.commit hex size chunked listing] →
        scanBytes final.files ≤ final.maxBytes ∨
          ∀ entry ∈ final.files.entries, entry.evictable final.now = false := by
  refine ⟨Machine.along_invariant Balanced balanced_step (balanced_init cache) accounted ran, ?_⟩
  intro front hex size chunked listing same
  subst same
  obtain ⟨middle, reached, last⟩ := Machine.run_snoc_some ran
  obtain ⟨early, late⟩ := Machine.along_append accounted reached
  have balanced := Machine.along_invariant Balanced balanced_step (balanced_init cache) early reached
  exact (commit_balanced balanced late.1 last).2

def emptyCache : DiskCache := ⟨Files.empty, 10, 0, 0⟩

def firstKey : String := String.ofList (List.replicate 64 'a')

def secondKey : String := String.ofList (List.replicate 64 'b')

def abandonedKey : String := String.ofList (List.replicate 64 'c')

def twoCommits (leftover : List Entry) : List Event :=
  [.tick partMaxAge, .write firstKey .part 8,
   .commit firstKey 8 true (⟨firstKey, .blob, 8, partMaxAge⟩ :: leftover),
   .write secondKey .part 8,
   .commit secondKey 8 true
     (⟨secondKey, .blob, 8, partMaxAge⟩ :: ⟨firstKey, .blob, 8, partMaxAge⟩ :: leftover)]

theorem accounting_exact_two_commits :
    ∃ final, Machine.run step (init emptyCache) (twoCommits []) = some final ∧
      final.onDisk = 8 ∧ final.onDisk = scanBytes final.files := by
  have ended : (Machine.run step (init emptyCache) (twoCommits [])).map DiskCache.onDisk =
      some 8 := by decide
  obtain ⟨final, ran, counter⟩ := Option.map_eq_some_iff.mp ended
  exact ⟨final, ran, counter, (accounting_exact emptyCache _ final (by decide) ran).1⟩

/-- An abandoned part file of five bytes: its eviction lowers the counter to three while a blob
of eight bytes is on disk. -/
theorem evicted_part_unbalances_counter :
    ∃ final, Machine.run step (init emptyCache)
        (.write abandonedKey .part 5 :: twoCommits [⟨abandonedKey, .part, 5, 0⟩]) = some final ∧
      final.onDisk = 3 ∧ scanBytes final.files = 8 ∧ final.onDisk ≠ scanBytes final.files := by
  have ended : (Machine.run step (init emptyCache)
      (.write abandonedKey .part 5 :: twoCommits [⟨abandonedKey, .part, 5, 0⟩])).map
        (fun cache => (cache.onDisk, scanBytes cache.files)) = some (3, 8) := by decide
  obtain ⟨final, ran, counts⟩ := Option.map_eq_some_iff.mp ended
  obtain ⟨counter, scanned⟩ := Prod.mk.inj counts
  exact ⟨final, ran, counter, scanned, by rw [counter, scanned]; decide⟩

end WebProxy.Disk

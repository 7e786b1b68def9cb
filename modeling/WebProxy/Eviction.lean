import WebProxy.DiskCache

/-! Which files `evict_old` removes: the oldest of those it may remove, and no more of them than
the target asks for. -/

namespace WebProxy.Disk

open Weights (weight)

def DiskCache.eviction (cache : DiskCache) (removes : Entry → Bool) (listing : List Entry) : Eviction :=
  evictLoop (evictTarget cache.maxBytes) removes (evictionOrder cache.now listing) cache.onDisk

/-- Once the attempts on these files are made, the counter is at nine tenths of the capacity. -/
def Enough (cache : DiskCache) (removes : Entry → Bool) (front : List Entry) : Prop :=
  cache.onDisk - weight Entry.length (front.filter removes) ≤ 9 * cache.maxBytes / 10

structure OldestFirst (cache after : DiskCache) (removes : Entry → Bool)
    (order attempted : List Entry) : Prop where
  eligible : order.Perm (cache.files.entries.filter (Entry.evictable cache.now))
  oldest : order.Pairwise (fun first second => first.modified ≤ second.modified)
  front : attempted <+: order
  needed : ∀ shorter, shorter <+: order → shorter.length < attempted.length →
    ¬ Enough cache removes shorter
  reached : Enough cache removes attempted ∨
    attempted = order ∧ ∀ front, front <+: order → ¬ Enough cache removes front
  removed : ∀ entry, entry ∈ after.files.entries ↔
    entry ∈ cache.files.entries ∧ ¬ (entry ∈ attempted ∧ removes entry = true)
  counter : after.onDisk = cache.onDisk - weight Entry.length (attempted.filter removes)
  recent : ∀ entry ∈ cache.files.entries, entry.temporary = true →
    cache.now - entry.modified < partMaxAge → entry ∈ after.files.entries
  failed : ∀ gone ∈ cache.files.entries, gone ∉ after.files.entries →
    ∀ older ∈ after.files.entries, older.evictable cache.now = true →
      older.modified < gone.modified → older ∈ attempted ∧ removes older = false

theorem evictTarget_eq {maxBytes : Nat} (fits : 9 * maxBytes < 2 ^ 64) :
    evictTarget maxBytes = 9 * maxBytes / 10 := by
  have whole : Sources.wrap (maxBytes * evictTargetNum) = 9 * maxBytes := by
    rw [Sources.wrap, evictTargetNum, Nat.mul_comm]
    exact Nat.mod_eq_of_lt fits
  rw [evictTarget, whole, evictTargetDen]

theorem evictOld_over {cache : DiskCache} (full : cache.maxBytes < cache.onDisk)
    (removes : Entry → Bool) (listing : List Entry) :
    evictOld removes listing cache =
      { cache with
        files := cache.files.keep (fun entry => entry ∉ (cache.eviction removes listing).removed)
        onDisk := (cache.eviction removes listing).total } :=
  if_neg (Nat.not_le.mpr full)

theorem evictionOrder_oldest (now : Nat) (listing : List Entry) :
    (evictionOrder now listing).Pairwise (fun first second => first.modified ≤ second.modified) := by
  have total : Std.Total (fun first second : Entry => first.modified ≤ second.modified) :=
    ⟨fun first second => Nat.le_total first.modified second.modified⟩
  have transitive : IsTrans Entry (fun first second => first.modified ≤ second.modified) :=
    ⟨fun _ _ _ => Nat.le_trans⟩
  exact List.pairwise_insertionSort _ _

theorem older_in_front {order front : List Entry} {older newer : Entry}
    (sorted : order.Pairwise (fun first second => first.modified ≤ second.modified))
    (begins : front <+: order) (among : newer ∈ front) (listed : older ∈ order)
    (earlier : older.modified < newer.modified) : older ∈ front := by
  obtain ⟨back, rfl⟩ := begins
  rcases List.mem_append.mp listed with inside | behind
  · exact inside
  · have later := (List.pairwise_append.mp sorted).2.2 newer among older behind
    omega

theorem eviction_removed (cache : DiskCache) (removes : Entry → Bool) (listing : List Entry) :
    (cache.eviction removes listing).removed =
        (cache.eviction removes listing).attempted.filter removes ∧
      (cache.eviction removes listing).total = cache.onDisk -
        weight Entry.length ((cache.eviction removes listing).attempted.filter removes) := by
  obtain ⟨_, gone, left, _⟩ := evictLoop_spec (evictTarget cache.maxBytes) removes
    (evictionOrder cache.now listing) cache.onDisk
  refine ⟨gone, left.trans ?_⟩
  rw [gone]
  rfl

theorem eviction_shortest (cache : DiskCache) (removes : Entry → Bool) (listing : List Entry)
    (fits : 9 * cache.maxBytes < 2 ^ 64) :
    let order := evictionOrder cache.now listing
    let attempted := (cache.eviction removes listing).attempted
    attempted <+: order ∧
      (∀ shorter, shorter <+: order → shorter.length < attempted.length →
        ¬ Enough cache removes shorter) ∧
      (Enough cache removes attempted ∨
        attempted = order ∧ ∀ front, front <+: order → ¬ Enough cache removes front) := by
  intro order attempted
  obtain ⟨taken, _, _, ended, needed⟩ := evictLoop_spec (evictTarget cache.maxBytes) removes
    order cache.onDisk
  have target := evictTarget_eq fits
  have begins : attempted <+: order := List.prefix_iff_eq_take.mpr taken
  have tooShort : ∀ shorter, shorter <+: order → shorter.length < attempted.length →
      ¬ Enough cache removes shorter := by
    intro shorter front below enough
    have above := needed shorter.length below
    rw [← List.prefix_iff_eq_take.mp front, target] at above
    exact Nat.not_le.mpr above enough
  refine ⟨begins, tooShort, ?_⟩
  by_cases enough : Enough cache removes attempted
  · exact Or.inl enough
  · right
    have all : attempted = order := by
      rcases ended with reached | all
      · change (cache.eviction removes listing).total ≤ _ at reached
        rw [(eviction_removed cache removes listing).2, target] at reached
        exact absurd reached enough
      · exact all
    refine ⟨all, ?_⟩
    intro front leads
    rcases Nat.lt_or_ge front.length attempted.length with below | long
    · exact tooShort front leads below
    · rw [all] at long
      rw [leads.eq_of_length_le long, ← all]
      exact enough

theorem mem_evictOld {cache : DiskCache} (full : cache.maxBytes < cache.onDisk)
    (removes : Entry → Bool) (listing : List Entry) (entry : Entry) :
    entry ∈ (evictOld removes listing cache).files.entries ↔ entry ∈ cache.files.entries ∧
      ¬ (entry ∈ (cache.eviction removes listing).attempted ∧ removes entry = true) := by
  rw [evictOld_over full, (eviction_removed cache removes listing).1]
  simp only [Files.keep, List.mem_filter, decide_eq_true_eq]

/-- Over capacity an eviction takes the eligible files oldest first and stops at the first front
that is enough; it spares recent temporary files, and an older file outlasts a removed one only
when its own removal failed. -/
theorem eviction_oldest_first (cache : DiskCache) (removes : Entry → Bool) (listing : List Entry)
    (listed : listing.Perm cache.files.entries) (full : cache.maxBytes < cache.onDisk)
    (fits : 9 * cache.maxBytes < 2 ^ 64) :
    OldestFirst cache (evictOld removes listing cache) removes (evictionOrder cache.now listing)
      (cache.eviction removes listing).attempted := by
  obtain ⟨begins, needed, reached⟩ := eviction_shortest cache removes listing fits
  have sorted := evictionOrder_oldest cache.now listing
  have eligible : (evictionOrder cache.now listing).Perm
      (cache.files.entries.filter (Entry.evictable cache.now)) :=
    (evictionOrder_perm cache.now listing).trans (listed.filter _)
  have among : ∀ entry, entry ∈ evictionOrder cache.now listing ↔
      entry ∈ cache.files.entries ∧ entry.evictable cache.now = true := by
    intro entry
    rw [eligible.mem_iff, List.mem_filter]
  have stays := mem_evictOld full removes listing
  refine ⟨eligible, sorted, begins, needed, reached, stays, ?_, ?_, ?_⟩
  · rw [evictOld_over full]
    exact (eviction_removed cache removes listing).2
  · intro entry held temporary recent
    rw [stays]
    refine ⟨held, ?_⟩
    rintro ⟨attempted, _⟩
    have evictable := ((among entry).mp (begins.subset attempted)).2
    simp [Entry.evictable, temporary, recent] at evictable
  · intro gone held missing older kept evictable earlier
    have removed : gone ∈ (cache.eviction removes listing).attempted := by
      by_contra spared
      exact missing ((stays gone).mpr ⟨held, fun both => spared both.1⟩)
    obtain ⟨there, unremoved⟩ := (stays older).mp kept
    have tried := older_in_front sorted begins removed ((among older).mpr ⟨there, evictable⟩) earlier
    refine ⟨tried, ?_⟩
    by_contra succeeded
    exact unremoved ⟨tried, by simpa using succeeded⟩

def crowdedFiles : Files :=
  ⟨[⟨"c", .blob, 10, 3⟩, ⟨"a", .blob, 10, 1⟩, ⟨"d", .part, 10, 0⟩, ⟨"b", .blob, 10, 2⟩], by decide⟩

def crowdedCache : DiskCache := ⟨crowdedFiles, 20, 30, 100⟩

/-- The removal of the oldest blob fails, so the eviction goes on to the others; the part file is
younger than an hour. -/
theorem eviction_oldest_first_crowded :
    (crowdedCache.eviction (fun entry => entry.hex ≠ "a") crowdedFiles.entries).attempted =
        [⟨"a", .blob, 10, 1⟩, ⟨"b", .blob, 10, 2⟩, ⟨"c", .blob, 10, 3⟩] ∧
      OldestFirst crowdedCache
        (evictOld (fun entry => entry.hex ≠ "a") crowdedFiles.entries crowdedCache)
        (fun entry => entry.hex ≠ "a") (evictionOrder 100 crowdedFiles.entries)
        (crowdedCache.eviction (fun entry => entry.hex ≠ "a") crowdedFiles.entries).attempted :=
  ⟨by decide, eviction_oldest_first crowdedCache _ crowdedFiles.entries (List.Perm.refl _)
    (by decide) (by decide)⟩

end WebProxy.Disk

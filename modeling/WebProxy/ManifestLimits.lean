import Mathlib.Data.List.Induction
import WebProxy.Library.Table
import WebProxy.ManifestCache

/-! The limits of the manifest cache over whole histories: how much it holds, what its counter
says, and which put a lookup answers with. -/

namespace WebProxy.Manifests

open Weights (weight)

namespace ManifestCache

inductive Operation where
  | get (now : Nat) (key : Key)
  | put (now : Nat) (key : Key) (value : CachedManifest)
  | clear
  deriving DecidableEq, Repr

def apply (cache : ManifestCache) : Operation → ManifestCache
  | .get _ _ => cache
  | .put now key value => cache.put now key value
  | .clear => cache.clear

def after (ttl maxEntries maxBytes : Nat) (operations : List Operation) : ManifestCache :=
  operations.foldl apply (new ttl maxEntries maxBytes)

/-- The value the last put under the key left, since the last clear. A put of a body that is too
large does not count. -/
def lastPut (maxBytes : Nat) (key : Key) (operations : List Operation) : Option CachedManifest :=
  operations.foldl (fun latest operation =>
    match operation with
    | .get _ _ => latest
    | .put _ other value =>
        if other = key ∧ value.body.length ≤ maxBytes then some value else latest
    | .clear => none) none

def held (entries : List (Key × CachedManifest)) : Nat :=
  weight (fun entry => entry.2.body.length) entries

theorem nextBytes_eq {entries : List (Key × CachedManifest)} (key : Key) (value : CachedManifest)
    (distinct : (entries.map (·.1)).Nodup) :
    nextBytes entries key value = held (insert entries key value) := by
  have balance := Table.weight_remove (fun entry : Key × CachedManifest => entry.2.body.length) key
    distinct
  have whole : held (insert entries key value) =
      held (Table.remove entries key) + value.body.length := by
    rw [held, insert, Weights.weight_append]
    rfl
  rw [whole, nextBytes]
  change weight _ entries - ((Table.lookup entries key).map (fun value => value.body.length)).getD 0 + _ = _
  rw [← balance, Nat.add_sub_cancel]
  rfl

theorem length_insert {entries : List (Key × CachedManifest)} (key : Key) (value : CachedManifest)
    (distinct : (entries.map (·.1)).Nodup) :
    (insert entries key value).length + (if (lookup entries key).isSome then 1 else 0) =
      entries.length + 1 := by
  have balance := Table.length_remove key distinct
  have size : (insert entries key value).length = (Table.remove entries key).length + 1 := by
    rw [insert, List.length_append]
    rfl
  rw [size, ← balance]
  change _ + (if (Table.lookup entries key).isSome then 1 else 0) = _
  omega

structure Within (cache : ManifestCache) : Prop where
  entries : cache.entries.length ≤ cache.maxEntries
  bytes : held cache.entries ≤ cache.maxBytes
  counter : cache.bytes = held cache.entries

theorem within_new (ttl maxEntries maxBytes : Nat) : Within (new ttl maxEntries maxBytes) :=
  ⟨Nat.zero_le _, Nat.zero_le _, rfl⟩

theorem within_clear (cache : ManifestCache) : Within cache.clear :=
  ⟨Nat.zero_le _, Nat.zero_le _, rfl⟩

theorem within_put {cache : ManifestCache} (within : Within cache) (room : 1 ≤ cache.maxEntries)
    (now : Nat) (key : Key) (value : CachedManifest) : Within (cache.put now key value) := by
  generalize stored : cache.put now key value = next
  cases put_cases stored with
  | refused _ => exact within
  | flushed small _ => exact ⟨room, by simpa [insert, held] using small, by simp [insert, held]⟩
  | added small short fits =>
      have bytes := nextBytes_eq key value (cache.live_distinct now)
      have size := length_insert key value (cache.live_distinct now)
      constructor
      · change (insert (cache.live now) key value).length ≤ cache.maxEntries
        omega
      · change held (insert (cache.live now) key value) ≤ cache.maxBytes
        omega
      · exact bytes

theorem after_snoc (ttl maxEntries maxBytes : Nat) (operations : List Operation)
    (operation : Operation) : after ttl maxEntries maxBytes (operations ++ [operation]) =
      (after ttl maxEntries maxBytes operations).apply operation := by
  rw [after, List.foldl_append]
  rfl

theorem lastPut_snoc (maxBytes : Nat) (key : Key) (operations : List Operation)
    (operation : Operation) : lastPut maxBytes key (operations ++ [operation]) =
      match operation with
      | .get _ _ => lastPut maxBytes key operations
      | .put _ other value =>
          if other = key ∧ value.body.length ≤ maxBytes then some value
          else lastPut maxBytes key operations
      | .clear => none := by
  rw [lastPut, List.foldl_append]
  cases operation <;> rfl

theorem after_configuration (ttl maxEntries maxBytes : Nat) (operations : List Operation) :
    (after ttl maxEntries maxBytes operations).ttl = ttl ∧
      (after ttl maxEntries maxBytes operations).maxEntries = maxEntries ∧
      (after ttl maxEntries maxBytes operations).maxBytes = maxBytes := by
  induction operations using List.reverseRecOn with
  | nil => exact ⟨rfl, rfl, rfl⟩
  | append_singleton operations operation ih =>
      rw [after_snoc]
      cases operation with
      | get now key => exact ih
      | put now key value =>
          rw [apply]
          generalize stored : (after ttl maxEntries maxBytes operations).put now key value = next
          cases put_cases stored with
          | refused _ => exact ih
          | flushed _ _ => exact ih
          | added _ _ _ => exact ih
      | clear => exact ih

theorem within_after {ttl maxEntries maxBytes : Nat} (room : 1 ≤ maxEntries)
    (operations : List Operation) : Within (after ttl maxEntries maxBytes operations) := by
  induction operations using List.reverseRecOn with
  | nil => exact within_new ttl maxEntries maxBytes
  | append_singleton operations operation ih =>
      rw [after_snoc]
      cases operation with
      | get now key => exact ih
      | put now key value =>
          apply within_put ih
          rw [(after_configuration ttl maxEntries maxBytes operations).2.1]
          exact room
      | clear => exact within_clear _

theorem lookup_live {cache : ManifestCache} {now : Nat} {key : Key} {value : CachedManifest}
    (found : lookup (cache.live now) key = some value) : lookup cache.entries key = some value := by
  have member := Table.mem_of_lookup found
  exact Table.lookup_of_mem cache.distinct (List.mem_filter.mp member).1

theorem lookup_put {cache : ManifestCache} {now : Nat} {key other : Key}
    {value entry : CachedManifest}
    (found : lookup (cache.put now key value).entries other = some entry) :
    if key = other ∧ value.body.length ≤ cache.maxBytes then entry = value
    else lookup cache.entries other = some entry := by
  have inserted : ∀ entries, value.body.length ≤ cache.maxBytes →
      (∀ entry, lookup entries other = some entry → lookup cache.entries other = some entry) →
      lookup (insert entries key value) other = some entry →
      if key = other ∧ value.body.length ≤ cache.maxBytes then entry = value
      else lookup cache.entries other = some entry := by
    intro entries small earlier held
    by_cases same : key = other
    · rw [if_pos ⟨same, small⟩]
      rw [← same] at held
      have own : lookup (insert entries key value) key = some value :=
        Table.lookup_insert_self entries key value
      rw [own] at held
      exact (Option.some.inj held).symm
    · rw [if_neg (by simp [same])]
      apply earlier
      rw [← held]
      exact (Table.lookup_insert_other entries value (Ne.symm same)).symm
  generalize stored : cache.put now key value = next at found
  cases put_cases stored with
  | refused large =>
      rw [if_neg (by omega)]
      exact found
  | flushed small _ =>
      apply inserted [] small _ found
      intro entry absent
      cases absent
  | added small _ _ =>
      apply inserted (cache.live now) small _ found
      intro entry alive
      exact lookup_live alive

theorem lookup_after {ttl maxEntries maxBytes : Nat} (operations : List Operation) {key : Key}
    {value : CachedManifest}
    (found : lookup (after ttl maxEntries maxBytes operations).entries key = some value) :
    lastPut maxBytes key operations = some value := by
  induction operations using List.reverseRecOn generalizing value with
  | nil => cases found
  | append_singleton operations operation ih =>
      rw [after_snoc] at found
      rw [lastPut_snoc]
      cases operation with
      | get now other => exact ih found
      | put now other stored =>
          have origin := lookup_put found
          rw [(after_configuration ttl maxEntries maxBytes operations).2.2] at origin
          change (if other = key ∧ stored.body.length ≤ maxBytes then some stored
            else lastPut maxBytes key operations) = some value
          split at origin
          · rename_i own
            rw [if_pos own, origin]
          · rename_i apart
            rw [if_neg apart]
            exact ih origin
      | clear => cases found

/-- The cache keeps its limits after every history, and a lookup answers with the last put. -/
theorem manifest_cache_invariant (ttl maxEntries maxBytes : Nat) (room : 1 ≤ maxEntries)
    (operations : List Operation) :
    let cache := after ttl maxEntries maxBytes operations
    cache.entries.length ≤ maxEntries ∧ held cache.entries ≤ maxBytes ∧
      cache.bytes = held cache.entries ∧
      ∀ (now : Nat) (key : Key) (value : CachedManifest), cache.get now key = some value →
        lastPut maxBytes key operations = some value ∧ now - value.stored < ttl := by
  intro cache
  obtain ⟨sameTtl, sameEntries, sameBytes⟩ := after_configuration ttl maxEntries maxBytes operations
  have within : Within cache := within_after room operations
  refine ⟨sameEntries ▸ within.entries, sameBytes ▸ within.bytes, within.counter, ?_⟩
  intro now key value found
  obtain ⟨stored, young⟩ := Option.filter_eq_some_iff.mp found
  rw [sameTtl, fresh, decide_eq_true_eq] at young
  exact ⟨lookup_after operations stored, young⟩

def sampleKey (name : String) : Key := (name, "latest", "anon")

def sampleManifest (size stored : Nat) : CachedManifest :=
  ⟨none, none, List.replicate size 0, stored, 0⟩

def sampleOperations : List Operation :=
  [.put 0 (sampleKey "a") (sampleManifest 6 0), .put 1 (sampleKey "a") (sampleManifest 7 1),
    .get 2 (sampleKey "a"), .put 3 (sampleKey "b") (sampleManifest 6 3)]

theorem manifest_cache_invariant_sample :
    (after 60 10 10 sampleOperations).get 5 (sampleKey "b") = some (sampleManifest 6 3) ∧
      (after 60 10 10 sampleOperations).entries.length ≤ 10 ∧
      lastPut 10 (sampleKey "b") sampleOperations = some (sampleManifest 6 3) := by
  have limits := manifest_cache_invariant 60 10 10 (by decide) sampleOperations
  have found : (after 60 10 10 sampleOperations).get 5 (sampleKey "b") =
      some (sampleManifest 6 3) := by decide
  exact ⟨found, limits.1, (limits.2.2.2 5 _ _ found).1⟩

/-- The value fits beside the entries that are alive, with the key replaced where it is there. -/
def Fits (cache : ManifestCache) (now : Nat) (key : Key) (value : CachedManifest) : Prop :=
  value.body.length ≤ cache.maxBytes ∧
    (insert (cache.live now) key value).length ≤ cache.maxEntries ∧
    held (insert (cache.live now) key value) ≤ cache.maxBytes

/-- Every live entry under another key is still there after the put. -/
def KeepsOthers (cache : ManifestCache) (now : Nat) (key : Key) (value : CachedManifest) : Prop :=
  ∀ (other : Key) (entry : CachedManifest), other ≠ key →
    lookup (cache.live now) other = some entry →
    lookup (cache.put now key value).entries other = some entry

theorem put_entries_of_fits {cache : ManifestCache} {now : Nat} {key : Key} {value : CachedManifest}
    (fits : Fits cache now key value) : (cache.put now key value).entries =
      if cache.maxEntries ≤ (cache.live now).length then insert [] key value
      else insert (cache.live now) key value := by
  obtain ⟨small, -, bytes⟩ := fits
  rw [← nextBytes_eq key value (cache.live_distinct now)] at bytes
  rw [put, if_neg (by omega)]
  by_cases full : cache.maxEntries ≤ (cache.live now).length
  · rw [if_pos (Or.inl full), if_pos full]
  · rw [if_neg (by omega), if_neg full]

theorem other_key {entries : List (Key × CachedManifest)} (key : Key)
    (distinct : (entries.map (·.1)).Nodup) (several : 2 ≤ entries.length) :
    ∃ other entry, other ≠ key ∧ lookup entries other = some entry := by
  have balance := Table.length_remove key distinct
  have left : 0 < (Table.remove entries key).length := by
    split at balance
    · omega
    · omega
  obtain ⟨entry, member⟩ := List.exists_mem_of_length_pos left
  obtain ⟨stays, apart⟩ := List.mem_filter.mp member
  exact ⟨entry.1, entry.2, by simpa using apart, Table.lookup_of_mem distinct stays⟩

theorem keepsOthers_of_room {cache : ManifestCache} {now : Nat} {key : Key} {value : CachedManifest}
    (fits : Fits cache now key value) (room : (cache.live now).length < cache.maxEntries) :
    KeepsOthers cache now key value := by
  intro other entry apart alive
  rw [put_entries_of_fits fits, if_neg (by omega)]
  exact (Table.lookup_insert_other (cache.live now) value apart).trans alive

theorem keepsOthers_of_one {cache : ManifestCache} {now : Nat} {key : Key} {value : CachedManifest}
    (fits : Fits cache now key value) (one : cache.maxEntries ≤ 1) :
    KeepsOthers cache now key value := by
  intro other entry apart alive
  exfalso
  have inserted : lookup (insert (cache.live now) key value) other = some entry :=
    (Table.lookup_insert_other (cache.live now) value apart).trans alive
  have own : lookup (insert (cache.live now) key value) key = some value :=
    Table.lookup_insert_self (cache.live now) key value
  have size := fits.2.1
  match all : insert (cache.live now) key value, size with
  | [], _ =>
      rw [all] at own
      cases own
  | [single], _ =>
      rw [all] at own inserted
      have first := List.mem_singleton.mp (Table.mem_of_lookup own)
      have second := List.mem_singleton.mp (Table.mem_of_lookup inserted)
      rw [← first, Prod.mk.injEq] at second
      exact apart second.1
  | _ :: _ :: _, size =>
      simp only [List.length_cons] at size
      omega

/-- A put that fits evicts nothing exactly when the map is not full or holds one entry at most. The
test of the entry count does not see that a key is replaced. -/
theorem put_keeps_others_iff (ttl maxEntries maxBytes : Nat) (operations : List Operation)
    (now : Nat) (key : Key) (value : CachedManifest)
    (fits : Fits (after ttl maxEntries maxBytes operations) now key value) :
    KeepsOthers (after ttl maxEntries maxBytes operations) now key value ↔
      ((after ttl maxEntries maxBytes operations).live now).length < maxEntries ∨
        maxEntries ≤ 1 := by
  have same := (after_configuration ttl maxEntries maxBytes operations).2.1
  generalize after ttl maxEntries maxBytes operations = cache at fits same
  subst same
  constructor
  · intro keeps
    by_contra full
    obtain ⟨other, entry, apart, alive⟩ := other_key key (cache.live_distinct now) (by omega)
    have left := keeps other entry apart alive
    rw [put_entries_of_fits fits, if_pos (by omega)] at left
    have gone : lookup (insert [] key value) other = none :=
      Table.lookup_insert_other [] value apart
    rw [gone] at left
    cases left
  · rintro (room | one)
    · exact keepsOthers_of_room fits room
    · exact keepsOthers_of_one fits one

instance (cache : ManifestCache) (now : Nat) (key : Key) (value : CachedManifest) :
    Decidable (Fits cache now key value) :=
  inferInstanceAs (Decidable (_ ∧ _ ∧ _))

def fullOperations : List Operation :=
  [.put 0 (sampleKey "a") (sampleManifest 3 0), .put 1 (sampleKey "b") (sampleManifest 3 1)]

theorem put_keeps_others_iff_room :
    Fits (after 60 3 10 fullOperations) 2 (sampleKey "b") (sampleManifest 4 2) ∧
      KeepsOthers (after 60 3 10 fullOperations) 2 (sampleKey "b") (sampleManifest 4 2) := by
  have fits : Fits (after 60 3 10 fullOperations) 2 (sampleKey "b") (sampleManifest 4 2) := by decide
  exact ⟨fits, (put_keeps_others_iff 60 3 10 fullOperations 2 _ _ fits).mpr (by decide)⟩

/-- The second of two requests for one manifest puts it again and empties the full map. -/
theorem full_map_put_evicts :
    ¬ ∀ (ttl maxEntries maxBytes : Nat) (operations : List Operation) (now : Nat) (key : Key)
      (value : CachedManifest), Fits (after ttl maxEntries maxBytes operations) now key value →
      KeepsOthers (after ttl maxEntries maxBytes operations) now key value := by
  intro law
  have keeps := law 60 2 10 fullOperations 2 (sampleKey "b") (sampleManifest 3 2) (by decide)
  have alive : lookup ((after 60 2 10 fullOperations).live 2) (sampleKey "a") =
      some (sampleManifest 3 0) := by decide
  have gone : lookup ((after 60 2 10 fullOperations).put 2 (sampleKey "b") (sampleManifest 3 2)).entries
      (sampleKey "a") = none := by decide
  have left := keeps _ _ (by decide) alive
  rw [gone] at left
  cases left

end ManifestCache

end WebProxy.Manifests

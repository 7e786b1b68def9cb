import WebProxy.Library.Weights

/-! Lists of entries read as maps: one value for a key, which an insertion replaces. -/

namespace Table

open Weights (weight)

variable {κ β : Type} [DecidableEq κ]

def lookup (table : List (κ × β)) (key : κ) : Option β :=
  (table.find? (fun entry => entry.1 = key)).map (·.2)

def remove (table : List (κ × β)) (key : κ) : List (κ × β) :=
  table.filter (fun entry => entry.1 ≠ key)

def insert (table : List (κ × β)) (key : κ) (value : β) : List (κ × β) :=
  remove table key ++ [(key, value)]

def update (table : List (κ × β)) (key : κ) (change : β → β) : List (κ × β) :=
  table.map (fun entry => if entry.1 = key then (key, change entry.2) else entry)

theorem mem_of_lookup {table : List (κ × β)} {key : κ} {value : β}
    (found : lookup table key = some value) : (key, value) ∈ table := by
  obtain ⟨entry, first, same⟩ := Option.map_eq_some_iff.mp found
  have named : entry.1 = key := by simpa using List.find?_some first
  rw [← named, ← same]
  exact List.mem_of_find?_eq_some first

theorem lookup_cons (entry : κ × β) (table : List (κ × β)) (key : κ) :
    lookup (entry :: table) key = if entry.1 = key then some entry.2 else lookup table key := by
  by_cases same : entry.1 = key
  · simp [lookup, same]
  · simp [lookup, same]

theorem lookup_of_mem {table : List (κ × β)} {key : κ} {value : β}
    (distinct : (table.map (·.1)).Nodup) (member : (key, value) ∈ table) :
    lookup table key = some value := by
  induction table with
  | nil => cases member
  | cons entry table ih =>
      rw [List.map_cons, List.nodup_cons] at distinct
      rw [lookup_cons]
      rcases List.mem_cons.mp member with rfl | later
      · rw [if_pos rfl]
      · have other : entry.1 ≠ key := by
          intro same
          apply distinct.1
          rw [same]
          exact List.mem_map.mpr ⟨_, later, rfl⟩
        rw [if_neg other]
        exact ih distinct.2 later

theorem lookup_none_iff {table : List (κ × β)} {key : κ} :
    lookup table key = none ↔ ∀ entry ∈ table, entry.1 ≠ key := by
  simp [lookup, List.find?_eq_none]

theorem lookup_remove_self (table : List (κ × β)) (key : κ) : lookup (remove table key) key = none := by
  rw [lookup_none_iff]
  intro entry member
  simpa using (List.mem_filter.mp member).2

theorem lookup_remove_other {key other : κ} (table : List (κ × β)) (different : other ≠ key) :
    lookup (remove table key) other = lookup table other := by
  induction table with
  | nil => rfl
  | cons entry table ih =>
      by_cases gone : entry.1 = key
      · have skipped : remove (entry :: table) key = remove table key :=
          List.filter_cons_of_neg (by simpa using gone)
        have apart : entry.1 ≠ other := by
          intro same
          exact different (same.symm.trans gone)
        rw [skipped, ih, lookup_cons, if_neg apart]
      · have kept : remove (entry :: table) key = entry :: remove table key :=
          List.filter_cons_of_pos (by simpa using gone)
        rw [kept, lookup_cons, lookup_cons, ih]

theorem lookup_append (front back : List (κ × β)) (key : κ) :
    lookup (front ++ back) key = (lookup front key).or (lookup back key) := by
  simp [lookup, List.find?_append, Option.map_or]

theorem lookup_insert_self (table : List (κ × β)) (key : κ) (value : β) :
    lookup (insert table key value) key = some value := by
  rw [insert, lookup_append, lookup_remove_self, lookup_cons, if_pos rfl, Option.none_or]

theorem lookup_insert_other {key other : κ} (table : List (κ × β)) (value : β)
    (different : other ≠ key) : lookup (insert table key value) other = lookup table other := by
  rw [insert, lookup_append, lookup_remove_other table different, lookup_cons,
    if_neg (Ne.symm different)]
  cases lookup table other <;> rfl

theorem remove_of_absent {table : List (κ × β)} {key : κ} (absent : ∀ entry ∈ table, entry.1 ≠ key) :
    remove table key = table := by
  rw [remove, List.filter_eq_self]
  intro entry member
  simpa using absent entry member

theorem weight_remove (weigh : κ × β → Nat) {table : List (κ × β)} (key : κ)
    (distinct : (table.map (·.1)).Nodup) :
    weight weigh (remove table key) + ((lookup table key).map (fun value => weigh (key, value))).getD 0 =
      weight weigh table := by
  induction table with
  | nil => rfl
  | cons entry table ih =>
      rw [List.map_cons, List.nodup_cons] at distinct
      by_cases gone : entry.1 = key
      · have skipped : remove (entry :: table) key = remove table key :=
          List.filter_cons_of_neg (by simpa using gone)
        have absent : ∀ later ∈ table, later.1 ≠ key := by
          intro later member same
          apply distinct.1
          rw [gone, ← same]
          exact List.mem_map.mpr ⟨later, member, rfl⟩
        rw [skipped, remove_of_absent absent, lookup_cons, if_pos gone, Weights.weight_cons, ← gone]
        exact Nat.add_comm _ _
      · have kept : remove (entry :: table) key = entry :: remove table key :=
          List.filter_cons_of_pos (by simpa using gone)
        have rest := ih distinct.2
        rw [kept, lookup_cons, if_neg gone, Weights.weight_cons, Weights.weight_cons]
        omega

theorem keys_update (table : List (κ × β)) (key : κ) (change : β → β) :
    (update table key change).map (·.1) = table.map (·.1) := by
  rw [update, List.map_map]
  apply List.map_congr_left
  intro entry _
  by_cases same : entry.1 = key
  · simp [same]
  · simp [same]

theorem update_of_absent {table : List (κ × β)} {key : κ} (change : β → β)
    (absent : key ∉ table.map (·.1)) : update table key change = table := by
  have same : ∀ entry ∈ table, (if entry.1 = key then (key, change entry.2) else entry) = entry := by
    intro entry member
    refine if_neg ?_
    intro same
    exact absent (same ▸ List.mem_map.mpr ⟨entry, member, rfl⟩)
  rw [update, List.map_congr_left same, List.map_id']

theorem weight_update (weigh : κ × β → Nat) {table : List (κ × β)} (key : κ) (change : β → β)
    (extra : Nat) (distinct : (table.map (·.1)).Nodup)
    (grows : ∀ value, weigh (key, change value) ≤ weigh (key, value) + extra) :
    weight weigh (update table key change) ≤ weight weigh table + extra := by
  induction table with
  | nil => simp [update]
  | cons entry table ih =>
      rw [List.map_cons, List.nodup_cons] at distinct
      by_cases same : entry.1 = key
      · have rest := update_of_absent change (same ▸ distinct.1)
        obtain ⟨first, value⟩ := entry
        subst same
        have grown : weigh (first, change value) ≤ weigh (first, value) + extra := grows value
        simp only [update, List.map_cons, if_true] at rest ⊢
        rw [rest, Weights.weight_cons, Weights.weight_cons]
        omega
      · have rest := ih distinct.2
        simp only [update, List.map_cons, same, if_false] at rest ⊢
        rw [Weights.weight_cons, Weights.weight_cons]
        omega

theorem length_remove {table : List (κ × β)} (key : κ) (distinct : (table.map (·.1)).Nodup) :
    (remove table key).length + (if (lookup table key).isSome then 1 else 0) = table.length := by
  have ones : ∀ entries : List (κ × β), weight (fun _ => 1) entries = entries.length := by
    intro entries
    induction entries with
    | nil => rfl
    | cons entry entries ih => rw [Weights.weight_cons, ih, List.length_cons, Nat.add_comm]
  have balance := weight_remove (fun _ : κ × β => 1) key distinct
  rw [ones, ones] at balance
  rw [← balance]
  cases lookup table key <;> rfl

end Table

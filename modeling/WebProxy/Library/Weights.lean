import Mathlib.Data.List.Sort

/-! The total weight of a list, and what reordering it or taking elements out does to it. -/

namespace Weights

variable {α : Type}

def weight (weigh : α → Nat) : List α → Nat
  | [] => 0
  | item :: items => weigh item + weight weigh items

@[simp] theorem weight_nil (weigh : α → Nat) : weight weigh [] = 0 := rfl

@[simp] theorem weight_cons (weigh : α → Nat) (item : α) (items : List α) :
    weight weigh (item :: items) = weigh item + weight weigh items := rfl

theorem weight_append (weigh : α → Nat) (front back : List α) :
    weight weigh (front ++ back) = weight weigh front + weight weigh back := by
  induction front with
  | nil => simp
  | cons item items ih =>
      rw [List.cons_append, weight_cons, weight_cons, ih]
      omega

theorem weight_perm (weigh : α → Nat) {first second : List α} (same : first.Perm second) :
    weight weigh first = weight weigh second := by
  induction same with
  | nil => rfl
  | cons item _ ih => rw [weight_cons, weight_cons, ih]
  | swap first second items =>
      simp only [weight_cons]
      omega
  | trans _ _ front back => exact front.trans back

theorem weight_congr {weigh other : α → Nat} {items : List α}
    (same : ∀ item ∈ items, weigh item = other item) : weight weigh items = weight other items := by
  induction items with
  | nil => rfl
  | cons item items ih =>
      rw [weight_cons, weight_cons, same item List.mem_cons_self,
        ih (fun later member => same later (List.mem_cons_of_mem _ member))]

theorem weight_map {β : Type} (weigh : β → Nat) (image : α → β) (items : List α) :
    weight weigh (items.map image) = weight (fun item => weigh (image item)) items := by
  induction items with
  | nil => rfl
  | cons item items ih => rw [List.map_cons, weight_cons, weight_cons, ih]

theorem weight_zero {weigh : α → Nat} {items : List α} (light : ∀ item ∈ items, weigh item = 0) :
    weight weigh items = 0 := by
  induction items with
  | nil => rfl
  | cons item items ih =>
      rw [weight_cons, light item List.mem_cons_self,
        ih (fun later member => light later (List.mem_cons_of_mem _ member))]

theorem weight_set (weigh : α → Nat) {items : List α} {index : Nat} {held : α} (next : α)
    (found : items[index]? = some held) :
    weight weigh (items.set index next) + weigh held = weight weigh items + weigh next := by
  induction items generalizing index with
  | nil => cases found
  | cons item items ih =>
      cases index with
      | zero =>
          cases found
          simp only [List.set_cons_zero, weight_cons]
          omega
      | succ index =>
          have rest := ih found
          simp only [List.set_cons_succ, weight_cons]
          omega

theorem weight_filter {weigh : α → Nat} {kept : α → Bool} {items : List α}
    (light : ∀ item ∈ items, kept item = false → weigh item = 0) :
    weight weigh (items.filter kept) = weight weigh items := by
  induction items with
  | nil => rfl
  | cons item items ih =>
      have rest := ih (fun other member => light other (List.mem_cons_of_mem _ member))
      cases held : kept item with
      | true => rw [List.filter_cons_of_pos held, weight_cons, weight_cons, rest]
      | false =>
          have none := light item List.mem_cons_self held
          rw [List.filter_cons_of_neg (by simp [held]), weight_cons, none, rest, Nat.zero_add]

theorem weight_removed [DecidableEq α] (weigh : α → Nat) {items removed : List α}
    (distinct : items.Nodup) (once : removed.Nodup) (part : removed ⊆ items) :
    weight weigh (items.filter (fun item => item ∉ removed)) + weight weigh removed =
      weight weigh items := by
  have taken : (items.filter (fun item => item ∈ removed)).Perm removed := by
    rw [List.perm_ext_iff_of_nodup (distinct.filter _) once]
    intro item
    simp only [List.mem_filter, decide_eq_true_eq]
    exact ⟨fun both => both.2, fun member => ⟨part member, member⟩⟩
  have split := List.filter_append_perm (fun item => decide (item ∈ removed)) items
  rw [← weight_perm weigh taken, Nat.add_comm, ← weight_append, ← weight_perm weigh split]
  congr 2
  apply List.filter_congr
  intro item _
  simp

end Weights

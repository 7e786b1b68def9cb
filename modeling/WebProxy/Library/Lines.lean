import WebProxy.Library.Split

/-! The lines of a stream that comes in pieces: a buffer keeps what has no end yet, and a loop takes
every finished line out of it. -/

namespace Lines

variable {α σ ε : Type} (consume : σ → List α → Except ε σ)

/-- The lines go to a consumer one by one; the first failure ends it, with the state it is met in. -/
def feed : σ → List (List α) → σ × Except ε Unit
  | state, [] => (state, .ok ())
  | state, line :: rest =>
      match consume state line with
      | .error failure => (state, .error failure)
      | .ok next => feed next rest

theorem feed_append (state : σ) (front back : List (List α)) :
    feed consume state (front ++ back) =
      match feed consume state front with
      | (next, .error failure) => (next, .error failure)
      | (next, .ok _) => feed consume next back := by
  induction front generalizing state with
  | nil => rfl
  | cons line rest ih =>
      simp only [List.cons_append, feed]
      cases consume state line with
      | error failure => rfl
      | ok next => exact ih next

theorem feed_invariant (invariant : σ → Prop)
    (kept : ∀ state line next, invariant state → consume state line = .ok next → invariant next)
    {state : σ} (start : invariant state) (lines : List (List α)) :
    invariant (feed consume state lines).1 := by
  induction lines generalizing state with
  | nil => exact start
  | cons line rest ih =>
      rw [feed]
      cases taken : consume state line with
      | error failure => exact start
      | ok next => exact ih (kept state line next start taken)

variable [DecidableEq α]

def lines (mark : α) (items : List α) : List (List α) :=
  (items.splitOn mark).dropLast.map (fun line => line ++ [mark])

def openEnd (mark : α) (items : List α) : List α := (items.splitOn mark).getLastD []

variable {mark : α}

@[simp] theorem lines_of_absent {items : List α} (absent : mark ∉ items) : lines mark items = [] := by
  rw [lines, List.splitOn_eq_singleton absent]
  rfl

@[simp] theorem openEnd_of_absent {items : List α} (absent : mark ∉ items) :
    openEnd mark items = items := by
  rw [openEnd, List.splitOn_eq_singleton absent]
  rfl

theorem splitOn_cut {front : List α} (absent : mark ∉ front) (back : List α) :
    (front ++ mark :: back).splitOn mark = front :: back.splitOn mark := by
  rw [List.splitOn_append_cons_self, List.splitOn_eq_singleton absent]
  rfl

theorem lines_cut {front : List α} (absent : mark ∉ front) (back : List α) :
    lines mark (front ++ mark :: back) = (front ++ [mark]) :: lines mark back := by
  rw [lines, splitOn_cut absent, List.dropLast_cons_of_ne_nil (List.splitOn_ne_nil mark back),
    List.map_cons, lines]

theorem openEnd_cut {front : List α} (absent : mark ∉ front) (back : List α) :
    openEnd mark (front ++ mark :: back) = openEnd mark back := by
  obtain ⟨piece, pieces, shape⟩ := List.exists_cons_of_ne_nil (List.splitOn_ne_nil mark back)
  rw [openEnd, splitOn_cut absent, openEnd, shape]
  simp

theorem line_induction {motive : List α → Prop}
    (last : ∀ items, mark ∉ items → motive items)
    (line : ∀ front back, mark ∉ front → motive back → motive (front ++ mark :: back))
    (items : List α) : motive items := by
  -- on the length: what is behind a mark is shorter
  induction length : items.length using Nat.strong_induction_on generalizing items with
  | _ _ ih =>
      subst length
      cases cut : Split.splitOnce mark items with
      | none => exact last items (Split.splitOnce_none_iff.mp cut)
      | some pair =>
          obtain ⟨front, back⟩ := pair
          obtain ⟨rfl, absent⟩ := Split.splitOnce_some_iff.mp cut
          refine line front back absent (ih back.length ?_ back rfl)
          simp only [List.length_append, List.length_cons]
          omega

theorem openEnd_absent (items : List α) : mark ∉ openEnd mark items := by
  induction items using @line_induction _ _ mark with
  | last items absent => rwa [openEnd_of_absent absent]
  | line front back absent ih => rwa [openEnd_cut absent]

theorem lines_append (items more : List α) :
    lines mark (items ++ more) = lines mark items ++ lines mark (openEnd mark items ++ more) := by
  induction items using @line_induction _ _ mark with
  | last items absent => simp [absent]
  | line front back absent ih =>
      rw [List.append_assoc, List.cons_append, lines_cut absent, lines_cut absent, ih, openEnd_cut absent,
        List.cons_append]

def drain (mark : α) : Nat → σ → List α → σ × Except ε (List α)
  | 0, state, buffer => (state, .ok buffer)
  | rounds + 1, state, buffer =>
      match Split.splitOnce mark buffer with
      | none => (state, .ok buffer)
      | some (front, back) =>
          match consume state (front ++ [mark]) with
          | .error failure => (state, .error failure)
          | .ok next => drain mark rounds next back

theorem drain_eq (state : σ) (buffer : List α) (rounds : Nat) (enough : buffer.length ≤ rounds) :
    drain consume mark rounds state buffer =
      ((feed consume state (lines mark buffer)).1,
        (feed consume state (lines mark buffer)).2.map (fun _ => openEnd mark buffer)) := by
  induction buffer using @line_induction _ _ mark generalizing state rounds with
  | last items absent =>
      cases rounds with
      | zero => simp [drain, feed, absent, Except.map]
      | succ rounds => simp [drain, feed, absent, Except.map, Split.splitOnce_none_iff.mpr absent]
  | line front back absent ih =>
      rw [List.length_append, List.length_cons] at enough
      obtain ⟨rounds, rfl⟩ : ∃ fewer, rounds = fewer + 1 := ⟨rounds - 1, by omega⟩
      rw [lines_cut absent, openEnd_cut absent, drain, Split.splitOnce_append absent]
      simp only [feed]
      cases consume state (front ++ [mark]) with
      | error failure => rfl
      | ok next => exact ih next rounds (by omega)

end Lines

import Mathlib.Data.List.Basic

/-! Readers that are polled with a buffer: what a poll gives, against the content they still hold. -/

namespace Polled

variable {α σ ω : Type}

/-- How a poll ends. Nothing in a buffer that had room is the end of the content. -/
inductive Poll (α : Type) where
  | pending
  | ready (items : List α)
  | failed
  | panicked
  deriving DecidableEq, Repr

def Poll.given : Poll α → List α
  | .ready items => items
  | _ => []

@[simp] theorem given_pending : (Poll.pending : Poll α).given = [] := rfl

@[simp] theorem given_ready (items : List α) : (Poll.ready items).given = items := rfl

@[simp] theorem given_failed : (Poll.failed : Poll α).given = [] := rfl

/-- A reader is polled with the room of the buffer; `ω` is what the world decides at a poll. -/
abbrev Reader (α σ ω : Type) := σ → Nat → ω → Poll α × σ

/-- A reader hands its content out in order. Nothing is promised of a buffer without room. -/
structure Conserves (reader : Reader α σ ω) (content : σ → List α) : Prop where
  kept : ∀ state capacity world, 0 < capacity →
    content state = (reader state capacity world).1.given ++ content (reader state capacity world).2
  fits : ∀ state capacity world, 0 < capacity → (reader state capacity world).1.given.length ≤ capacity
  ends : ∀ state capacity world, 0 < capacity → (reader state capacity world).1 = .ready [] →
    content state = []
  sound : ∀ state capacity world, 0 < capacity → (reader state capacity world).1 ≠ .panicked

end Polled

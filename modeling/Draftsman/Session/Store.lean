/-
The history of a session, its most recent turns, and where histories are kept: one to each
session id.
-/
import Draftsman.Diagram.Model

set_option autoImplicit false

namespace Draftsman.Session

/-! ## Histories -/

/-- One generation: what was asked for, and what came of it. -/
structure Turn where
  prompt : String
  kind : DiagramKind
  model : Model
  diagram : String
deriving DecidableEq, Repr

/-- The turns of a session, the oldest first. -/
structure History where
  turns : List Turn
deriving DecidableEq, Repr

/-- How many turns a history keeps. -/
def maxTurns : Nat := 20

namespace History

/-- The history of a session in which nothing happened. -/
def empty : History := ⟨[]⟩

/-- The last items of a list, at most so many. -/
def lastOf {α : Type} (n : Nat) (items : List α) : List α := items.drop (items.length - n)

/-- The history after one more turn. The oldest turns are forgotten. -/
def push (h : History) (turn : Turn) : History := ⟨lastOf maxTurns (h.turns ++ [turn])⟩

/-- The model of the last turn of a kind. -/
def last? (h : History) (kind : DiagramKind) : Option Model :=
  (h.turns.reverse.find? fun turn => turn.kind = kind).map Turn.model

end History

/-! ## Faults -/

/-- Why a store could not do what it was asked. -/
inductive StoreError where
  | backend (reason : String)
deriving DecidableEq, Repr

namespace StoreError

/-- The code of a fault. -/
def code : StoreError → String
  | backend _ => "E_HISTORY_BACKEND"

/-- The wording of a fault. -/
def message : StoreError → String
  | backend reason => "history backend failed: " ++ reason

/-- Whether the same call may succeed later. -/
def retryable : StoreError → Bool
  | backend _ => true

end StoreError

/-! ## A store in memory -/

/-- A store: ids with their histories, no id twice. -/
structure Store where
  entries : List (String × History)
deriving DecidableEq, Repr

namespace Store

/-- The store that knows no session. -/
def empty : Store := ⟨[]⟩

/-- The history of a session. -/
def get? (s : Store) (id : String) : Option History := s.entries.lookup id

/-- The store in which no history is kept under the id. -/
def delete (s : Store) (id : String) : Store := ⟨s.entries.filter fun e => e.1 != id⟩

/-- The store with the given history under the id. -/
def put (s : Store) (id : String) (history : History) : Store :=
  ⟨(id, history) :: (s.delete id).entries⟩

theorem lookup_filter_ne {id other : String} (h : other ≠ id) (entries : List (String × History)) :
    (entries.filter fun e => e.1 != id).lookup other = entries.lookup other := by
  induction entries with
  | nil => rfl
  | cons e rest ih =>
    obtain ⟨key, value⟩ := e
    by_cases hk : key = id
    · subst hk
      have : (other == key) = false := by simp [h]
      simp [List.lookup_cons, ih, this]
    · simp [hk, List.lookup_cons, ih]

/-- What is put under an id is found there, and nothing else changes. -/
theorem get?_put (s : Store) (id other : String) (history : History) :
    (s.put id history).get? other = if other = id then some history else s.get? other := by
  by_cases h : other = id
  · simp [get?, put, h]
  · have hne : (other == id) = false := by simp [h]
    simp [get?, put, delete, List.lookup_cons, hne, h, lookup_filter_ne h]

/-- What is deleted is not found any more, and nothing else changes. -/
theorem get?_delete (s : Store) (id other : String) :
    (s.delete id).get? other = if other = id then none else s.get? other := by
  by_cases h : other = id
  · subst h
    rw [if_pos rfl, get?, delete, List.lookup_eq_none_iff]
    intro e he
    have hne : e.1 ≠ other := by simpa using (List.mem_filter.1 he).2
    simp [Ne.symm hne]
  · simp [get?, delete, h, lookup_filter_ne h]

end Store

end Draftsman.Session

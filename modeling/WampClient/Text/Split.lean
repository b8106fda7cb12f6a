/-! # Cutting texts

A text cut at a separator and put together again.
-/

namespace WampClient.Text

/-- The pieces between the members that satisfy `isSep`; there is always at least one piece. -/
def splitBy {α : Type} (isSep : α → Bool) : List α → List (List α)
  | [] => [[]]
  | c :: cs =>
    if isSep c then [] :: splitBy isSep cs
    else
      match splitBy isSep cs with
      | piece :: pieces => (c :: piece) :: pieces
      | [] => [[c]]

def joinWith {α : Type} (sep : α) : List (List α) → List α
  | [] => []
  | [piece] => piece
  | piece :: pieces => piece ++ sep :: joinWith sep pieces

/-- What stands before the first member that satisfies `isSep`, and what stands behind it if there
    is one. -/
def cut {α : Type} (isSep : α → Bool) : List α → List α × Option (List α)
  | [] => ([], none)
  | c :: cs =>
    if isSep c then ([], some cs)
    else
      let (before, behind) := cut isSep cs
      (c :: before, behind)

/-- What stands before the last member that satisfies `isSep`, if there is one, and what stands
    behind it. -/
def cutLast {α : Type} (isSep : α → Bool) (cs : List α) : Option (List α) × List α :=
  match cut isSep cs.reverse with
  | (behind, some before) => (some before.reverse, behind.reverse)
  | (_, none) => (none, cs)

theorem splitBy_ne_nil {α : Type} (isSep : α → Bool) (cs : List α) : splitBy isSep cs ≠ [] := by
  cases cs with
  | nil => simp [splitBy]
  | cons c cs =>
    simp only [splitBy]
    split
    · simp
    · split <;> simp

theorem joinWith_splitBy {α : Type} [DecidableEq α] (sep : α) (cs : List α) :
    joinWith sep (splitBy (· = sep) cs) = cs := by
  induction cs with
  | nil => rfl
  | cons c cs ih =>
    simp only [splitBy, decide_eq_true_eq]
    split
    · next h =>
      cases hs : splitBy (· = sep) cs with
      | nil => exact absurd hs (splitBy_ne_nil _ _)
      | cons p ps => simp [joinWith, ← hs, ih, h]
    · cases hs : splitBy (· = sep) cs with
      | nil => exact absurd hs (splitBy_ne_nil _ _)
      | cons p ps =>
        rw [hs] at ih
        cases ps with
        | nil => simpa [joinWith] using ih
        | cons q qs => simpa [joinWith] using ih

end WampClient.Text

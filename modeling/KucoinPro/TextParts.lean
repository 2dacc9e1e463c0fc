import Mathlib.Data.List.TakeWhile

-- Parts that are put one after the other with nothing in between.
namespace TextParts

variable {α : Type}

-- What follows cannot be taken for more of a part in the alphabet `p`.
def Stops (p : α → Bool) (rest : List α) : Prop := ∀ c, rest.head? = some c → p c = false

theorem takeWhile_stops {p : α → Bool} {part rest : List α} (all : ∀ c ∈ part, p c = true) (stops : Stops p rest) :
    (part ++ rest).takeWhile p = part ∧ (part ++ rest).dropWhile p = rest := by
  rw [List.takeWhile_append_of_pos all,List.dropWhile_append_of_pos all]
  cases rest with
  | nil => simp
  | cons c rest =>
      have apart : p c = false := stops c rfl
      simp [apart]

-- Each part is in its own alphabet, and what follows it is not.
inductive Fits : List (α → Bool) → List (List α) → Prop where
  | nil : Fits [] []
  | cons : (∀ c ∈ part, p c = true) → Stops p parts.flatten → Fits alphabets parts →
      Fits (p :: alphabets) (part :: parts)

-- Such parts are found again, by induction on the alphabets.
theorem Fits.unique {alphabets : List (α → Bool)} {parts others : List (List α)} (fits : Fits alphabets parts)
    (fits' : Fits alphabets others) (same : parts.flatten = others.flatten) : parts = others := by
  induction fits generalizing others with
  | nil =>
      cases fits'
      rfl
  | cons all stops _ ih =>
      cases fits' with
      | cons all' stops' rest' =>
          obtain ⟨taken,dropped⟩ := takeWhile_stops all stops
          obtain ⟨taken',dropped'⟩ := takeWhile_stops all' stops'
          rw [List.flatten_cons,List.flatten_cons] at same
          rw [same] at taken dropped
          rw [← taken,taken',ih rest' (dropped.symm.trans dropped')]

end TextParts

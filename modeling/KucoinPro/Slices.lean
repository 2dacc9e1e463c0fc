import Mathlib.Data.List.Nodup
import Mathlib.Data.List.Basic

namespace Slices

-- A list cut into slices of `width` elements: what of slice `index` stands at
-- `start` or later.
def slice (width index start : Nat) (xs : List α) : List α :=
  (xs.zipIdx.filter fun row => row.2 / width == index && decide (start ≤ row.2)).map (·.1)

-- How many slices there are.
def slices (width total : Nat) : Nat := (total + width - 1) / width

theorem mem_slice {xs : List α} : x ∈ slice width index start xs ↔ ∃ p, xs[p]? = some x ∧ p / width = index ∧ start ≤ p := by
  constructor
  · intro inside
    obtain ⟨⟨y,p⟩,kept,rfl⟩ := List.mem_map.mp inside
    obtain ⟨row,selected⟩ := List.mem_filter.mp kept
    rw [Bool.and_eq_true,beq_iff_eq,decide_eq_true_eq] at selected
    exact ⟨p,List.mem_zipIdx_iff_getElem?.mp row,selected.1,selected.2⟩
  · intro ⟨p,found,own,later⟩
    apply List.mem_map.mpr
    refine ⟨(x,p),List.mem_filter.mpr ⟨List.mem_zipIdx_iff_getElem?.mpr found,?_⟩,rfl⟩
    rw [Bool.and_eq_true,beq_iff_eq,decide_eq_true_eq]
    exact ⟨own,later⟩

theorem slice_nodup {xs : List α} (distinct : xs.Nodup) : (slice width index start xs).Nodup := by
  have sub : (slice width index start xs).Sublist (xs.zipIdx.map (·.1)) := List.filter_sublist.map _
  rw [List.zipIdx_map_fst] at sub
  exact distinct.sublist sub

-- What is appended extends a slice by its part from the old length on.
theorem slice_append (width index : Nat) (xs ys : List α) :
    slice width index 0 (xs ++ ys) = slice width index 0 xs ++ slice width index xs.length (xs ++ ys) := by
  have early : (xs.zipIdx.filter fun row => row.2 / width == index && decide (xs.length ≤ row.2)) = [] := by
    apply List.filter_eq_nil_iff.mpr
    intro ⟨y,p⟩ row
    have found := List.mem_zipIdx_iff_getElem?.mp row
    have bound : p < xs.length := by
      obtain ⟨bound,_⟩ := List.getElem?_eq_some_iff.mp found
      exact bound
    have before : ¬ xs.length ≤ p := by omega
    simp [before]
  have late : (ys.zipIdx (0 + xs.length)).filter (fun row => row.2 / width == index && decide (xs.length ≤ row.2)) =
      (ys.zipIdx (0 + xs.length)).filter (fun row => row.2 / width == index && decide (0 ≤ row.2)) := by
    apply List.filter_congr
    intro ⟨y,p⟩ row
    have from_length : xs.length ≤ p := by
      have bound := List.le_snd_of_mem_zipIdx row
      omega
    simp [from_length]
  unfold slice
  rw [List.zipIdx_append,List.filter_append,List.filter_append,early,late,List.nil_append,List.map_append]

theorem slice_unique {xs : List α} (distinct : xs.Nodup) (one : x ∈ slice width i start xs) (two : x ∈ slice width j start' xs) :
    i = j := by
  obtain ⟨p,foundP,rfl,_⟩ := mem_slice.mp one
  obtain ⟨q,foundQ,rfl,_⟩ := mem_slice.mp two
  obtain ⟨bound,atP⟩ := List.getElem?_eq_some_iff.mp foundP
  obtain ⟨boundQ,atQ⟩ := List.getElem?_eq_some_iff.mp foundQ
  have same : p = q := (distinct.getElem_inj_iff).mp (atP.trans atQ.symm)
  rw [same]

theorem slice_index {xs : List α} (positive : 0 < width) (inside : x ∈ slice width index start xs) :
    index < slices width xs.length := by
  obtain ⟨p,found,rfl,_⟩ := mem_slice.mp inside
  obtain ⟨bound,_⟩ := List.getElem?_eq_some_iff.mp found
  apply (Nat.div_lt_iff_lt_mul positive).mpr
  have total := Nat.lt_div_mul_add positive (a := xs.length + width - 1)
  unfold slices
  omega

theorem slice_exists {xs : List α} (positive : 0 < width) (inside : x ∈ xs) :
    ∃ index < slices width xs.length, x ∈ slice width index 0 xs := by
  obtain ⟨p,found⟩ := List.mem_iff_getElem?.mp inside
  have member : x ∈ slice width (p / width) 0 xs := mem_slice.mpr ⟨p,found,rfl,Nat.zero_le p⟩
  exact ⟨p / width,slice_index positive member,member⟩

end Slices

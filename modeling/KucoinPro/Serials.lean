import Mathlib.Data.Nat.ModEq
import Mathlib.Data.List.Perm.Basic
import Mathlib.Data.List.Nodup

-- Serial numbers: a counter of `width` values, stepped before each of its uses.
namespace Serials

def next (width last : Nat) : Nat := (last + 1) % width

def serial (width count : Nat) : Nat := (count + 1) % width

-- What has been handed out so far, in any order, and the last that was.
structure Issued (width : Nat) (ids : List Nat) (last : Nat) : Prop where
  order : ids.Perm ((List.range ids.length).map (serial width))
  latest : last = ids.length % width

theorem Issued.none (width : Nat) : Issued width [] 0 := ⟨.nil,(Nat.zero_mod width).symm⟩

theorem Issued.perm {others : List Nat} (issued : Issued width ids last) (same : others.Perm ids) : Issued width others last := by
  refine ⟨?_,?_⟩
  · rw [same.length_eq]
    exact same.trans issued.order
  · rw [same.length_eq]
    exact issued.latest

theorem Issued.issue (issued : Issued width ids last) : Issued width (next width last :: ids) (next width last) := by
  have following : next width last = serial width ids.length := by
    rw [next,issued.latest,serial,Nat.mod_add_mod]
  refine ⟨?_,following⟩
  rw [following,List.length_cons,List.range_succ,List.map_append,List.map_singleton]
  exact (List.perm_append_singleton _ _).symm.trans (issued.order.append_right _)

theorem serial_injective {a b : Nat} (first : a < width) (second : b < width) (same : serial width a = serial width b) : a = b := by
  have congruent : a ≡ b [MOD width] := Nat.ModEq.add_right_cancel' 1 same
  rwa [Nat.ModEq,Nat.mod_eq_of_lt first,Nat.mod_eq_of_lt second] at congruent

-- They are distinct for as long as the counter has not come round.
theorem Issued.nodup_iff (issued : Issued width ids last) (positive : 0 < width) : ids.Nodup ↔ ids.length ≤ width := by
  rw [issued.order.nodup_iff]
  constructor
  · intro distinct
    by_contra exceeded
    have same : serial width 0 = serial width width := by
      rw [serial,serial,Nat.zero_add,Nat.add_mod_left]
    have equal := List.inj_on_of_nodup_map distinct (List.mem_range.mpr (by omega)) (List.mem_range.mpr (by omega)) same
    omega
  · intro within
    apply List.Nodup.map_on ?_ List.nodup_range
    intro a before b after same
    have first := List.mem_range.mp before
    have second := List.mem_range.mp after
    exact serial_injective (by omega) (by omega) same

end Serials

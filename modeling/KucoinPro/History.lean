import Mathlib.Data.List.Basic

namespace History

-- A history is kept newest-first. What follows the latest cut is its head.
def upTo (cut : α → Bool) (history : List α) : List α := history.takeWhile (fun x => !cut x)

-- `x` occurs, and some marked entry is older than that occurrence.
def After (mark : α → Bool) (x : α) : List α → Prop
  | [] => False
  | y :: older => (x = y ∧ ∃ m ∈ older, mark m = true) ∨ After mark x older

-- Every entry, seen together with what is older than it, satisfies `p`.
def Every (p : α → List α → Prop) : List α → Prop
  | [] => True
  | x :: older => p x older ∧ Every p older

theorem upTo_cut (isCut : cut y = true) : upTo cut (y :: older) = [] := by simp [upTo,isCut]

theorem upTo_keep (keep : cut y = false) : upTo cut (y :: older) = y :: upTo cut older := by simp [upTo,keep]

theorem upTo_append (keep : ∀ x ∈ fresh, cut x = false) : upTo cut (fresh ++ older) = fresh ++ upTo cut older := by
  induction fresh with
  | nil => rfl
  | cons y rest ih =>
      rw [List.cons_append,upTo_keep (keep y (by simp)),ih (fun x member => keep x (by simp [member])),List.cons_append]

-- What a history tells, oldest first.
theorem filterMap_newest (tells : α → Option β) (x : α) (older : List α) :
    ((x :: older).filterMap tells).reverse = (older.filterMap tells).reverse ++ (tells x).toList := by
  cases known : tells x with
  | none => rw [List.filterMap_cons_none known,Option.toList_none,List.append_nil]
  | some y => rw [List.filterMap_cons_some known,List.reverse_cons,Option.toList_some]

theorem mem_of_upTo (member : x ∈ upTo cut history) : x ∈ history :=
  (List.takeWhile_prefix _).subset member

-- What came in two turns, and was admitted in both, came in one.
theorem newer_trans {entry : ε → α} {admitted : ε → Bool} {a b c : List α}
    (one : ∃ fresh : List ε, b = fresh.map entry ++ a ∧ ∀ e ∈ fresh, admitted e = true)
    (two : ∃ fresh : List ε, c = fresh.map entry ++ b ∧ ∀ e ∈ fresh, admitted e = true) :
    ∃ fresh : List ε, c = fresh.map entry ++ a ∧ ∀ e ∈ fresh, admitted e = true := by
  obtain ⟨first,firstLog,firstAdmitted⟩ := one
  obtain ⟨second,secondLog,secondAdmitted⟩ := two
  refine ⟨second ++ first,?_,?_⟩
  · rw [secondLog,firstLog,List.map_append,List.append_assoc]
  · intro e member
    rcases List.mem_append.mp member with new | old
    · exact secondAdmitted e new
    · exact firstAdmitted e old

theorem After.older (known : After mark x history) : After mark x (fresh ++ history) := by
  induction fresh with
  | nil => exact known
  | cons y rest ih => exact .inr ih

theorem After.mem (known : After mark x history) : x ∈ history := by
  induction history with
  | nil => exact known.elim
  | cons y older ih =>
      rcases known with ⟨rfl,_⟩ | earlier
      · exact List.mem_cons_self
      · exact List.mem_cons_of_mem _ (ih earlier)

theorem Every.newer {p : α → List α → Prop} {fresh history : List α}
    (each : ∀ x ∈ fresh, ∀ between, p x (between ++ history)) (known : Every p history) :
    Every p (fresh ++ history) := by
  induction fresh with
  | nil => exact known
  | cons x rest ih => exact ⟨each x (by simp) rest,ih fun y member => each y (by simp [member])⟩

theorem every_iff : Every p history ↔ ∀ newer x older, history = newer ++ x :: older → p x older := by
  induction history with
  | nil => simp [Every]
  | cons y rest ih =>
      constructor
      · rintro ⟨now,earlier⟩ newer x older split
        cases newer with
        | nil =>
            obtain ⟨rfl,rfl⟩ := List.cons.inj split
            exact now
        | cons z newer =>
            obtain ⟨rfl,tail⟩ := List.cons.inj split
            exact ih.mp earlier newer x older tail
      · intro all
        exact ⟨all [] y rest rfl,ih.mpr fun newer x older split => all (y :: newer) x older (congrArg (y :: ·) split)⟩

end History

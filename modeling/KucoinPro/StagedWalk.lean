import Mathlib.Order.Basic

namespace StagedWalk

-- An enumeration that is worked through in order, from `first` to `done`.
-- `remaining` is what makes every walk over it end.
class Stages (S : Type) where
  undefined : S
  first : S
  done : S
  next : S → S
  remaining : S → Nat
  remaining_next : ∀ s, s ≠ done → remaining (next s) < remaining s

-- What a walker shows of itself while it is driven through the stages.
class Walker (D : Type) (S : outParam Type) where
  state : D → S
  sequence : D → Nat

-- The walk from stage `s`: the callback is run on the stage, a result of 0
-- passes to the next one, anything else waits, and the last stage ends it.
-- The walker handed to the callback is the one whose sequence number stays.
inductive Walk {S D σ : Type} [Stages S] [Walker D S] (callback : D → S → σ → Int × σ) :
    S → σ → D → σ → Prop where
  | wait : s ≠ Stages.done → (callback during s w).1 ≠ 0 → Walker.state d = s →
      Walker.sequence d = Walker.sequence during → Walk callback s w d (callback during s w).2
  | last : Walker.state d = (Stages.done : S) → Walk callback Stages.done w d (callback during Stages.done w).2
  | pass : s ≠ Stages.done → (callback during s w).1 = 0 →
      Walk callback (Stages.next s) (callback during s w).2 d after → Walk callback s w d after

-- The rule of a walk: `entering` is what holds before the callback runs on a
-- stage, `waiting` what holds once the walk rests there.
theorem Walk.rule {S D σ : Type} [Stages S] [Walker D S] {callback : D → S → σ → Int × σ}
    {s : S} {d : D} {before after : σ} (entering waiting : S → σ → Prop)
    (waits : ∀ during s w, s ≠ Stages.done → entering s w → (callback during s w).1 ≠ 0 → waiting s (callback during s w).2)
    (passes : ∀ during s w, s ≠ Stages.done → entering s w → (callback during s w).1 = 0 →
      entering (Stages.next s) (callback during s w).2)
    (ends : ∀ during w, entering Stages.done w → waiting Stages.done (callback during Stages.done w).2)
    (walk : Walk callback s before d after) (start : entering s before) : waiting (Walker.state d) after := by
  induction walk with
  | wait working stays rests _ => rw [rests]; exact waits _ _ _ working start stays
  | last rests => rw [rests]; exact ends _ _ start
  | pass working zero _ ih => exact ih (passes _ _ _ working start zero)

theorem Walk.related {S D σ : Type} [Stages S] [Walker D S] {callback : D → S → σ → Int × σ}
    {s : S} {d : D} {before after : σ} (related : σ → σ → Prop) (trans : ∀ a b c, related a b → related b c → related a c)
    (each : ∀ during s w, related w (callback during s w).2)
    (walk : Walk callback s before d after) : related before after := by
  induction walk with
  | wait => exact each _ _ _
  | last => exact each _ _ _
  | pass _ _ _ ih => exact trans _ _ _ (each _ _ _) ih

theorem Walk.rests {S D σ : Type} [Stages S] [Walker D S] {callback : D → S → σ → Int × σ}
    {s : S} {d : D} {before after : σ} (walk : Walk callback s before d after) :
    Stages.remaining (Walker.state d) ≤ Stages.remaining s := by
  induction walk with
  | wait _ _ rests _ => exact Nat.le_of_eq (by rw [rests])
  | last rests => exact Nat.le_of_eq (by rw [rests])
  | pass working _ _ ih => exact Nat.le_trans ih (Nat.le_of_lt (Stages.remaining_next _ working))

end StagedWalk

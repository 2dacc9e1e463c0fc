import KucoinPro.StagedWalk
import KucoinPro.Types

namespace KucoinPro
open StagedWalk

-- core::limit::Request and core::Download2 are not part of the repository. The
-- gateway is modelled over any implementation; the `Lawful` classes say what it
-- relies on.

-- core::limit::Request. `pending` is a request that has not been picked up,
-- `response` what has_response() answers. `checkPending` gets the answer of
-- can_request and says whether the callback is to be run.
class LimitRequest (R : Type) where
  create : R
  pending : R → Bool
  response : R → Bool
  request : TraceInfo → R → R
  checkPending : TraceInfo → Bool → R → Bool × R
  commit : TraceInfo → R → R
  hasResponse : R → Bool × R

class LawfulLimitRequest (R : Type) [LimitRequest R] : Prop where
  create_pending : LimitRequest.pending (LimitRequest.create : R) = false
  create_response : LimitRequest.response (LimitRequest.create : R) = false
  request_pending : ∀ t (r : R), LimitRequest.pending (LimitRequest.request t r) = true
  request_response : ∀ t (r : R), LimitRequest.response (LimitRequest.request t r) = false
  checkPending_fst : ∀ t granted (r : R), (LimitRequest.checkPending t granted r).1 = (LimitRequest.pending r && granted)
  checkPending_pending : ∀ t granted (r : R), LimitRequest.pending (LimitRequest.checkPending t granted r).2 =
    (LimitRequest.pending r && !granted)
  checkPending_response : ∀ t granted (r : R), LimitRequest.response (LimitRequest.checkPending t granted r).2 =
    LimitRequest.response r
  -- the response flag is set whatever request is being answered
  commit_response : ∀ t (r : R), LimitRequest.response (LimitRequest.commit t r) = true
  commit_pending : ∀ t (r : R), LimitRequest.pending (LimitRequest.commit t r) = LimitRequest.pending r
  hasResponse_fst : ∀ r : R, (LimitRequest.hasResponse r).1 = LimitRequest.response r
  -- reading the flag may take it, never set it
  hasResponse_response : ∀ r : R, LimitRequest.response (LimitRequest.hasResponse r).2 = true → LimitRequest.response r = true
  hasResponse_pending : ∀ r : R, LimitRequest.pending (LimitRequest.hasResponse r).2 = LimitRequest.pending r

attribute [simp] LawfulLimitRequest.create_pending LawfulLimitRequest.create_response
  LawfulLimitRequest.request_pending LawfulLimitRequest.request_response
  LawfulLimitRequest.checkPending_fst LawfulLimitRequest.checkPending_pending LawfulLimitRequest.checkPending_response
  LawfulLimitRequest.commit_response LawfulLimitRequest.commit_pending
  LawfulLimitRequest.hasResponse_fst LawfulLimitRequest.hasResponse_pending

-- core::Download2<State>. The callback is handed the walker itself because the
-- gateway reads sequence() from inside it.
class Download2 (D : Type) (S : outParam Type) extends Walker D S where
  create : D
  downloading : D → Bool
  skip : Nat → S → D → Bool
  begin : {σ : Type} → (D → S → σ → Int × σ) → D → σ → D × σ
  bump : {σ : Type} → (D → S → σ → Int × σ) → D → σ → D × σ
  check : {σ : Type} → (D → S → σ → Int × σ) → S → D → σ → D × σ
  retry : {σ : Type} → (D → S → σ → Int × σ) → S → D → σ → D × σ
  reset : D → D

def Unmoved [Download2 D S] (d : D) (w : σ) (result : D × σ) : Prop :=
  Walker.state result.1 = Walker.state d ∧ result.2 = w

theorem unmoved_related [Download2 D S] {keeps : σ → σ → Prop} {d : D} {w : σ} {result : D × σ} (unmoved : Unmoved d w result)
    (refl : ∀ w, keeps w w) : keeps w result.2 := by
  obtain ⟨_,same⟩ := unmoved
  rw [same]
  exact refl w

-- A state is left only through check of that very state, or through a 0 of the
-- callback, and then for the next state. What begin does to a running download,
-- check of UNDEFINED or DONE to an idle one, and whether retry calls back at
-- once, is left open.
class LawfulDownload2 (D : Type) {S : Type} [Stages S] [Download2 D S] : Prop where
  create_state : Walker.state (Download2.create : D) = (Stages.undefined : S)
  downloading_iff : ∀ d : D, Download2.downloading d = true ↔
    Walker.state d ≠ (Stages.undefined : S) ∧ Walker.state d ≠ (Stages.done : S)
  begin_idle : ∀ {σ : Type} (callback : D → S → σ → Int × σ) d w, Download2.downloading d = false →
    Walk callback Stages.first w (Download2.begin callback d w).1 (Download2.begin callback d w).2
  begin_running : ∀ {σ : Type} (callback : D → S → σ → Int × σ) d w, Download2.downloading d = true →
    Unmoved d w (Download2.begin callback d w) ∨ ∃ s, (s = Stages.first ∨ s = Walker.state d) ∧
      Walk callback s w (Download2.begin callback d w).1 (Download2.begin callback d w).2
  bump_running : ∀ {σ : Type} (callback : D → S → σ → Int × σ) d w, Download2.downloading d = true →
    Walk callback (Walker.state d) w (Download2.bump callback d w).1 (Download2.bump callback d w).2
  check_current : ∀ {σ : Type} (callback : D → S → σ → Int × σ) d w, Download2.downloading d = true →
    Walk callback (Stages.next (Walker.state d)) w
      (Download2.check callback (Walker.state d) d w).1 (Download2.check callback (Walker.state d) d w).2
  check_idle : ∀ {σ : Type} (callback : D → S → σ → Int × σ) d w, Download2.downloading d = false →
    Unmoved d w (Download2.check callback (Walker.state d) d w) ∨
      Walk callback Stages.first w
        (Download2.check callback (Walker.state d) d w).1 (Download2.check callback (Walker.state d) d w).2
  check_other : ∀ {σ : Type} (callback : D → S → σ → Int × σ) s d w, s ≠ Walker.state d →
    Unmoved d w (Download2.check callback s d w)
  retry_rearms : ∀ {σ : Type} (callback : D → S → σ → Int × σ) s d w,
    Unmoved d w (Download2.retry callback s d w) ∨
      Download2.downloading d = true ∧ s = Walker.state d ∧
      Walk callback s w (Download2.retry callback s d w).1 (Download2.retry callback s d w).2
  reset_state : ∀ d : D, Walker.state (Download2.reset d) = (Stages.undefined : S)
  skip_current : ∀ d : D, Download2.skip (Walker.sequence d) (Walker.state d) d = false

-- Where it matters what begin does to a running download: like everything else
-- it takes the download out of its state only through a 0 of the callback.
class LawfulBegin (D : Type) {S : Type} [Stages S] [Download2 D S] : Prop where
  begin_stays : ∀ {σ : Type} (callback : D → S → σ → Int × σ) d w, Download2.downloading d = true →
    Unmoved d w (Download2.begin callback d w) ∨
      Walk callback (Walker.state d) w (Download2.begin callback d w).1 (Download2.begin callback d w).2

-- What the callback keeps is kept by every call of the download.
section calls
variable {D S σ : Type} [Stages S] [Download2 D S] [LawfulDownload2 D] {callback : D → S → σ → Int × σ} (keeps : σ → σ → Prop)

theorem begin_related (refl : ∀ w, keeps w w) (trans : ∀ a b c, keeps a b → keeps b c → keeps a c)
    (each : ∀ d s w, keeps w (callback d s w).2) (d : D) (w : σ) : keeps w (Download2.begin callback d w).2 := by
  cases running : Download2.downloading d with
  | false => exact (LawfulDownload2.begin_idle callback d w running).related keeps trans each
  | true =>
      rcases LawfulDownload2.begin_running callback d w running with unmoved | ⟨_,_,walk⟩
      · exact unmoved_related unmoved refl
      · exact walk.related keeps trans each

theorem check_related (refl : ∀ w, keeps w w) (trans : ∀ a b c, keeps a b → keeps b c → keeps a c)
    (each : ∀ d s w, keeps w (callback d s w).2) (s : S) (d : D) (w : σ) : keeps w (Download2.check callback s d w).2 := by
  by_cases current : s = Walker.state d
  · subst current
    cases running : Download2.downloading d with
    | true => exact (LawfulDownload2.check_current callback d w running).related keeps trans each
    | false =>
        rcases LawfulDownload2.check_idle callback d w running with unmoved | walk
        · exact unmoved_related unmoved refl
        · exact walk.related keeps trans each
  · exact unmoved_related (LawfulDownload2.check_other callback s d w current) refl

theorem retry_related (refl : ∀ w, keeps w w) (trans : ∀ a b c, keeps a b → keeps b c → keeps a c)
    (each : ∀ d s w, keeps w (callback d s w).2) (s : S) (d : D) (w : σ) : keeps w (Download2.retry callback s d w).2 := by
  rcases LawfulDownload2.retry_rearms callback s d w with unmoved | ⟨_,_,walk⟩
  · exact unmoved_related unmoved refl
  · exact walk.related keeps trans each

end calls

-- The smallest implementations, for closed runs.
structure Slot where
  pending : Bool
  response : Bool
  deriving DecidableEq, Repr

instance : LimitRequest Slot where
  create := ⟨false,false⟩
  pending := Slot.pending
  response := Slot.response
  request _ _ := ⟨true,false⟩
  checkPending _ granted r := (r.pending && granted,⟨r.pending && !granted,r.response⟩)
  commit _ r := {r with response := true}
  hasResponse r := (r.response,r)

instance : LawfulLimitRequest Slot := by
  constructor <;> intros <;> first | rfl | assumption

structure Stepper (S : Type) where
  state : S
  sequence : Nat

namespace Stepper
variable {S σ : Type} [Stages S] [DecidableEq S]

def walk (callback : Stepper S → S → σ → Int × σ) : Nat → Stepper S → σ → Stepper S × σ
  | 0,d,w => (d,w)
  | fuel+1,d,w =>
    let (count,after) := callback d d.state w
    if d.state = Stages.done ∨ count ≠ 0 then (d,after) else walk callback fuel {d with state := Stages.next d.state} after

def enter (callback : Stepper S → S → σ → Int × σ) (s : S) (d : Stepper S) (w : σ) : Stepper S × σ :=
  walk callback (Stages.remaining s + 1) {d with state := s} w

instance : Download2 (Stepper S) S where
  state := Stepper.state
  sequence := Stepper.sequence
  create := ⟨Stages.undefined,0⟩
  downloading d := decide (d.state ≠ Stages.undefined ∧ d.state ≠ Stages.done)
  skip sequence s d := decide (sequence ≠ d.sequence ∨ s ≠ d.state)
  begin callback d w :=
    if decide (d.state ≠ Stages.undefined ∧ d.state ≠ Stages.done) then (d,w)
    else enter callback Stages.first {d with sequence := d.sequence + 1} w
  bump callback d w := enter callback d.state {d with sequence := d.sequence + 1} w
  check callback s d w :=
    if s = d.state ∧ d.state ≠ Stages.undefined ∧ d.state ≠ Stages.done then enter callback (Stages.next s) d w else (d,w)
  retry _ _ d w := (d,w)
  reset d := {d with state := Stages.undefined}

theorem walk_walks (callback : Stepper S → S → σ → Int × σ) (fuel : Nat) (d : Stepper S) (w : σ)
    (enough : Stages.remaining d.state < fuel) :
    Walk callback d.state w (walk callback fuel d w).1 (walk callback fuel d w).2 := by
  induction fuel generalizing d w with
  | zero => omega
  | succ fuel ih =>
      simp only [walk]
      by_cases last : d.state = Stages.done
      · rw [if_pos (.inl last),last]
        exact .last last
      · by_cases waits : (callback d d.state w).1 = 0
        · rw [if_neg (by simp [last,waits])]
          have less := Stages.remaining_next d.state last
          exact .pass last waits (ih {d with state := Stages.next d.state} _ (by simp only; omega))
        · rw [if_pos (.inr waits)]
          exact .wait last waits rfl rfl

theorem enter_walks (callback : Stepper S → S → σ → Int × σ) (s : S) (d : Stepper S) (w : σ) :
    Walk callback s w (enter callback s d w).1 (enter callback s d w).2 :=
  walk_walks callback _ {d with state := s} w (Nat.lt_succ_self _)

theorem begin_unmoved (callback : Stepper S → S → σ → Int × σ) (d : Stepper S) (w : σ)
    (running : Download2.downloading d = true) : Unmoved d w (Download2.begin callback d w) := by
  have stays : Download2.begin callback d w = (d,w) := if_pos running
  exact stays ▸ ⟨rfl,rfl⟩

instance : LawfulBegin (Stepper S) where
  begin_stays callback d w running := .inl (begin_unmoved callback d w running)

instance : LawfulDownload2 (Stepper S) where
  create_state := rfl
  downloading_iff d := by simp [Download2.downloading,Walker.state]
  begin_idle callback d w idle := by
    have restarts : Download2.begin callback d w = enter callback Stages.first {d with sequence := d.sequence + 1} w :=
      if_neg (Bool.eq_false_iff.mp idle)
    exact restarts ▸ enter_walks _ _ _ _
  begin_running callback d w running := .inl (begin_unmoved callback d w running)
  bump_running callback d w _ := enter_walks _ _ _ _
  check_current callback d w running := by
    have working : d.state ≠ Stages.undefined ∧ d.state ≠ Stages.done := by
      simpa [Download2.downloading] using running
    simp only [Download2.check,Walker.state,working,ne_eq,not_false_eq_true,and_self,if_true]
    exact enter_walks _ _ _ _
  check_idle callback d w idle := by
    have resting : ¬(d.state ≠ Stages.undefined ∧ d.state ≠ Stages.done) := by
      simpa [Download2.downloading] using idle
    refine .inl ?_
    simp only [Download2.check,Walker.state,true_and,if_neg resting]
    exact ⟨rfl,rfl⟩
  check_other callback s d w other := by
    have different : ¬(s = d.state) := other
    simp only [Download2.check,different,false_and,if_false]
    exact ⟨rfl,rfl⟩
  retry_rearms _ _ _ _ := .inl ⟨rfl,rfl⟩
  reset_state _ := rfl
  skip_current d := by simp [Download2.skip,Walker.state,Walker.sequence]

end Stepper
end KucoinPro

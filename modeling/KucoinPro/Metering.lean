import Mathlib.Data.Bool.Basic

-- A limiter that several parties share, and a meter on it.
namespace Metering

-- Each request asks for a grant at its time and gets it or not.
class RateLimiter (L τ : Type) where
  canRequest : τ → L → Bool × L

structure Meter (L : Type) where
  limiter : L
  grants : Nat

namespace Meter
variable {L τ : Type} [RateLimiter L τ] (t : τ) (m : Meter L)

def ask : Bool × Meter L :=
  let (granted,limiter) := RateLimiter.canRequest t m.limiter
  (granted,⟨limiter,m.grants + granted.toNat⟩)

def askIf (wanted : Bool) : Bool × Meter L := if wanted then m.ask t else (false,m)

-- One after the other, as long as they are granted.
def draw : Nat → Meter L → Nat × Meter L
  | 0,m => (0,m)
  | wanted + 1,m =>
      let (granted,asked) := m.ask t
      if granted then
        let (more,drawn) := draw wanted asked
        (more + 1,drawn)
      else (0,asked)

theorem ask_grants : (m.ask t).2.grants = m.grants + (m.ask t).1.toNat := rfl

theorem askIf_fst (wanted : Bool) : (m.askIf t wanted).1 = (wanted && (m.ask t).1) := by
  cases wanted <;> rfl

theorem askIf_grants (wanted : Bool) : (m.askIf t wanted).2.grants = m.grants + (m.askIf t wanted).1.toNat := by
  cases wanted <;> rfl

variable {m}

theorem draw_granted {wanted : Nat} (granted : (m.ask t).1 = true) :
    m.draw t (wanted + 1) = (((m.ask t).2.draw t wanted).1 + 1,((m.ask t).2.draw t wanted).2) := by
  rw [draw]
  exact if_pos granted

theorem draw_refused {wanted : Nat} (refused : (m.ask t).1 = false) : m.draw t (wanted + 1) = (0,(m.ask t).2) := by
  rw [draw]
  exact if_neg (Bool.eq_false_iff.mp refused)

-- Every one that is drawn is a grant, and there are not more than are wanted.
theorem draw_spec (wanted : Nat) (m : Meter L) :
    (m.draw t wanted).2.grants = m.grants + (m.draw t wanted).1 ∧ (m.draw t wanted).1 ≤ wanted := by
  induction wanted generalizing m with
  | zero => exact ⟨rfl,Nat.le_refl 0⟩
  | succ wanted ih =>
      have asked := ask_grants t m
      cases answer : (m.ask t).1 with
      | true =>
          obtain ⟨grants,bound⟩ := ih (m.ask t).2
          rw [draw_granted t answer]
          rw [answer,Bool.toNat_true] at asked
          constructor
          · show ((m.ask t).2.draw t wanted).2.grants = _
            omega
          · exact Nat.succ_le_succ bound
      | false =>
          rw [draw_refused t answer]
          rw [answer,Bool.toNat_false] at asked
          exact ⟨asked,Nat.zero_le _⟩

end Meter

-- The smallest limiter: so many grants and no more.
structure Tokens where
  left : Nat
  deriving DecidableEq, Repr

instance : RateLimiter Tokens τ where
  canRequest _ tokens := (decide (0 < tokens.left),⟨tokens.left - 1⟩)

end Metering

import KucoinPro.GuardedRuns

-- Two levels of one machine: what a run leaves behind for others to see is a word of
-- an abstract machine, which is always at the stage that the state stands for.
namespace KucoinPro.Protocols
open GuardedRuns

variable {σ τ ℓ ε : Type*} {advance : τ → ℓ → Option τ} {spoken : σ → List ℓ} {stage : σ → τ} {a b c : σ}

def Speaks (advance : τ → ℓ → Option τ) (spoken : σ → List ℓ) (stage : σ → τ) (a b : σ) : Prop :=
  ∃ said, spoken b = spoken a ++ said ∧ execute advance (stage a) said = some (stage b)

theorem Speaks.silent (same : spoken b = spoken a) (stays : stage b = stage a) : Speaks advance spoken stage a b :=
  ⟨[],by rw [same,List.append_nil],by rw [stays]; rfl⟩

theorem Speaks.refl (a : σ) : Speaks advance spoken stage a a := .silent rfl rfl

theorem Speaks.say {letter : ℓ} (said : spoken b = spoken a ++ [letter]) (allowed : advance (stage a) letter = some (stage b)) :
    Speaks advance spoken stage a b := by
  refine ⟨[letter],said,?_⟩
  rw [execute,allowed]
  rfl

theorem Speaks.trans (one : Speaks advance spoken stage a b) (two : Speaks advance spoken stage b c) :
    Speaks advance spoken stage a c := by
  obtain ⟨first,firstSaid,firstAllowed⟩ := one
  obtain ⟨second,secondSaid,secondAllowed⟩ := two
  refine ⟨first ++ second,?_,?_⟩
  · rw [secondSaid,firstSaid,List.append_assoc]
  · rw [execute_append,firstAllowed]
    exact secondAllowed

-- What holds of the state and of all that it has said so far.
def Accepted (advance : τ → ℓ → Option τ) (start : τ) (spoken : σ → List ℓ) (stage : σ → τ) (a : σ) : Prop :=
  execute advance start (spoken a) = some (stage a)

theorem Accepted.speaks {start : τ} (accepted : Accepted advance start spoken stage a) (speaks : Speaks advance spoken stage a b) :
    Accepted advance start spoken stage b := by
  obtain ⟨said,more,allowed⟩ := speaks
  unfold Accepted
  rw [more,execute_append,accepted]
  exact allowed

-- An invariant of the abstract machine holds at every stage of a run.
theorem Accepted.invariant {start : τ} {valid : τ → Prop} (accepted : Accepted advance start spoken stage a)
    (initial : valid start) (preserved : ∀ s letter after, valid s → advance s letter = some after → valid after) :
    valid (stage a) := execute_invariant preserved initial accepted

-- What holds of a stage and of the word that has led there.
theorem execute_history {holds : List ℓ → τ → Prop} {s last : τ} {done word : List ℓ}
    (each : ∀ done s letter after, holds done s → advance s letter = some after → holds (done ++ [letter]) after)
    (start : holds done s) (ran : execute advance s word = some last) : holds (done ++ word) last := by
  induction word generalizing s done with
  | nil =>
      obtain rfl := Option.some.inj ran
      rw [List.append_nil]
      exact start
  | cons letter rest ih =>
      obtain ⟨next,first,others⟩ := Option.bind_eq_some_iff.mp ran
      have more := ih (each done s letter next start first) others
      rwa [List.append_assoc] at more

end KucoinPro.Protocols

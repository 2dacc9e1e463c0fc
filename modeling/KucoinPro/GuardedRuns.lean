import Mathlib.Data.List.Induction

namespace GuardedRuns

-- A machine whose step may end the process (`none`). The guard is a condition
-- on the state before a step and on its input; `fun _ _ => True` admits all.
inductive Reached (start : σ) (step : σ → ε → Option σ) (guard : σ → ε → Prop) : σ → Prop where
  | start : Reached start step guard start
  | step : Reached start step guard before → guard before input → step before input = some after →
      Reached start step guard after

theorem Reached.invariant {start : σ} {step : σ → ε → Option σ} {guard : σ → ε → Prop} {valid : σ → Prop}
    (initial : valid start)
    (preserved : ∀ before input after, valid before → guard before input → step before input = some after → valid after)
    (path : Reached start step guard s) : valid s := by
  induction path with
  | start => exact initial
  | step _ allowed ran ih => exact preserved _ _ _ ih allowed ran

theorem Reached.weaken {start : σ} {step : σ → ε → Option σ} {guard loose : σ → ε → Prop}
    (implied : ∀ s input, guard s input → loose s input) (path : Reached start step guard s) :
    Reached start step loose s := by
  induction path with
  | start => exact .start
  | step _ allowed ran ih => exact .step ih (implied _ _ allowed) ran

def execute (step : σ → ε → Option σ) : σ → List ε → Option σ
  | s,[] => some s
  | s,input :: rest => (step s input).bind (execute step · rest)

-- The guard, where it is decidable, checked before every step of a run.
def along (step : σ → ε → Option σ) (guard : σ → ε → Bool) : σ → List ε → Bool
  | _,[] => true
  | s,input :: rest => guard s input && (step s input).all (along step guard · rest)

theorem Reached.execute {start : σ} {step : σ → ε → Option σ} {guard : σ → ε → Bool} {inputs : List ε}
    (path : Reached start step (fun s input => guard s input = true) s)
    (allowed : along step guard s inputs = true) (ran : GuardedRuns.execute step s inputs = some last) :
    Reached start step (fun s input => guard s input = true) last := by
  induction inputs generalizing s with
  | nil =>
      simp only [GuardedRuns.execute,Option.some.injEq] at ran
      exact ran ▸ path
  | cons input rest ih =>
      obtain ⟨next,first,others⟩ := Option.bind_eq_some_iff.mp ran
      simp only [along,first,Option.all_some,Bool.and_eq_true] at allowed
      exact ih (.step path allowed.1 first) allowed.2 others

theorem execute_reached {start : σ} {step : σ → ε → Option σ} {inputs : List ε}
    (ran : GuardedRuns.execute step start inputs = some last) :
    Reached start step (fun _ _ => True) last := by
  suffices general : ∀ s, Reached start step (fun _ _ => True) s →
      GuardedRuns.execute step s inputs = some last → Reached start step (fun _ _ => True) last from
    general start .start ran
  clear ran
  induction inputs with
  | nil =>
      intro s path ran
      simp only [execute,Option.some.injEq] at ran
      exact ran ▸ path
  | cons input rest ih =>
      intro s path ran
      obtain ⟨next,first,others⟩ := Option.bind_eq_some_iff.mp ran
      exact ih next (.step path True.intro first) others

-- About the steps of one run: the state before, the input, the state after.
def EveryStep (step : σ → ε → Option σ) (start : σ) (inputs : List ε) (property : σ → ε → σ → Prop) : Prop :=
  ∀ earlier input later before after, inputs = earlier ++ input :: later →
    GuardedRuns.execute step start earlier = some before → step before input = some after → property before input after

theorem EveryStep.implies {step : σ → ε → Option σ} {property implied : σ → ε → σ → Prop}
    (each : ∀ before input after, step before input = some after → property before input after → implied before input after)
    (known : EveryStep step start inputs property) : EveryStep step start inputs implied := by
  intro earlier input later before after split ran stepped
  exact each before input after stepped (known earlier input later before after split ran stepped)

theorem execute_append (step : σ → ε → Option σ) (s : σ) (earlier later : List ε) :
    execute step s (earlier ++ later) = (execute step s earlier).bind (execute step · later) := by
  induction earlier generalizing s with
  | nil => rfl
  | cons input rest ih =>
      simp only [List.cons_append,execute]
      cases step s input with
      | none => rfl
      | some next => exact ih next

theorem execute_last {step : σ → ε → Option σ} {s after : σ} {front : List ε} {input : ε}
    (ran : execute step s (front ++ [input]) = some after) :
    ∃ middle, execute step s front = some middle ∧ step middle input = some after := by
  rw [execute_append] at ran
  obtain ⟨middle,executed,last⟩ := Option.bind_eq_some_iff.mp ran
  simp only [execute,Option.bind_eq_some_iff] at last
  obtain ⟨next,stepped,same⟩ := last
  obtain rfl := Option.some.inj same
  exact ⟨middle,executed,stepped⟩

theorem EveryStep.reached {step : σ → ε → Option σ} {guard : σ → ε → Prop}
    (known : EveryStep step start inputs (fun s input _ => guard s input)) (split : inputs = earlier ++ later)
    (ran : GuardedRuns.execute step start earlier = some before) : Reached start step guard before := by
  induction earlier using List.reverseRecOn generalizing before later with
  | nil =>
      obtain rfl := Option.some.inj ran
      exact .start
  | append_singleton front input ih =>
      obtain ⟨middle,executed,stepped⟩ := execute_last ran
      have cut : inputs = front ++ input :: later := by rw [split,List.append_assoc,List.singleton_append]
      exact .step (ih cut executed) (known front input later middle _ cut executed stepped) stepped

-- About what becomes of the inputs of one run, also of the one that ends it.
def EveryInput (step : σ → ε → Option σ) (start : σ) (inputs : List ε) (property : σ → ε → Option σ → Prop) : Prop :=
  ∀ earlier input later before, inputs = earlier ++ input :: later → GuardedRuns.execute step start earlier = some before →
    property before input (step before input)

theorem everyInput_along {start : σ} {step : σ → ε → Option σ} (guard : σ → ε → Bool)
    (allowed : along step guard start inputs = true) : EveryInput step start inputs (fun s input _ => guard s input = true) := by
  intro earlier input later before split ran
  induction earlier generalizing start inputs with
  | nil =>
      subst split
      simp only [GuardedRuns.execute,Option.some.injEq] at ran
      subst ran
      simp only [List.nil_append,along,Bool.and_eq_true] at allowed
      exact allowed.1
  | cons first rest ih =>
      subst split
      obtain ⟨next,one,others⟩ := Option.bind_eq_some_iff.mp ran
      simp only [List.cons_append,along,one,Option.all_some,Bool.and_eq_true] at allowed
      exact ih allowed.2 rfl others

theorem everyStep_along {start : σ} {step : σ → ε → Option σ} (guard : σ → ε → Bool)
    (allowed : along step guard start inputs = true) : EveryStep step start inputs (fun s input _ => guard s input = true) := by
  intro earlier input later before after split ran _
  exact everyInput_along guard allowed earlier input later before split ran

theorem EveryStep.last {step : σ → ε → Option σ} (known : EveryStep step start (inputs ++ [input]) property)
    (ran : GuardedRuns.execute step start inputs = some before) (stepped : step before input = some after) :
    property before input after := known inputs input [] before after rfl ran stepped

-- A condition that is computed, and never met on a closed run.
theorem everyStep_never {start : σ} {step : σ → ε → Option σ} (bad : σ → ε → Bool)
    (never : along step (fun s input => !bad s input) start inputs = true) :
    EveryStep step start inputs (fun s input _ => bad s input = false) := by
  refine EveryStep.implies ?_ (everyStep_along (fun s input => !bad s input) never)
  intro before input after _ known
  simpa using known

theorem reached_of_execute (start : σ) (step : σ → ε → Option σ) (guard : σ → ε → Bool) (inputs : List ε)
    (check : σ → Bool) (allowed : along step guard start inputs = true)
    (ran : (GuardedRuns.execute step start inputs).any check = true) :
    ∃ s, Reached start step (fun s input => guard s input = true) s ∧ check s = true := by
  obtain ⟨last,executed,checked⟩ := (Option.any_eq_true _ _).mp ran
  exact ⟨last,Reached.start.execute allowed executed,checked⟩

-- A property that is lost where a condition is met first, and is there as long as it
-- was not: it holds of every step in exactly the runs that never meet it.
theorem everyStep_first {start : σ} {step : σ → ε → Option σ} {met : σ → ε → Bool} {property : σ → ε → σ → Prop}
    (lost : ∀ s input after, Reached start step (fun s input => met s input = false) s → step s input = some after →
      met s input = true → ¬ property s input after)
    (kept : ∀ s input after, Reached start step (fun s input => met s input = false) s → step s input = some after →
      met s input = false → property s input after) (inputs : List ε) :
    EveryStep step start inputs property ↔ EveryStep step start inputs (fun s input _ => met s input = false) := by
  constructor
  · intro all
    have unmet : ∀ {earlier input later before after}, inputs = earlier ++ input :: later →
        execute step start earlier = some before → step before input = some after →
        Reached start step (fun s input => met s input = false) before → met before input = false := by
      intro earlier input later before after split ran stepped path
      cases here : met before input with
      | false => rfl
      | true => exact absurd (all earlier input later before after split ran stepped) (lost before input after path stepped here)
    -- no step of a prefix meets it, by induction on the prefix
    have clean : ∀ earlier later before, inputs = earlier ++ later → execute step start earlier = some before →
        Reached start step (fun s input => met s input = false) before := by
      intro earlier
      induction earlier using List.reverseRecOn with
      | nil =>
          intro later before _ ran
          obtain rfl := Option.some.inj ran
          exact .start
      | append_singleton front input ih =>
          intro later before split ran
          obtain ⟨middle,executed,stepped⟩ := execute_last ran
          have cut : inputs = front ++ input :: later := by rw [split,List.append_assoc,List.singleton_append]
          have path := ih (input :: later) middle cut executed
          exact .step path (unmet cut executed stepped path) stepped
    intro earlier input later before after split ran stepped
    exact unmet split ran stepped (clean earlier (input :: later) before split ran)
  · intro never earlier input later before after split ran stepped
    exact kept before input after (never.reached split ran) stepped (never earlier input later before after split ran stepped)

-- The same where it is lost wherever the condition is met.
theorem everyStep_exactly {start : σ} {step : σ → ε → Option σ} {met : σ → ε → Bool} {property : σ → ε → σ → Prop}
    (lost : ∀ s input after, Reached start step (fun _ _ => True) s → step s input = some after → met s input = true →
      ¬ property s input after)
    (kept : ∀ s input after, Reached start step (fun s input => met s input = false) s → step s input = some after →
      met s input = false → property s input after) (inputs : List ε) :
    EveryStep step start inputs property ↔ EveryStep step start inputs (fun s input _ => met s input = false) :=
  everyStep_first (fun s input after path => lost s input after (path.weaken fun _ _ _ => True.intro)) kept inputs

-- A closed run that comes to meet it.
theorem met_at_last (start : σ) (step : σ → ε → Option σ) (met : σ → ε → Bool) (inputs : List ε) (input : ε)
    (ran : (execute step start inputs).any (fun s => met s input && (step s input).isSome) = true) :
    ∃ before after, execute step start inputs = some before ∧ step before input = some after ∧ met before input = true := by
  obtain ⟨before,executed,checked⟩ := (Option.any_eq_true _ _).mp ran
  rw [Bool.and_eq_true] at checked
  obtain ⟨after,stepped⟩ := Option.isSome_iff_exists.mp checked.2
  exact ⟨before,after,executed,stepped,checked.1⟩

theorem EveryStep.head {step : σ → ε → Option σ} (known : EveryStep step s (input :: rest) property)
    (stepped : step s input = some after) : property s input after := known [] input rest s after rfl rfl stepped

theorem EveryStep.tail {step : σ → ε → Option σ} (known : EveryStep step s (input :: rest) property)
    (stepped : step s input = some next) : EveryStep step next rest property := by
  intro earlier one later before after split ran last
  refine known (input :: earlier) one later before after (congrArg (input :: ·) split) ?_ last
  rw [execute,stepped]
  exact ran

theorem everyInput_exactly {start : σ} {step : σ → ε → Option σ} {met : σ → ε → Bool} {property : σ → ε → Option σ → Prop}
    (exactly : ∀ s input, property s input (step s input) ↔ met s input = false) (inputs : List ε) :
    EveryInput step start inputs property ↔ EveryInput step start inputs (fun s input _ => met s input = false) := by
  constructor
  · intro all earlier input later before split ran
    exact (exactly before input).mp (all earlier input later before split ran)
  · intro never earlier input later before split ran
    exact (exactly before input).mpr (never earlier input later before split ran)

theorem everyInput_never {start : σ} {step : σ → ε → Option σ} (bad : σ → ε → Bool)
    (never : along step (fun s input => !bad s input) start inputs = true) :
    EveryInput step start inputs (fun s input _ => bad s input = false) := by
  intro earlier input later before split ran
  have known := everyInput_along (fun s input => !bad s input) never earlier input later before split ran
  simpa using known

-- What a run does to one part of the state, as seen from outside.
def projection (step : σ → ε → Option σ) (touches : σ → ε → List τ) : σ → List ε → List τ
  | _,[] => []
  | s,input :: rest => touches s input ++ ((step s input).map (projection step touches · rest)).getD []

-- If each step changes a view of the state by what it touches, a run does so by
-- what its steps touch, one after the other.
theorem execute_projects {step : σ → ε → Option σ} {guard : σ → ε → Prop} {touches : σ → ε → List τ} {act : ν → τ → ν}
    (view : σ → ν)
    (each : ∀ s input after, guard s input → step s input = some after → view after = (touches s input).foldl act (view s))
    (allowed : EveryStep step start inputs (fun s input _ => guard s input)) (ran : execute step start inputs = some last) :
    view last = (projection step touches start inputs).foldl act (view start) := by
  induction inputs generalizing start with
  | nil =>
      obtain rfl := Option.some.inj ran
      rfl
  | cons input rest ih =>
      obtain ⟨next,first,others⟩ := Option.bind_eq_some_iff.mp ran
      rw [projection,first,Option.map_some,Option.getD_some,List.foldl_append,← each start input next (allowed.head first) first]
      exact ih (allowed.tail first) others

-- What holds of a state and of all that its run has touched so far.
theorem execute_traces {step : σ → ε → Option σ} {touches : σ → ε → List τ} (holds : σ → List τ → Prop)
    (each : ∀ s input after done, holds s done → step s input = some after → holds after (done ++ touches s input))
    (start : holds s done) (ran : execute step s inputs = some last) :
    holds last (done ++ projection step touches s inputs) := by
  induction inputs generalizing s done with
  | nil =>
      obtain rfl := Option.some.inj ran
      rw [projection,List.append_nil]
      exact start
  | cons input rest ih =>
      obtain ⟨next,first,others⟩ := Option.bind_eq_some_iff.mp ran
      rw [projection,first,Option.map_some,Option.getD_some,← List.append_assoc]
      exact ih (each s input next done start first) others

-- What relates the states of each step relates those of a run.
theorem execute_related_among {step : σ → ε → Option σ} (related : σ → σ → Prop) (refl : ∀ s, related s s)
    (trans : ∀ a b c, related a b → related b c → related a c)
    (each : ∀ s, ∀ input ∈ inputs, ∀ after, step s input = some after → related s after)
    (ran : execute step s inputs = some last) : related s last := by
  induction inputs generalizing s with
  | nil =>
      obtain rfl := Option.some.inj ran
      exact refl s
  | cons input rest ih =>
      obtain ⟨next,first,others⟩ := Option.bind_eq_some_iff.mp ran
      exact trans s next last (each s input List.mem_cons_self next first)
        (ih (fun s other member => each s other (List.mem_cons_of_mem _ member)) others)

theorem execute_related {step : σ → ε → Option σ} (related : σ → σ → Prop) (refl : ∀ s, related s s)
    (trans : ∀ a b c, related a b → related b c → related a c)
    (each : ∀ s input after, step s input = some after → related s after)
    (ran : execute step s inputs = some last) : related s last :=
  execute_related_among related refl trans (fun s input _ after => each s input after) ran

theorem execute_invariant {step : σ → ε → Option σ} {valid : σ → Prop}
    (preserved : ∀ s input after, valid s → step s input = some after → valid after) (start : valid s)
    (ran : execute step s inputs = some last) : valid last :=
  execute_related (fun a b => valid a → valid b) (fun _ => id) (fun _ _ _ one two => two ∘ one)
    (fun s input after stepped known => preserved s input after known stepped) ran start

-- At most so many inputs, all of them allowed, lead from a state to one that is wanted.
def Reaches (step : σ → ε → Option σ) (allowed : ε → Prop) (bound : Nat) (s : σ) (goal : σ → Prop) : Prop :=
  ∃ (inputs : List ε) (after : σ), inputs.length ≤ bound ∧ (∀ input ∈ inputs, allowed input) ∧
    execute step s inputs = some after ∧ goal after

theorem Reaches.here {step : σ → ε → Option σ} {allowed : ε → Prop} {s : σ} {goal : σ → Prop} (known : goal s) :
    Reaches step allowed 0 s goal := ⟨[],s,Nat.le_refl 0,nofun,rfl,known⟩

theorem Reaches.one {step : σ → ε → Option σ} {allowed : ε → Prop} {s after : σ} {goal : σ → Prop} (may : allowed input)
    (ran : step s input = some after) (known : goal after) : Reaches step allowed 1 s goal := by
  refine ⟨[input],after,Nat.le_refl 1,fun x member => List.mem_singleton.mp member ▸ may,?_,known⟩
  rw [execute,ran]
  rfl

theorem Reaches.trans {step : σ → ε → Option σ} {allowed : ε → Prop} {s : σ} {middle goal : σ → Prop} {first second : Nat}
    (one : Reaches step allowed first s middle) (two : ∀ during, middle during → Reaches step allowed second during goal) :
    Reaches step allowed (first + second) s goal := by
  obtain ⟨earlier,during,few,admitted,ran,between⟩ := one
  obtain ⟨later,after,fewer,permitted,continued,known⟩ := two during between
  refine ⟨earlier ++ later,after,?_,?_,?_,known⟩
  · rw [List.length_append]
    exact Nat.add_le_add few fewer
  · intro input member
    rcases List.mem_append.mp member with early | late
    · exact admitted input early
    · exact permitted input late
  · rw [execute_append,ran]
    exact continued

theorem Reaches.within {step : σ → ε → Option σ} {allowed : ε → Prop} {s : σ} {goal : σ → Prop} {bound more : Nat}
    (reaches : Reaches step allowed bound s goal) (enough : bound ≤ more) : Reaches step allowed more s goal := by
  obtain ⟨inputs,after,few,admitted,ran,known⟩ := reaches
  exact ⟨inputs,after,Nat.le_trans few enough,admitted,ran,known⟩

end GuardedRuns

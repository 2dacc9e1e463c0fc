import KucoinPro.OrderBooks

namespace KucoinPro.SequencerIsolation
open GuardedRuns MarketSystem OrderBooks

variable {Y S B E D R : Type} {Q : Type → Type} {config : GatewayConfig} [Symbols Y]

-- An event of a stream leaves the sequencers outside its slice alone, and nothing
-- is done to them.
def Isolated (g : Gateway Y Q S B E D R) (event : GatewayEvent B) (after : Gateway Y Q S B E D R) : Prop :=
  ∀ (index : Nat) happened, event = .marketData index happened →
    ∀ symbol ∉ carried index g, view symbol after.shared = view symbol g.shared

-- A stream that is there gets an increment of a symbol of another, or is
-- disconnected while there is a sequencer for one.
def foreign (g : Gateway Y Q S B E D R) : GatewayEvent B → Bool
  | .marketData index (.obu _ obu _) =>
      g.marketData[index]?.isSome && obu.depth == .increment && !(carried index g).contains obu.data.symbol
  | .marketData index (.disconnected _) =>
      g.marketData[index]?.isSome && g.shared.mbpSequencer.keys.any fun symbol => !(carried index g).contains symbol
  | _ => false

-- What concerns one symbol: its messages, its order books, and the connection of
-- the stream that carries it.
inductive Seen (B : Type) where
  | obu (obu : Json.OBU) (book : B)
  | orderBook (ack : Json.OrderBookAck) (book : B)
  | connected
  | disconnected

def seen (config : GatewayConfig) (symbol : String) (g : Gateway Y Q S B E D R) : GatewayEvent B → List (Seen B)
  | .marketData index (.obu _ obu book) =>
      if g.marketData[index]?.isSome ∧ obu.data.symbol = symbol then [.obu obu book] else []
  | .marketData index (.connected _) =>
      if g.marketData[index]?.isSome ∧ symbol ∈ carried index g then [.connected] else []
  | .marketData index (.disconnected _) =>
      if g.marketData[index]?.isSome ∧ symbol ∈ carried index g then [.disconnected] else []
  | .account (.rest (.response _ id response)) _ book =>
      match passedOn config id response g.account with
      | none => []
      | some ack => if ack.data.symbol = symbol then [.orderBook ack book] else []
  | _ => []

variable [Sequencer S B]

-- And what becomes of its sequencer.
def follow (v : View S B) : Seen B → View S B
  | .obu obu book => if obu.depth = .increment then v.operate (updateOf obu.data book) else v
  | .orderBook ack book => v.operate (snapshotOf ack.data book)
  | .connected => v
  | .disconnected => v.erase

theorem operate_acts (operation : Operation B) (v : View S B) : ∃ done, (v.operate operation).acts = v.acts ++ done ∧ done ≠ [] := by
  unfold View.operate
  dsimp only
  split
  · exact ⟨_,rfl,by simp⟩
  · exact ⟨_,rfl,by simp⟩

theorem operate_differs (operation : Operation B) (v : View S B) : v.operate operation ≠ v := by
  intro same
  obtain ⟨done,acts,some⟩ := operate_acts operation v
  rw [same] at acts
  exact some (List.self_eq_append_right.mp acts)

omit [Sequencer S B] in
theorem erase_none {v : View S B} (empty : v.entry = none) : v.erase = v := by
  unfold View.erase
  rw [empty]

omit [Symbols Y] [Sequencer S B] in
theorem entry_none {shared : Shared Y Q S B} : (view symbol shared).entry = none ↔ symbol ∉ shared.mbpSequencer.keys :=
  AList.lookup_eq_none

-- An event that reaches no sequencer changes none.
theorem follow_unreached {g : Gateway Y Q S B E D R} (unreached : reaches config g event = false) (symbol : String)
    (v : View S B) : (seen config symbol g event).foldl follow v = v := by
  cases event with
  | symbolsUpdate => rfl
  | marketData index happened =>
      cases happened with
      | obu t obu book =>
          simp only [seen]
          split
          · rename_i both
            have shallow : obu.depth ≠ .increment := by simpa [reaches,both.1] using unreached
            exact if_neg shallow
          · rfl
      | connected =>
          simp only [seen]
          split <;> rfl
      | disconnected =>
          have missing : g.marketData[index]?.isSome = false := unreached
          simp only [seen,missing]
          rfl
      | _ => rfl
  | account happened granted book =>
      cases happened with
      | dropCopy => rfl
      | rest happened =>
          cases happened with
          | response t id response =>
              have nothing : passedOn config id response g.account = none := by simpa [reaches] using unreached
              simp only [seen,nothing]
              rfl
          | _ => rfl

variable [LimitQueue Q] [Download2 E OrderEntryREST.State] [Download2 D DropCopy.State] [LimitRequest R] [LawfulLimitQueue Q]

-- One event does to the sequencer of a symbol what is seen of it.
theorem step_follows {g after : Gateway Y Q S B E D R} (own : foreign g event = false) (ran : step config g event = some after)
    (symbol : String) : view symbol after.shared = (seen config symbol g event).foldl follow (view symbol g.shared) := by
  cases step_recorded ran with
  | @incremented _ _ obu _ present depth _ sequences =>
      by_cases same : obu.data.symbol = symbol
      · subst same
        rw [seen,if_pos ⟨present,rfl⟩,List.foldl_cons,List.foldl_nil,follow,if_pos depth]
        exact sequences.view
      · rw [seen,if_neg (fun both => same both.2),List.foldl_nil]
        exact sequences.others symbol (Ne.symm same)
  | @erased _ index present _ erased =>
      rw [erased.view]
      by_cases inside : symbol ∈ carried index g
      · rw [seen,if_pos ⟨present,inside⟩]
        rfl
      · rw [seen,if_neg (fun both => inside both.2),List.foldl_nil]
        apply erase_none
        apply entry_none.mpr
        intro key
        simp only [foreign,present,Bool.true_and,List.any_eq_false,Bool.not_eq_true',Bool.not_eq_false,List.contains_iff_mem] at own
        exact inside (own symbol key)
  | @acked _ _ _ _ _ ack passed _ sequences =>
      simp only [seen,passed]
      by_cases same : ack.data.symbol = symbol
      · subst same
        rw [if_pos rfl]
        exact sequences.view
      · rw [if_neg same]
        exact sequences.others symbol (Ne.symm same)
  | polled _ _ polled =>
      have same : view symbol after.shared = view symbol g.shared := by
        unfold view
        rw [polled.sequencers,acts_filter,polled.log,← acts_filter]
      exact same
  | apart unreached _ _ quiet =>
      rw [quiet.view,follow_unreached unreached]

-- Nothing is seen of the symbols of other streams.
omit [LimitQueue Q] [Download2 E OrderEntryREST.State] [Download2 D DropCopy.State] [LimitRequest R] [LawfulLimitQueue Q] in
theorem follow_elsewhere {g : Gateway Y Q S B E D R} {index : Nat} (own : foreign g (.marketData index happened) = false)
    (outside : symbol ∉ carried index g) (v : View S B) :
    (seen config symbol g (.marketData index happened)).foldl follow v = v := by
  cases reached : reaches config g (.marketData index happened) with
  | false => exact follow_unreached reached symbol v
  | true =>
      cases happened with
      | obu t obu book =>
          have inside : obu.data.symbol ∈ carried index g := by
            simp only [reaches] at reached
            simpa [foreign,reached] using own
          have differs : obu.data.symbol ≠ symbol := fun same => outside (same ▸ inside)
          rw [seen,if_neg (fun both => differs both.2)]
          rfl
      | disconnected t =>
          rw [seen,if_neg (fun both => outside both.2)]
          rfl
      | _ => cases reached

theorem step_isolated {g after : Gateway Y Q S B E D R} (ran : step config g event = some after) :
    Isolated g event after ↔ foreign g event = false := by
  constructor
  · intro isolated
    cases mixed : foreign g event with
    | false => rfl
    | true =>
        cases step_recorded ran with
        | @incremented book t obu index present depth _ sequences =>
            have outside : obu.data.symbol ∉ carried index g := by simpa [foreign,present,depth] using mixed
            have same := isolated index _ rfl obu.data.symbol outside
            rw [sequences.view] at same
            exact absurd same (operate_differs _ _)
        | @erased _ index present _ erased =>
            simp only [foreign,present,Bool.true_and,List.any_eq_true,Bool.not_eq_true',← Bool.not_eq_true,
              List.contains_iff_mem] at mixed
            obtain ⟨symbol,key,outside⟩ := mixed
            have same := isolated index _ rfl symbol outside
            have gone : (view symbol after.shared).entry = none := by
              apply entry_none.mpr
              rw [erased.sequencers]
              exact List.not_mem_nil
            rw [same] at gone
            exact absurd key (entry_none.mp gone)
        | acked => cases mixed
        | polled => cases mixed
        | apart unreached =>
            have silent : foreign g event = false := by
              cases event with
              | marketData index happened =>
                  cases happened with
                  | obu t obu book =>
                      have missing : (g.marketData[index]?.isSome && obu.depth == .increment) = false := unreached
                      rw [foreign,missing]
                      rfl
                  | disconnected =>
                      have missing : g.marketData[index]?.isSome = false := unreached
                      rw [foreign,missing]
                      rfl
                  | _ => rfl
              | _ => rfl
            rw [silent] at mixed
            cases mixed
  · intro own index happened same symbol outside
    subst same
    rw [step_follows own ran symbol,follow_elsewhere own outside]

theorem run_follows {events : List (GatewayEvent B)} {streamId : Nat} {last : Gateway Y Q S B E D R}
    (own : EveryStep (step config) (initial config streamId : Gateway Y Q S B E D R) events
      (fun g event _ => foreign g event = false))
    (ran : execute (step config) (initial config streamId) events = some last) (symbol : String) :
    view symbol last.shared = (projection (step config) (seen config symbol) (initial config streamId : Gateway Y Q S B E D R)
      events).foldl follow ⟨none,[]⟩ :=
  execute_projects (fun g => view symbol g.shared) (fun _ _ _ own ran => step_follows own ran symbol) own ran

-- The streams leave each other's sequencers alone as long as none of the events
-- is foreign, and then two runs that show the same of a symbol do the same to its
-- sequencer.
theorem streams_are_isolated (config : GatewayConfig) (streamId : Nat) (events : List (GatewayEvent B)) :
    (EveryStep (step config) (initial config streamId : Gateway Y Q S B E D R) events Isolated ↔
      EveryStep (step config) (initial config streamId : Gateway Y Q S B E D R) events (fun g event _ => foreign g event = false)) ∧
    ∀ symbol streamId' events' (last last' : Gateway Y Q S B E D R),
      EveryStep (step config) (initial config streamId : Gateway Y Q S B E D R) events (fun g event _ => foreign g event = false) →
      EveryStep (step config) (initial config streamId' : Gateway Y Q S B E D R) events' (fun g event _ => foreign g event = false) →
      execute (step config) (initial config streamId) events = some last →
      execute (step config) (initial config streamId') events' = some last' →
      projection (step config) (seen config symbol) (initial config streamId : Gateway Y Q S B E D R) events =
        projection (step config) (seen config symbol) (initial config streamId' : Gateway Y Q S B E D R) events' →
      view symbol last.shared = view symbol last'.shared := by
  refine ⟨⟨?_,?_⟩,?_⟩
  · exact EveryStep.implies fun _ _ _ ran isolated => (step_isolated ran).mp isolated
  · exact EveryStep.implies fun _ _ _ ran own => (step_isolated ran).mpr own
  · intro symbol streamId' events' last last' own own' ran ran' alike
    rw [run_follows own ran,run_follows own' ran',alike]

section closed
open Smallest

-- Two streams with one symbol each. In the second run the other stream has been
-- disconnected before, and gets increments of its own.
def alone : List (GatewayEvent Unit) := [.symbolsUpdate ["A","B"],connect 0,greet 0,increment 0 "A" 2 3]

def together : List (GatewayEvent Unit) :=
  [.symbolsUpdate ["A","B"],connect 1,greet 1,increment 1 "B" 7 8,cutOff 1,connect 0,greet 0,increment 0 "A" 2 3,
    connect 1,greet 1,increment 1 "B" 9 9]

theorem streams_are_isolated_alike : ∃ last last' : SmallGateway,
    execute (step (market 1)) (initial (market 1) 3) alone = some last ∧
    execute (step (market 1)) (initial (market 1) 3) together = some last' ∧
    view "A" last.shared = view "A" last'.shared := by
  obtain ⟨last,ran⟩ := Option.isSome_iff_exists.mp
    (show (execute (step (market 1)) (initial (market 1) 3 : SmallGateway) alone).isSome = true by decide +kernel)
  obtain ⟨last',ran'⟩ := Option.isSome_iff_exists.mp
    (show (execute (step (market 1)) (initial (market 1) 3 : SmallGateway) together).isSome = true by decide +kernel)
  refine ⟨last,last',ran,ran',(streams_are_isolated (market 1) 3 alone).2 "A" 3 together last last' ?_ ?_ ran ran' rfl⟩
  · exact everyStep_never foreign (by decide +kernel)
  · exact everyStep_never foreign (by decide +kernel)

-- The other stream is disconnected a little later, and the book of A is lost.
theorem disconnect_erases_all : ¬ ∀ events,
    EveryStep (step (market 1)) (initial (market 1) 3 : SmallGateway) events (fun g event after =>
      ∀ (index : Nat) happened, event = .marketData index happened → ∀ symbol ∉ carried index g,
        after.shared.mbpSequencer.lookup symbol = g.shared.mbpSequencer.lookup symbol) := by
  intro all
  have ran : (execute (step (market 1)) (initial (market 1) 3 : SmallGateway) (alone ++ [connect 1])).any (fun g =>
      decide ("A" ∉ carried 1 g) && (g.shared.mbpSequencer.lookup "A").isSome &&
        (step (market 1) g (cutOff 1)).any fun after => (after.shared.mbpSequencer.lookup "A").isNone) = true := by decide +kernel
  obtain ⟨g,executed,checked⟩ := (Option.any_eq_true _ _).mp ran
  simp only [Bool.and_eq_true,decide_eq_true_eq] at checked
  obtain ⟨⟨outside,present⟩,erased⟩ := checked
  obtain ⟨after,stepped,gone⟩ := (Option.any_eq_true _ _).mp erased
  rw [← (all _).last executed stepped 1 _ rfl "A" outside,Option.isNone_iff_eq_none.mp gone] at present
  cases present

end closed
end KucoinPro.SequencerIsolation

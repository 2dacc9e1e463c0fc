import KucoinPro.StreamIds

namespace KucoinPro.SubscriptionIds
open GuardedRuns ControllerSystem SubscriptionNumbers MarketMoves

variable {Y S B E D R : Type} {Q : Type → Type} {config : ControllerConfig}

-- What a stream has queued is numbered from its own range on, without a gap.
structure Numbered (index : Nat) (stream : MarketData Q) (log : List (MarketEntry B)) : Prop where
  place : stream.index = index
  requestId : stream.requestId = stream.streamId * MarketData.REQUEST_ID + (queuedBy index log).length
  numbers : (queuedBy index log).map (·.id) =
    List.range' (stream.streamId * MarketData.REQUEST_ID + 1) (queuedBy index log).length

-- And what is not there has queued nothing.
def Counts (index : Nat) (stream : Option (MarketData Q)) (log : List (MarketEntry B)) : Prop :=
  match stream with
  | none => queuedBy index log = []
  | some stream => Numbered index stream log

theorem Counts.log {stream : Option (MarketData Q)} {before after : List (MarketEntry B)} (counts : Counts index stream before)
    (same : queuedBy index after = queuedBy index before) : Counts index stream after := by
  cases stream with
  | none => exact same.trans counts
  | some stream => exact ⟨counts.place,by rw [same]; exact counts.requestId,by rw [same]; exact counts.numbers⟩

theorem Numbered.moved {c after : Feed Y Q S B} (numbered : Numbered index c.stream c.shared.log) (numbers : Numbers c after) :
    Numbered index after.stream after.shared.log := by
  obtain ⟨fresh,log,requestId,ids⟩ := numbers.own
  rw [numbered.place] at log
  refine ⟨numbers.index.trans numbered.place,?_,?_⟩
  · rw [requestId,numbered.requestId,numbers.streamId,log,List.length_append,Nat.add_assoc]
  · have following : c.stream.requestId + 1 = c.stream.streamId * MarketData.REQUEST_ID + 1 +
        (queuedBy index c.shared.log).length := by
      have known := numbered.requestId
      omega
    rw [log,List.map_append,numbered.numbers,ids,numbers.streamId,following,List.length_append,List.range'_append_1]

theorem numbers_keep {c after : Feed Y Q S B} (numbers : Numbers c after) : Keeps Counts c after where
  own counts := Numbered.moved counts numbers
  others index other _ counts := Counts.log counts (numbers.others index other)

variable [Symbols Y] [LimitQueue Q] [Sequencer S B]

theorem counts_lasting : Lasting Y S config.feed (Counts : Nat → Option (MarketData Q) → List (MarketEntry B) → Prop) where
  place _ _ _ numbered := numbered.place
  quiet _ _ _ _ queued _ counts := counts.log queued
  created index streamId log none := by
    have nothing : queuedBy index log = [] := none
    refine ⟨rfl,?_,?_⟩
    · rw [nothing]
      exact (Nat.add_zero _).symm
    · rw [nothing]
      rfl
  moved _ _ _ stepped := numbers_keep (step_numbers stepped)
  subscribed startFrom c := numbers_keep (subscribe_numbers startFrom c)

omit [Symbols Y] [Sequencer S B] in
theorem passes_keep {c after : Feed Y Q S B} (passes : Passes c after fresh handed) : Keeps Hands c after where
  own := passes.toCarries.hands
  others index other _ hands := hands.log (passes.others index other).everQueued (passes.others index other).everSent

theorem hands_lasting [LawfulLimitQueue Q] :
    Lasting Y S config.feed (Hands : Nat → Option (MarketData Q) → List (MarketEntry B) → Prop) where
  place _ _ _ hands := hands.1
  quiet _ _ _ _ queued sent hands := hands.log queued sent
  created index streamId log none := by
    refine ⟨rfl,?_⟩
    have empty : LimitQueue.items (LimitQueue.create : Q Subscription) = [] := LawfulLimitQueue.create_items
    show sentBy index log ++ LimitQueue.items (LimitQueue.create : Q Subscription) = queuedBy index log
    rw [none.1,none.2,empty]
    rfl
  moved _ _ _ stepped := by
    obtain ⟨fresh,handed,passes⟩ := (step_moved stepped).passes
    exact passes_keep passes
  subscribed startFrom c := by
    obtain ⟨fresh,passes,_⟩ := subscribe_passes config.feed startFrom c
    exact passes_keep passes

-- The range of a stream that has not queued more than there are numbers in it.
omit [LimitQueue Q] in
theorem Numbered.range {stream : MarketData Q} {log : List (MarketEntry B)} (numbered : Numbered index stream log)
    (within : (queuedBy index log).length ≤ MarketData.REQUEST_ID) (p : Nat) (found : (queuedBy index log)[p]? = some subscription) :
    subscription.id = stream.streamId * MarketData.REQUEST_ID + 1 + p ∧ p < MarketData.REQUEST_ID := by
  have bound := (List.getElem?_eq_some_iff.mp found).1
  have mapped : ((queuedBy index log).map (·.id))[p]? = some subscription.id := by rw [List.getElem?_map,found]; rfl
  rw [numbered.numbers] at mapped
  obtain ⟨_,same⟩ := List.getElem?_eq_some_iff.mp mapped
  rw [List.getElem_range',Nat.one_mul] at same
  exact ⟨same.symm,by omega⟩

variable [Download2 E OrderEntryREST.State] [Download2 D DropCopy.State] [LimitRequest R]

theorem run_range {c : Controller Y Q S B E D R} {events : List (ControllerEvent B)}
    (ran : execute (step config) (create config) events = some c)
    (within : (queuedBy index c.shared.log).length ≤ 1000000) (p : Nat) (found : (queuedBy index c.shared.log)[p]? = some subscription) :
    ∃ stream, c.marketData[index]? = some stream ∧ subscription.id = stream.streamId * MarketData.REQUEST_ID + 1 + p ∧
      p < MarketData.REQUEST_ID := by
  have counted : EachStream Counts c := counts_lasting.run (fun _ => rfl) ran
  have counts := counted index
  cases present : c.marketData[index]? with
  | none =>
      rw [present] at counts
      have none : queuedBy index c.shared.log = [] := counts
      rw [none] at found
      cases found
  | some stream =>
      rw [present] at counts
      exact ⟨stream,rfl,Numbered.range counts within p found⟩

variable [LawfulDownload2 E] [LawfulDownload2 D] [LawfulLimitRequest R]

-- No two of the subscriptions that are ever queued, on whatever streams and in
-- whatever sessions, have the same id; and what a stream has sent is what it has queued,
-- in its order, up to what still waits.
theorem subscription_ids_are_distinct {c : Controller Y Q S B E D R} {events : List (ControllerEvent B)}
    (ran : execute (step config) (create config) events = some c) :
    ((StreamIds.streamIds c).length ≤ 65536 → (∀ index, (queuedBy index c.shared.log).length ≤ 1000000) →
      ∀ (i j p q : Nat) (one two : Subscription), (queuedBy i c.shared.log)[p]? = some one →
        (queuedBy j c.shared.log)[q]? = some two → one.id = two.id → i = j ∧ p = q) ∧
    ∀ [LawfulLimitQueue Q] (index : Nat) (stream : MarketData Q), c.marketData[index]? = some stream →
      sentBy index c.shared.log ++ LimitQueue.items stream.subscribeQueue = queuedBy index c.shared.log := by
  refine ⟨?_,?_⟩
  · intro streams within i j p q one two first second same
    obtain ⟨a,atA,idA,boundA⟩ := run_range ran (within i) p first
    obtain ⟨b,atB,idB,boundB⟩ := run_range ran (within j) q second
    have width : MarketData.REQUEST_ID = 1000000 := rfl
    rw [width] at idA idB boundA boundB
    have equal : a.streamId = b.streamId ∧ p = q := by omega
    -- the ids of the streams are distinct
    have distinct := (StreamIds.run_accounted ran).nodup_iff (by decide) |>.mpr streams
    have ids : (c.marketData.map (·.streamId)).Nodup := (List.nodup_append.mp (List.nodup_append.mp distinct).2.1).1
    have atI : (c.marketData.map (·.streamId))[i]? = some a.streamId := by rw [List.getElem?_map,atA]; rfl
    have atJ : (c.marketData.map (·.streamId))[j]? = some b.streamId := by rw [List.getElem?_map,atB]; rfl
    rw [equal.1,← atJ] at atI
    have inside : i < (c.marketData.map (·.streamId)).length := by
      rw [List.length_map]
      exact (List.getElem?_eq_some_iff.mp atA).1
    exact ⟨(List.getElem?_inj inside ids).mp atI,equal.2⟩
  · intro _ index stream present
    have hands : EachStream Hands c := hands_lasting.run (fun _ => ⟨rfl,rfl⟩) ran
    have known := hands index
    rw [present] at known
    exact known.2

theorem queuedBy_length (index : Nat) (log : List (MarketEntry B)) : (queuedBy index log).length ≤ log.length := by
  rw [queuedBy,List.length_reverse]
  exact List.length_filterMap_le _ _

section closed
open Smallest

-- Two streams queue what is theirs, and one of them does so again.
def resubscribing : List (ControllerEvent Unit) := [.symbolsUpdate ["A","B","C"],greets 0,greets 1,greets 0,turn]

theorem subscription_ids_are_distinct_resubscribing : ∃ c : SmallController,
    execute (step (twoAccounts "")) (create (twoAccounts "")) resubscribing = some c ∧ (queuedBy 0 c.shared.log).length = 12 ∧
      (∀ (i j p q : Nat) (one two : Subscription), (queuedBy i c.shared.log)[p]? = some one → (queuedBy j c.shared.log)[q]? = some two →
        one.id = two.id → i = j ∧ p = q) ∧
      ∀ (index : Nat) stream, c.marketData[index]? = some stream →
        sentBy index c.shared.log ++ LimitQueue.items stream.subscribeQueue = queuedBy index c.shared.log := by
  have checked : (execute (step (twoAccounts "")) (create (twoAccounts "") : SmallController) resubscribing).any (fun c =>
      (queuedBy 0 c.shared.log).length == 12 && decide (c.shared.log.length ≤ 1000000) &&
        decide ((StreamIds.streamIds c).length ≤ 65536)) = true := by
    decide +kernel
  obtain ⟨c,ran,known⟩ := (Option.any_eq_true _ _).mp checked
  simp only [Bool.and_eq_true,beq_iff_eq,decide_eq_true_eq] at known
  obtain ⟨ids,hands⟩ := subscription_ids_are_distinct ran
  exact ⟨c,ran,known.1.1,ids known.2 fun index => Nat.le_trans (queuedBy_length index _) known.1.2,hands⟩

end closed
end KucoinPro.SubscriptionIds

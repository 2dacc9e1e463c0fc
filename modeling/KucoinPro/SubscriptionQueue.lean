import KucoinPro.StreamSubscriptions

namespace KucoinPro.SubscriptionQueue
open GuardedRuns MarketSystem MarketMoves StreamSubscriptions

variable {Y S B E D R : Type} {Q : Type → Type} {config : GatewayConfig}

-- What is sent in a session is sent once, and was queued in that session.
structure Once (g : Gateway Y Q S B E D R) : Prop where
  once : ∀ index topic symbol, ((sentIn index g.shared.log).map pair).count (topic,symbol) ≤ 1
  own : ∀ index, ∀ subscription ∈ sentIn index g.shared.log, subscription ∈ queuedIn index g.shared.log

variable [LimitQueue Q]

-- A Welcome finds nothing that an earlier session has left in the queue.
def drained (g : Gateway Y Q S B E D R) : GatewayEvent B → Bool
  | .marketData index (.welcome _) => (g.marketData[index]?).all fun stream => (LimitQueue.items stream.subscribeQueue).isEmpty
  | _ => true

-- What was queued in the session has been sent, or waits in its order.
def InLine (g : Gateway Y Q S B E D R) : Prop := ∀ (index : Nat) stream, g.marketData[index]? = some stream →
  MarketData.isReady stream = true →
  sentIn index g.shared.log ++ LimitQueue.items stream.subscribeQueue = queuedIn index g.shared.log

structure Kept [Symbols Y] (config : GatewayConfig) (g : Gateway Y Q S B E D R) : Prop where
  valid : Valid config g
  line : InLine g

-- Whatever a stream is given goes to the end of the line, and leaves it at its head.
theorem carries_line {c after : Feed Y Q S B} (carries : Carries c after fresh handed)
    (line : sentIn c.stream.index c.shared.log ++ LimitQueue.items c.stream.subscribeQueue = queuedIn c.stream.index c.shared.log) :
    sentIn c.stream.index after.shared.log ++ LimitQueue.items after.stream.subscribeQueue =
      queuedIn c.stream.index after.shared.log := by
  rw [carries.sent,List.append_assoc,carries.items,← List.append_assoc,line]
  exact carries.queued.symm

theorem moved_line [Symbols Y] {g after : Gateway Y Q S B E D R} (valid : Valid config g) (line : InLine g)
    (orderly : Orderly g (.marketData index happened)) (empty : drained g (.marketData index happened) = true)
    (present : g.marketData[index]? = some stream)
    (moved : Moved config ⟨stream,(receive (.marketData index happened) g).shared⟩ happened ⟨later,after.shared⟩)
    (ready : MarketData.isReady later = true) :
    sentIn index after.shared.log ++ LimitQueue.items later.subscribeQueue = queuedIn index after.shared.log := by
  have before := valid.streams index stream present
  have own := before.own
  subst own
  cases moved with
  | welcomed passes =>
      rename_i fresh t pairs status welcome
      have received := receive_other g (.marketData stream.index (.welcome t)) stream.index (by rintro _ ⟨⟩)
      have idle : MarketData.isReady stream = false := by
        rw [← before.welcome]
        simpa [Orderly,StreamSubscriptions.orderly,present] using orderly
      have nothing : LimitQueue.items stream.subscribeQueue = [] := by simpa [drained,present] using empty
      refine carries_line passes.toCarries ?_
      simp only [received.1,received.2,(before.silent idle).1,(before.silent idle).2,nothing,List.append_nil]
  | dropped passes status =>
      have known : later.connectionStatus = .disconnected := status
      simp [MarketData.isReady,known] at ready
  | timed passes stays =>
      rename_i handed t now refresh granted quiet
      have received := receive_other g (.marketData stream.index (.timer t now refresh granted)) stream.index (by rintro _ ⟨⟩)
      have was : MarketData.isReady stream = true := stays.ready.symm.trans ready
      refine carries_line passes.toCarries ?_
      simp only [received.1,received.2]
      exact line _ _ present was
  | other noWelcome noDrop passes stays =>
      have received := receive_other g (.marketData stream.index happened) stream.index
        (fun t same => noDrop t (by cases same; rfl))
      have was : MarketData.isReady stream = true := stays.ready.symm.trans ready
      refine carries_line passes.toCarries ?_
      simp only [received.1,received.2]
      exact line _ _ present was

variable [Symbols Y] [Sequencer S B] [Download2 E OrderEntryREST.State] [Download2 D DropCopy.State] [LimitRequest R]
  [LawfulLimitQueue Q]

theorem step_line {g after : Gateway Y Q S B E D R} {event : GatewayEvent B} (valid : Valid config g) (line : InLine g)
    (orderly : Orderly g event) (empty : drained g event = true) (ran : step config g event = some after) : InLine after := by
  intro index stream found ready
  have one := step_touched valid.indexed ran index
  rw [found] at one
  cases present : g.marketData[index]? with
  | none =>
      rw [present] at one
      cases one with
      | created fresh =>
          simp [MarketData.isReady,fresh.status] at ready
  | some before =>
      rw [present] at one
      have own := valid.indexed index before present
      cases one with
      | moved known moved =>
          subst known
          exact moved_line valid line orderly empty present moved ready
      | updated known carries stays =>
          rename_i symbols fresh pairs
          subst known
          subst own
          have received := receive_other g (.symbolsUpdate symbols) before.index (by rintro _ ⟨⟩)
          have was : MarketData.isReady before = true := stays.ready.symm.trans ready
          refine carries_line carries ?_
          simp only [received.1,received.2]
          exact line _ _ present was
      | apart noUpdate noEvent quiet =>
          have received := receive_other g event index (fun t => noEvent _)
          rw [quiet.sent,quiet.queued,received.1,received.2]
          exact line index stream present ready

omit [Sequencer S B] [Download2 E OrderEntryREST.State] [Download2 D DropCopy.State] [LimitRequest R] [LawfulLimitQueue Q] in
theorem once_of_line {g : Gateway Y Q S B E D R} (valid : Valid config g) (line : InLine g) : Once g := by
  have parts : ∀ index, ((sentIn index g.shared.log).map pair).Nodup ∧
      ∀ subscription ∈ sentIn index g.shared.log, subscription ∈ queuedIn index g.shared.log := by
    intro index
    cases present : g.marketData[index]? with
    | none =>
        rw [(valid.future index present).2]
        exact ⟨List.nodup_nil,nofun⟩
    | some stream =>
        have known := valid.streams index stream present
        cases ready : MarketData.isReady stream with
        | false =>
            rw [(known.silent ready).2]
            exact ⟨List.nodup_nil,nofun⟩
        | true =>
            have whole := line index stream present ready
            have distinct := (known.covered ready).nodup
            rw [← whole,List.map_append] at distinct
            refine ⟨distinct.of_append_left,?_⟩
            intro subscription inside
            rw [← whole]
            exact List.mem_append_left _ inside
  constructor
  · intro index topic symbol
    exact List.nodup_iff_count_le_one.mp (parts index).1 (topic,symbol)
  · intro index
    exact (parts index).2

-- If every Welcome finds the queue empty, nothing is sent twice in a session.
theorem subscriptions_are_sent_once [LawfulSymbols Y] (config : GatewayConfig) (streamId : Nat) {g : Gateway Y Q S B E D R}
    (path : Reached (initial config streamId) (step config) (fun g event => (orderly g event && drained g event) = true) g) :
    Once g := by
  have kept : Kept config g := by
    refine path.invariant ⟨initial_valid streamId,fun _ _ found => by cases found⟩ ?_
    intro before event after known allowed ran
    rw [Bool.and_eq_true] at allowed
    exact ⟨step_valid known.valid allowed.1 ran,step_line known.valid known.line allowed.1 allowed.2 ran⟩
  exact once_of_line kept.valid kept.line

section closed
open Smallest

-- The queue is drained one message at a time, and a second session follows.
def patient : List (GatewayEvent Unit) :=
  [.symbolsUpdate ["A"],connect 0,greet 0,drain 0 1,drain 0 2,cutOff 0,connect 0,greet 0,drain 0 2]

theorem subscriptions_are_sent_once_twice : ∃ g : SmallGateway, Once g ∧
    (sentIn 0 g.shared.log).map (·.topic.channel) = ["obu","trade"] := by
  obtain ⟨g,path,checked⟩ := reached_of_execute (initial (market 2) 0 : SmallGateway) (step (market 2))
    (fun g event => orderly g event && drained g event) patient
    (fun g => (sentIn 0 g.shared.log).map (·.topic.channel) == ["obu","trade"]) (by decide +kernel) (by decide +kernel)
  exact ⟨g,subscriptions_are_sent_once (market 2) 0 path,beq_iff_eq.mp checked⟩

-- The connection is lost before the rate limiter has granted anything.
def hasty : List (GatewayEvent Unit) :=
  [.symbolsUpdate ["A"],connect 0,greet 0,cutOff 0,connect 0,greet 0,drain 0 6]

theorem leftover_is_sent_again : ¬ ∀ g : SmallGateway,
    Reached (initial (market 2) 0) (step (market 2)) Orderly g → Once g := by
  intro all
  obtain ⟨g,path,twice⟩ := reached_of_execute (initial (market 2) 0 : SmallGateway) (step (market 2)) orderly hasty
    (fun g => ((sentIn 0 g.shared.log).map pair).count (⟨API.trade,none⟩,"A") == 2) (by decide +kernel) (by decide +kernel)
  have once := (all g path).once 0 ⟨API.trade,none⟩ "A"
  rw [beq_iff_eq.mp twice] at once
  omega

end closed
end KucoinPro.SubscriptionQueue

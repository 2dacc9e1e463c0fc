import KucoinPro.MarketMoves

-- The ids of the subscriptions that a stream queues, over all of its sessions.
namespace KucoinPro.SubscriptionNumbers
open MarketMoves

variable {Y S B E D R : Type} {Q : Type → Type} {config : GatewayConfig}

-- Nothing was queued, by whatever stream.
def Silent (before after : List (MarketEntry B)) : Prop := ∀ index, queuedBy index after = queuedBy index before

theorem Silent.refl (log : List (MarketEntry B)) : Silent log log := fun _ => rfl

theorem Silent.trans {a b c : List (MarketEntry B)} (one : Silent a b) (two : Silent b c) : Silent a c :=
  fun index => (two index).trans (one index)

theorem Silent.cons {x : MarketEntry B} (log : List (MarketEntry B)) (silent : ∀ index, queuedEntry index x = none) :
    Silent log (x :: log) := by
  intro index
  rw [queuedBy_cons,silent index,Option.toList_none,List.append_nil]

-- What a handler of one stream queues bears the numbers that follow the last one.
structure Numbers (before after : Feed Y Q S B) : Prop where
  streamId : after.stream.streamId = before.stream.streamId
  index : after.stream.index = before.stream.index
  own : ∃ fresh, queuedBy before.stream.index after.shared.log = queuedBy before.stream.index before.shared.log ++ fresh ∧
    after.stream.requestId = before.stream.requestId + fresh.length ∧
    fresh.map (·.id) = List.range' (before.stream.requestId + 1) fresh.length
  others : ∀ index ≠ before.stream.index, queuedBy index after.shared.log = queuedBy index before.shared.log

namespace Numbers

theorem silent {before after : Feed Y Q S B} (streamId : after.stream.streamId = before.stream.streamId)
    (index : after.stream.index = before.stream.index) (requestId : after.stream.requestId = before.stream.requestId)
    (log : Silent before.shared.log after.shared.log) : Numbers before after :=
  ⟨streamId,index,⟨[],by rw [log,List.append_nil],requestId,rfl⟩,fun index _ => log index⟩

theorem refl (c : Feed Y Q S B) : Numbers c c := silent rfl rfl rfl (.refl _)

theorem emit (c : Feed Y Q S B) (other : ∀ index, queuedEntry index (.effect e : MarketEntry B) = none) : Numbers c (c.emit e) :=
  silent rfl rfl rfl (.cons _ other)

theorem trans {a b c : Feed Y Q S B} (one : Numbers a b) (two : Numbers b c) : Numbers a c := by
  obtain ⟨first,firstLog,firstId,firstNumbers⟩ := one.own
  obtain ⟨second,secondLog,secondId,secondNumbers⟩ := two.own
  refine ⟨two.streamId.trans one.streamId,two.index.trans one.index,⟨first ++ second,?_,?_,?_⟩,?_⟩
  · rw [← one.index,secondLog,one.index,firstLog,List.append_assoc]
  · rw [secondId,firstId,List.length_append,Nat.add_assoc]
  · have following : b.stream.requestId + 1 = a.stream.requestId + 1 + first.length := by omega
    rw [List.map_append,firstNumbers,secondNumbers,following,List.length_append,List.range'_append_1]
  · intro index other
    rw [two.others index (one.index ▸ other),one.others index other]

theorem foldl {step : Feed Y Q S B → α → Feed Y Q S B} (each : ∀ c x, Numbers c (step c x)) (xs : List α) (c : Feed Y Q S B) :
    Numbers c (xs.foldl step c) := by
  induction xs generalizing c with
  | nil => exact .refl c
  | cons x rest ih => exact (each c x).trans (ih (step c x))

end Numbers

variable [LimitQueue Q]

theorem subscribeItem_numbers (topic : Topic) (c : Feed Y Q S B) (symbol : String) :
    Numbers c (MarketData.subscribeItem topic c symbol) := by
  refine ⟨rfl,rfl,⟨[⟨c.stream.requestId + 1,topic,symbol⟩],?_,rfl,rfl⟩,?_⟩
  · exact (queuedBy_cons _ _ _).trans (by rw [queuedEntry_own]; rfl)
  · intro index other
    have elsewhere : queuedEntry index
        (.effect (.queued c.stream.index ⟨c.stream.requestId + 1,topic,symbol⟩) : MarketEntry B) = none := if_neg other.symm
    exact (queuedBy_cons _ _ _).trans (by rw [elsewhere,Option.toList_none,List.append_nil])

theorem subscribe_numbers [Symbols Y]
    (startFrom : Nat) (c : Feed Y Q S B) : Numbers c (MarketData.subscribe config startFrom c) := by
  have topic : ∀ topic symbols (c : Feed Y Q S B), Numbers c (MarketData.subscribeTopic topic symbols c) :=
    fun topic symbols c => .foldl (subscribeItem_numbers topic) symbols c
  unfold MarketData.subscribe
  split
  · unfold MarketData.subscribeSymbols
    split
    · exact .refl c
    · dsimp only
      split
      · split
        · exact ((topic _ _ _).trans (topic _ _ _)).trans (topic _ _ _)
        · exact ((topic _ _ _).trans (topic _ _ _)).trans (topic _ _ _)
      · split
        · exact (topic _ _ _).trans (topic _ _ _)
        · exact (topic _ _ _).trans (topic _ _ _)
  · exact .refl c

-- Streams that subscribe one after the other.
theorem subscribeStreams_streamIds [Symbols Y] (startFrom : Nat) (streams : List (MarketData Q)) (shared : Shared Y Q S B) :
    (Controller.subscribeStreams config startFrom streams shared).1.map (·.streamId) = streams.map (·.streamId) := by
  induction streams generalizing shared with
  | nil => rfl
  | cons stream rest ih =>
      have one : Numbers ⟨stream,shared⟩ (MarketData.subscribe config startFrom ⟨stream,shared⟩) := subscribe_numbers startFrom _
      have others := ih (MarketData.subscribe config startFrom ⟨stream,shared⟩).shared
      simp only [Controller.subscribeStreams,List.map_cons,others,one.streamId]

theorem checkSubscribeQueue_numbers (t : TraceInfo) (granted : Nat) (c : Feed Y Q S B) :
    Numbers c (MarketData.checkSubscribeQueue t granted c) := by
  have sends : ∀ (c : Feed Y Q S B) subscription, Numbers c (MarketData.sendSubscription c subscription) :=
    fun c _ => .emit c fun _ => rfl
  have taken : Numbers c {c with stream.subscribeQueue := (LimitQueue.dispatch t granted c.stream.subscribeQueue).2} :=
    .silent rfl rfl rfl (.refl _)
  exact taken.trans (.foldl sends _ _)

theorem onTimer_numbers (t : TraceInfo) (now : Nanoseconds) (refresh : Bool) (granted : Nat) (c : Feed Y Q S B) :
    Numbers c (MarketData.onTimer config t now refresh granted c) := by
  unfold MarketData.onTimer
  split
  · split
    · dsimp only
      split
      · have pinged : Numbers c (MarketData.sendPing config now c) := .silent rfl rfl rfl (.cons _ fun _ => rfl)
        exact pinged.trans (checkSubscribeQueue_numbers t granted _)
      · exact checkSubscribeQueue_numbers t granted c
    · exact .refl c
  · split
    · exact .emit c fun _ => rfl
    · exact .refl c

theorem callbacks_silent {shared after : Shared Y Q S B} (calls : List SequencerCall)
    (ran : calls.foldlM (Shared.callback config symbol publish) shared = some after) : Silent shared.log after.log := by
  let quiet (a b : Shared Y Q S B) : Prop := Silent a.log b.log
  have kept : quiet shared after := by
    refine Shared.callbacks_related config (fun _ => .refl _) (fun _ _ _ => .trans) ?_ calls ran
    intro before later call
    cases call with
    | asked => exact .cons _ fun _ => rfl
    | silent => exact .refl _
    | published => exact .cons _ fun _ => rfl
  exact kept

variable [Sequencer S B]

theorem sequence_silent {operation : Operation B} {shared after : Shared Y Q S B}
    (ran : shared.sequence config symbol operation publish = some after) : Silent shared.log after.log := by
  obtain ⟨middle,called,rfl⟩ := Option.map_eq_some_iff.mp ran
  have calls : Silent shared.log middle.log := by
    have operated : Silent shared.log (.effect (.operated symbol operation) :: shared.log) := .cons _ fun _ => rfl
    have during := callbacks_silent _ called
    exact operated.trans during
  split
  · have cleared : Silent middle.log (.effect (.cleared symbol) :: middle.log) := .cons _ fun _ => rfl
    exact (calls.trans cleared).trans (.cons _ fun _ => rfl)
  · exact calls

theorem step_numbers [Symbols Y]
    {c after : Feed Y Q S B} {event : MarketDataEvent B} (ran : MarketData.step config c event = some after) :
    Numbers c after := by
  cases event with
  | timer t now refresh granted => exact Option.some.inj ran ▸ onTimer_numbers t now refresh granted c
  | connected t => exact Option.some.inj ran ▸ .silent rfl rfl rfl (.refl _)
  | disconnected t =>
      have published : Numbers c (MarketData.onConnectionStatus .disconnected c) := .silent rfl rfl rfl (.cons _ fun _ => rfl)
      exact Option.some.inj ran ▸ published.trans (.silent rfl rfl rfl (.cons _ fun _ => rfl))
  | welcome t =>
      have status : Numbers c (MarketData.onConnectionStatus .ready {c with stream.welcome := true}) :=
        .silent rfl rfl rfl (.cons _ fun _ => rfl)
      exact Option.some.inj ran ▸ status.trans (subscribe_numbers 0 _)
  | ticker t ticker => exact Option.some.inj ran ▸ .emit c fun _ => rfl
  | trade t trade => exact Option.some.inj ran ▸ .emit c fun _ => rfl
  | obu t obu book =>
      have running : MarketData.onOBU config obu book c = some after := ran
      unfold MarketData.onOBU at running
      split at running
      · cases running
      · cases running
      · exact Option.some.inj running ▸ .emit c fun _ => rfl
      · obtain ⟨shared,sequenced,rfl⟩ := Option.map_eq_some_iff.mp running
        have log := sequence_silent sequenced
        exact .silent rfl rfl rfl log
  | logged => exact Option.some.inj ran ▸ .refl c
  | unexpected => cases ran

end KucoinPro.SubscriptionNumbers

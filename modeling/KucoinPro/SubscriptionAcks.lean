import KucoinPro.AccountMoves

namespace KucoinPro.SubscriptionAcks
open GuardedRuns StagedWalk AccountSystem

variable {E D R : Type} {config : Config} [Download2 D DropCopy.State]

-- What one event may do to a download, by what the event is.
structure AckSound (w : World E D R) (event : Event) (after : World E D R) : Prop where
  leaves : ∀ stream later, w.dropCopy = some stream → after.dropCopy = some later →
    (Walker.state stream.download : DropCopy.State).isSubscribe = true →
    (Walker.state later.download : DropCopy.State) ≠ Walker.state stream.download →
    (∃ t, event = .dropCopy (.disconnected t)) ∨
      ∃ t message, event = .dropCopy (.ack t message) ∧ message.id = (Walker.state stream.download).name ∧ message.result = true
  stays : ∀ stream later t message, w.dropCopy = some stream → after.dropCopy = some later →
    event = .dropCopy (.ack t message) →
    message.result = false ∨ message.id ≠ (Walker.state stream.download : DropCopy.State).name →
    (Walker.state later.download : DropCopy.State) = Walker.state stream.download

-- An Ack that refuses what the download is waiting for.
def refuses (w : World E D R) : Event → Bool
  | .dropCopy (.ack _ message) => w.dropCopy.any fun stream =>
      !message.result && DropCopy.State.ofName message.id == some (Walker.state stream.download)
  | _ => false

def running (w : World E D R) : Bool := w.dropCopy.any fun stream => Download2.downloading stream.download

variable [LimitRequest R]

theorem onWelcome_subscribe [LawfulDownload2 D]
    [LawfulBegin D] {c : Session D R} (subscribing : (DropCopy.stateOf c).isSubscribe = true) :
    DropCopy.stateOf (DropCopy.onWelcome config t c) = DropCopy.stateOf c := by
  have busy := DropCopy.downloading_of_subscribe subscribing
  rcases LawfulBegin.begin_stays (DropCopy.onDownload config t) c.stream.download {c with stream.welcome := true} busy with
    ⟨same,_⟩ | walk
  · exact same
  · refine walk.rule (fun s _ => s = DropCopy.stateOf c) (fun s _ => s = DropCopy.stateOf c) ?_ ?_ ?_ rfl
    · intro _ _ _ _ same _
      exact same
    · rintro _ s _ _ rfl zero
      exact absurd zero (DropCopy.subscribe_pauses config subscribing)
    · intro _ _ same
      exact same

theorem moves_subscribe [LawfulLimitRequest R] {c after : Session D R} (moves : DropCopy.Moves config happened c after)
    (subscribing : (DropCopy.stateOf c).isSubscribe = true) (other : ∀ t, happened ≠ .welcome t)
    (moved : DropCopy.stateOf after ≠ DropCopy.stateOf c) : (∃ t, happened = .disconnected t) ∨
      ∃ t message, happened = .ack t message ∧ DropCopy.State.ofName message.id = some (DropCopy.stateOf c) := by
  obtain ⟨during,stage,chores⟩ := moves
  cases stage with
  | stays => exact absurd chores.tame.state moved
  | dropped dropped => exact .inl ⟨_,dropped⟩
  | walked starts _ _ =>
      cases starts with
      | welcome happened => exact absurd happened (other _)
      | again happened => exact absurd happened (other _)
      | acked happened named => exact .inr ⟨_,_,happened,named⟩
      | ackedIdle happened named => exact .inr ⟨_,_,happened,named⟩
      | answered _ own =>
          rw [DropCopy.State.subscribe_kind subscribing] at own
          cases own

theorem moves_unnamed [LawfulLimitRequest R] {c after : Session D R} (moves : DropCopy.Moves config (.ack t message) c after)
    (other : DropCopy.State.ofName message.id ≠ some (DropCopy.stateOf c)) : DropCopy.stateOf after = DropCopy.stateOf c := by
  obtain ⟨during,stage,chores⟩ := moves
  cases stage with
  | stays => exact chores.tame.state
  | dropped dropped => cases dropped
  | walked starts _ _ =>
      cases starts with
      | welcome happened => cases happened
      | again happened => cases happened
      | acked happened named => cases happened; exact absurd named other
      | ackedIdle happened named => cases happened; exact absurd named other
      | answered happened => cases happened

-- One that names the state of a running download moves it, whatever its result.
theorem onAck_leaves [LawfulDownload2 D]
    {c : Session D R} (named : DropCopy.State.ofName message.id = some (DropCopy.stateOf c))
    (busy : Download2.downloading c.stream.download = true) :
    DropCopy.stateOf (DropCopy.onAck config t message c) ≠ DropCopy.stateOf c := by
  have walk := LawfulDownload2.check_current (DropCopy.onDownload config t) c.stream.download c busy
  have lower : Stages.remaining (Stages.next (DropCopy.stateOf c)) < Stages.remaining (DropCopy.stateOf c) :=
    Stages.remaining_next _ ((LawfulDownload2.downloading_iff c.stream.download).mp busy).2
  intro same
  have rested := walk.rests
  simp only [DropCopy.onAck,named] at same
  have resting : Walker.state (Download2.check (DropCopy.onDownload config t) (Walker.state c.stream.download)
      c.stream.download c).1 = DropCopy.stateOf c := same
  rw [resting] at rested
  exact absurd lower (Nat.not_lt.mpr rested)

variable [Download2 E OrderEntryREST.State] [LawfulLimitRequest R] [LawfulDownload2 D] [LawfulDownload2 E]

theorem rest_state {w after : World E D R} (ran : step config w (.rest event) = some after)
    (present : w.dropCopy = some stream) (known : after.dropCopy = some later) :
    (Walker.state later.download : DropCopy.State) = Walker.state stream.download := by
  have renewed := rest_renewed ran
  rw [present,known] at renewed
  cases renewed with
  | same => rfl
  | renewed _ => rfl

theorem dropCopy_moves {w after : World E D R} (ran : step config w (.dropCopy event) = some after)
    (present : w.dropCopy = some stream) (known : after.dropCopy = some later) : ∃ c : Session D R,
      c.stream = later ∧ DropCopy.step config (session stream (receive (.dropCopy event) w)) event = some c ∧
      DropCopy.Moves config event (session stream (receive (.dropCopy event) w)) c := by
  cases step_happens ran with
  | lost absent =>
      rw [absent _ rfl] at present
      cases present
  | copied happened same stepped moves =>
      cases happened
      rw [present] at same
      cases same
      exact ⟨_,Option.some.inj known,stepped,moves⟩
  | served other => cases other
  | answered other => cases other

theorem positive_ack_sound [LawfulBegin D] {w after : World E D R} (ran : step config w event = some after)
    (positive : refuses w event = false) : AckSound w event after := by
  have accepted : ∀ stream t message, w.dropCopy = some stream → event = .dropCopy (.ack t message) →
      message.id = (Walker.state stream.download : DropCopy.State).name → message.result = true := by
    rintro stream t message present rfl named
    have named := DropCopy.State.ofName_iff.mpr named
    simpa [refuses,present,named] using positive
  constructor
  · intro stream later present known subscribing moved
    cases event with
    | rest happened => exact absurd (rest_state ran present known) moved
    | dropCopy happened =>
        obtain ⟨c,rfl,stepped,moves⟩ := dropCopy_moves ran present known
        by_cases welcoming : ∃ t, happened = .welcome t
        · obtain ⟨t,rfl⟩ := welcoming
          obtain rfl := Option.some.inj stepped
          exact absurd (onWelcome_subscribe (c := session stream (receive (.dropCopy (.welcome t)) w)) subscribing) moved
        · rcases moves_subscribe moves subscribing (fun t same => welcoming ⟨t,same⟩) moved with ⟨t,rfl⟩ | ⟨t,message,rfl,named⟩
          · exact .inl ⟨t,rfl⟩
          · have called := DropCopy.State.ofName_iff.mp named
            exact .inr ⟨t,message,rfl,called,accepted stream t message present rfl called⟩
  · rintro stream later t message present known rfl refused
    obtain ⟨c,rfl,stepped,moves⟩ := dropCopy_moves ran present known
    refine moves_unnamed moves ?_
    intro named
    have called := DropCopy.State.ofName_iff.mp named
    rcases refused with negative | other
    · have positive := accepted stream t message present rfl called
      rw [negative] at positive
      cases positive
    · exact other called

omit [LawfulLimitRequest R] [LawfulDownload2 E] in
theorem negative_ack_unsound {w after : World E D R} (ran : step config w event = some after)
    (negative : refuses w event = true) (busy : running w = true) : ¬ AckSound w event after := by
  intro sound
  cases event with
  | rest => cases negative
  | dropCopy happened =>
      cases happened with
      | ack t message =>
          simp only [refuses,Option.any_eq_true,Bool.and_eq_true,Bool.not_eq_true',beq_iff_eq] at negative
          obtain ⟨stream,present,refused,named⟩ := negative
          have downloading : Download2.downloading stream.download = true := by simpa [running,present] using busy
          obtain ⟨c,stepped,resumed⟩ : ∃ c, DropCopy.step config (session stream (receive (.dropCopy (.ack t message)) w))
              (.ack t message) = some c ∧ after.dropCopy = some c.stream := by
            rcases step_dropCopy config ran with ⟨absent,_⟩ | ⟨_,c,same,stepped,rfl⟩
            · rw [present] at absent
              cases absent
            · rw [present] at same
              cases same
              exact ⟨c,stepped,rfl⟩
          obtain rfl := Option.some.inj stepped
          exact onAck_leaves named downloading (sound.stays stream _ t message present resumed rfl (.inl refused))
      | _ => cases negative

-- A run is sound at every step if no Ack refuses what the download waits for,
-- and only if none does while the download is running.
theorem acks_are_positive [LawfulBegin D] (config : Config) (events : List Event) :
    (EveryStep (step config) (initial : World E D R) events (fun w event _ => refuses w event = false) →
      EveryStep (step config) (initial : World E D R) events AckSound) ∧
    (EveryStep (step config) (initial : World E D R) events AckSound →
      EveryStep (step config) (initial : World E D R) events (fun w event _ => (refuses w event && running w) = false)) := by
  constructor
  · intro positive
    exact positive.implies fun _ _ _ ran known => positive_ack_sound ran known
  · intro sound
    refine sound.implies ?_
    intro w event after ran known
    cases negative : refuses w event with
    | false => rfl
    | true =>
        cases busy : running w with
        | false => rfl
        | true => exact absurd known (negative_ack_unsound ran negative busy)

section closed
open Smallest

def refusal (name : String) : Event := .dropCopy (.ack t ⟨name,false⟩)

-- Acks of all sorts, and the first subscription acknowledged in the end.
def acknowledged : List Event :=
  startup ++ [ack "GET_BALANCES",ack "unknown",refusal "SUBSCRIBE_TRADES",ack "SUBSCRIBE_BALANCES"]

theorem acks_are_positive_session : EveryStep (step (setup true)) (initial : Small) acknowledged AckSound :=
  (acks_are_positive (setup true) acknowledged).1 (everyStep_never refuses (by decide +kernel))

theorem refusal_advances : ¬ ∀ events, EveryStep (step (setup true)) (initial : Small) events AckSound := by
  intro all
  have ran : (execute (step (setup true)) (initial : Small) startup).any (fun w =>
      refuses w (refusal "SUBSCRIBE_BALANCES") && running w &&
        (step (setup true) w (refusal "SUBSCRIBE_BALANCES")).isSome) = true := by decide +kernel
  obtain ⟨w,executed,checked⟩ := (Option.any_eq_true _ _).mp ran
  simp only [Bool.and_eq_true] at checked
  obtain ⟨after,stepped⟩ := Option.isSome_iff_exists.mp checked.2
  exact negative_ack_unsound stepped checked.1.1 checked.1.2 ((all _).last executed stepped)

end closed
end KucoinPro.SubscriptionAcks

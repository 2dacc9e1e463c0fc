import KucoinPro.AccountMoves

namespace KucoinPro.SessionSnapshots
open GuardedRuns History StagedWalk AccountSystem OrderEntryREST

variable {E D R : Type} {config : Config}

-- The download enters a state when it publishes DOWNLOADING under its name.
def enters (s : DropCopy.State) : Entry → Bool
  | .effect (.streamStatus status) => status.protocol == .ws && status.connectionStatus == .downloading && status.reason == s.name
  | _ => false

def isSubmit (submission : Submission) : Entry → Bool
  | .effect (.submit other) => other == submission
  | _ => false

def since (s : DropCopy.State) (log : List Entry) : List Entry := upTo (enters s) log

-- What answers the request of a state was submitted after the state was entered.
def Own (s : DropCopy.State) (kind : Kind) (log : List Entry) : Prop :=
  ∀ submission, submission.callback.kind = some kind → .effect (.answer submission) ∈ since s log →
    .effect (.submit submission) ∈ since s log

def Answered (s : DropCopy.State) (kind : Kind) (log : List Entry) : Prop :=
  ∃ submission, submission.callback.kind = some kind ∧ .effect (.answer submission) ∈ since s log

structure Fresh (s : DropCopy.State) (kind : Kind) (log : List Entry) : Prop where
  entered : ∃ x ∈ upTo isDropped log, enters s x = true
  answered : Answered s kind log
  own : Own s kind log

-- The condition on a step: the response to the request of the current state is
-- one to a request submitted after the state was entered.
def timely [Download2 D DropCopy.State] (w : World E D R) (event : Event) : Bool :=
  match w.dropCopy with
  | none => true
  | some stream =>
    let s := Walker.state stream.download
    (responseOf w event).all fun (submission,_) =>
      s.kind == none || submission.callback.kind != s.kind || (since s w.log).any (isSubmit submission)

variable [Download2 D DropCopy.State] [LimitRequest R]

-- A Timer that leaves a GET_ state leaves a fresh one.
def LeavesFresh [Download2 E OrderEntryREST.State] (config : Config) (w : World E D R) : Prop :=
  ∀ t now refresh staleOrders stream later kind after, w.dropCopy = some stream →
    step config w (.dropCopy (.timer t now refresh staleOrders)) = some after → after.dropCopy = some later →
    (Walker.state stream.download : DropCopy.State).kind = some kind →
    (Walker.state later.download : DropCopy.State) ≠ Walker.state stream.download →
    Fresh (Walker.state stream.download) kind w.log

-- What holds while the download rests in a state that waits.
structure Waiting (s : DropCopy.State) (response : Kind → Bool) (log : List Entry) (kind : Kind) : Prop where
  entered : ∃ x ∈ upTo isDropped log, enters s x = true
  flagged : response kind = true → Answered s kind log
  own : Own s kind log

def Resting (s : DropCopy.State) (response : Kind → Bool) (log : List Entry) : Prop :=
  ∀ kind, s.kind = some kind → Waiting s response log kind

def isAnswer : Entry → Bool
  | .effect (.answer _) => true
  | _ => false

theorem Resting.newer (fresh : List Entry) (keep : ∀ x ∈ fresh, isDropped x = false)
    (silent : ∀ x ∈ fresh, enters s x = false) (unanswered : ∀ x ∈ fresh, isAnswer x = false)
    (fewer : ∀ kind, later kind = true → response kind = true) (resting : Resting s response log) :
    Resting s later (fresh ++ log) := by
  intro kind waits
  obtain ⟨⟨x,member,marked⟩,flagged,own⟩ := resting kind waits
  have longer : since s (fresh ++ log) = fresh ++ since s log := upTo_append silent
  refine ⟨⟨x,by rw [upTo_append keep]; exact List.mem_append_right _ member,marked⟩,?_,?_⟩
  · intro flag
    obtain ⟨submission,same,answered⟩ := flagged (fewer kind flag)
    exact ⟨submission,same,longer ▸ List.mem_append_right _ answered⟩
  · intro submission same answered
    rw [longer] at answered ⊢
    rcases List.mem_append.mp answered with new | old
    · have known := unanswered _ new
      cases known
    · exact List.mem_append_right _ (own submission same old)

theorem Resting.answered (resting : Resting s response log)
    (timely : ∀ kind, s.kind = some kind → submission.callback.kind = some kind → .effect (.submit submission) ∈ since s log) :
    Resting s response (.effect (.answer submission) :: log) := by
  intro kind waits
  obtain ⟨⟨x,member,marked⟩,flagged,own⟩ := resting kind waits
  have longer : since s (.effect (.answer submission) :: log) = .effect (.answer submission) :: since s log := upTo_keep rfl
  refine ⟨⟨x,by rw [upTo_keep rfl]; exact List.mem_cons_of_mem _ member,marked⟩,?_,?_⟩
  · intro flag
    obtain ⟨earlier,same,answered⟩ := flagged flag
    exact ⟨earlier,same,longer ▸ List.mem_cons_of_mem _ answered⟩
  · intro other same answered
    rw [longer] at answered ⊢
    rcases List.mem_cons.mp answered with new | old
    · cases new
      exact List.mem_cons_of_mem _ (timely kind waits same)
    · exact List.mem_cons_of_mem _ (own other same old)

theorem Resting.idle (idle : s.kind = none) : Resting s response log := by
  intro kind waits
  rw [idle] at waits
  cases waits

theorem quiet_enters (e : Effect) (silent : DropCopy.quiet e = true) : enters s (.effect e) = false := by
  cases e <;> first | rfl | cases silent

theorem quiet_answer (e : Effect) (silent : DropCopy.quiet e = true) : isAnswer (.effect e) = false := by
  cases e <;> first | rfl | cases silent

theorem served_enters (e : Effect) (own : served e = true) : enters s (.effect e) = false := by
  cases e with
  | streamStatus status =>
      have http : status.protocol = .http := by simpa [served] using own
      simp [enters,http]
  | _ => rfl

theorem served_answer (e : Effect) (own : served e = true) : isAnswer (.effect e) = false := by
  cases e <;> first | rfl | cases own

def RestingAt (c : Session D R) : Prop := Resting (DropCopy.stateOf c) c.request.response c.log

theorem tame_resting {c after : Session D R} (tame : DropCopy.Tame c after) (resting : RestingAt c) : RestingAt after := by
  obtain ⟨fresh,log,silent⟩ := tame.log
  unfold RestingAt
  rw [tame.state,log]
  exact resting.newer _ (effects_keep fresh) (effects_silent silent quiet_enters) (effects_silent silent quiet_answer)
    tame.response

theorem walk_resting [LawfulLimitRequest R] {c after : Session D R} (walk : Walk (DropCopy.onDownload config t) s c d after) :
    RestingAt (DropCopy.withDownload (d,after)) := by
  have rested := walk.rule (fun _ _ => True) (fun s c => Resting s c.request.response c.log) ?_ ?_ ?_ True.intro
  · exact rested
  · intro walker s c _ _ waiting kind waits
    have left := DropCopy.onDownload_waits config waiting
    obtain ⟨fresh,log,silent⟩ := left.log
    have marked : enters s (.effect (.streamStatus (DropCopy.streamStatus config .downloading s.name))) = true := by
      simp [enters,DropCopy.streamStatus]
    have only : since s (DropCopy.onDownload config t walker s c).2.log = fresh.map Entry.effect := by
      rw [log,since,upTo_append (effects_silent silent quiet_enters),upTo_cut marked,List.append_nil]
    refine ⟨⟨_,?_,marked⟩,?_,?_⟩
    · rw [log,upTo_append (effects_keep fresh),upTo_keep rfl]
      exact List.mem_append_right _ List.mem_cons_self
    · intro flag
      rw [left.response] at flag
      simp [waits] at flag
    · intro submission _ answered
      rw [only] at answered
      have known := effects_silent silent quiet_answer _ answered
      cases known
  · intro _ _ _ _ _ _
    exact True.intro
  · intro walker c _
    exact .idle rfl

variable [LawfulLimitRequest R] [LawfulDownload2 D]

theorem stage_resting {c moved : Session D R} (stage : DropCopy.Stage config event c moved) (resting : RestingAt c) :
    RestingAt moved := by
  cases stage with
  | stays => exact resting
  | dropped _ =>
      rw [RestingAt,DropCopy.onDisconnected_state]
      exact .idle rfl
  | walked _ _ walk => exact walk_resting walk

def Valid (w : World E D R) : Prop :=
  ∀ stream, w.dropCopy = some stream → Resting (Walker.state stream.download) w.request.response w.log

omit [LawfulLimitRequest R] in
theorem serves_valid {w after : World E D R} (serves : Serves config scope w after) (valid : Valid w)
    (handled : ∀ stream kind, w.dropCopy = some stream → (Walker.state stream.download).kind = some kind → scope.flagged kind →
      Answered (Walker.state stream.download) kind w.log) : Valid after := by
  intro stream present
  have renewed := serves.dropCopy
  rw [present] at renewed
  rcases renewed.state with undefined | ⟨earlier,known,same⟩
  · exact undefined ▸ .idle rfl
  · obtain ⟨fresh,log,own⟩ := serves.log
    have now : Resting (Walker.state earlier.download) after.request.response w.log := by
      intro kind waits
      have before := valid earlier known kind waits
      refine ⟨before.entered,?_,before.own⟩
      intro flag
      rcases serves.response kind flag with set | mine
      · exact before.flagged set
      · exact handled earlier kind known waits mine
    rw [same,log]
    exact now.newer _ (effects_keep fresh) (effects_silent own served_enters) (effects_silent own served_answer) fun _ flag => flag

omit [LawfulLimitRequest R] [LawfulDownload2 D] in
theorem receive_valid {w : World E D R} (valid : Valid w) (keep : isDropped (.event event) = false) :
    Valid (receive event w) := by
  intro stream present
  exact (valid stream present).newer [_] (by simpa using keep) (by simp [enters]) (by simp [isAnswer]) fun _ flag => flag

theorem copied_valid {w : World E D R} {c : Session D R} (valid : Valid w) (present : w.dropCopy = some stream)
    (stepped : DropCopy.step config (session stream (receive (.dropCopy happened) w)) happened = some c)
    (moves : DropCopy.Moves config happened (session stream (receive (.dropCopy happened) w)) c) :
    Valid (resume (receive (.dropCopy happened) w) c) := by
  suffices resting : RestingAt c from fun _ same => Option.some.inj same ▸ resting
  cases happened with
  | disconnected t =>
      obtain rfl := Option.some.inj stepped
      rw [RestingAt,DropCopy.onDisconnected_state]
      exact .idle rfl
  | _ =>
      obtain ⟨moved,stage,chores⟩ := moves
      exact tame_resting chores.tame (stage_resting stage ((receive_valid valid rfl) stream present))

theorem submitted_of_any {log : List Entry} (some : log.any (isSubmit submission) = true) :
    .effect (.submit submission) ∈ log := by
  obtain ⟨x,member,same⟩ := List.any_eq_true.mp some
  cases x with
  | event => cases same
  | effect e =>
      cases e with
      | submit other =>
          have equal : other = submission := by simpa [isSubmit] using same
          exact equal ▸ member
      | _ => cases same

omit [LimitRequest R] [LawfulLimitRequest R] [LawfulDownload2 D] in
theorem timely_submitted {id : Nat} {w : World E D R} (allowed : timely w (.rest (.response t id response)) = true)
    (found : w.inFlight.find? (fun s => s.id == id) = some submission) (present : w.dropCopy = some stream)
    (waits : (Walker.state stream.download : DropCopy.State).kind = some kind) (own : submission.callback.kind = some kind) :
    .effect (.submit submission) ∈ since (Walker.state stream.download) w.log := by
  simp only [timely,present,responseOf,found,Option.map_some,Option.all_some,waits,own] at allowed
  exact submitted_of_any (by simpa using allowed)

variable [Download2 E OrderEntryREST.State] [LawfulDownload2 E]

theorem step_valid {w after : World E D R} (valid : Valid w) (allowed : timely w event = true)
    (ran : step config w event = some after) : Valid after := by
  cases step_happens ran with
  | lost absent =>
      cases event with
      | rest happened => exact receive_valid valid rfl
      | dropCopy happened =>
          intro stream present
          rw [receive,absent happened rfl] at present
          cases present
  | copied happened present stepped moves =>
      subst happened
      exact copied_valid valid present stepped moves
  | served happened _ _ serves =>
      subst happened
      exact serves_valid serves (receive_valid valid rfl) nofun
  | @answered t response submission _ id happened found invoked serves =>
      subst happened
      have received : Valid (receive (.rest (.response t id response)) w) := receive_valid valid rfl
      refine serves_valid serves ?_ ?_
      · intro stream present
        refine (received stream present).answered ?_
        intro kind waits own
        exact List.mem_cons_of_mem _ (timely_submitted allowed found present waits own)
      · intro stream kind present waits own
        exact ⟨submission,own,by rw [since,answering,World.emit,upTo_keep rfl]; exact List.mem_cons_self⟩

omit [LawfulDownload2 D] in
theorem timer_flagged {c after : Session D R}
    (moves : DropCopy.Moves config (.timer t now refresh staleOrders) c after)
    (moved : DropCopy.stateOf after ≠ DropCopy.stateOf c) (waits : (DropCopy.stateOf c).kind = some kind) :
    c.request.response kind = true := by
  obtain ⟨during,stage,chores⟩ := moves
  cases stage with
  | stays => exact absurd chores.tame.state moved
  | dropped other => cases other
  | walked starts _ _ =>
      cases starts with
      | welcome other => cases other
      | again other => cases other
      | acked other => cases other
      | ackedIdle other => cases other
      | answered _ own flag =>
          rw [waits] at own
          cases own
          exact flag

theorem snapshots_are_fresh (config : Config) (w : World E D R)
    (path : Run config (fun w event => timely w event = true) w) : LeavesFresh config w := by
  have initial : Valid (AccountSystem.initial : World E D R) := nofun
  have valid : Valid w := path.invariant initial fun _ _ _ valid allowed ran => step_valid valid allowed ran
  intro t now refresh staleOrders stream later kind after present ran known waits left
  have resting := valid stream present kind waits
  cases step_happens ran with
  | lost absent =>
      rw [absent _ rfl] at present
      cases present
  | copied happened same stepped moves =>
      cases happened
      rw [present] at same
      cases same
      have changed : later = _ := (Option.some.inj known).symm
      subst changed
      exact ⟨resting.entered,resting.flagged (timer_flagged moves left waits),resting.own⟩
  | served other => cases other
  | answered other => cases other

section closed
open Smallest

-- A session up to the response of GET_BALANCES, to a request submitted in it.
def upToBalances : List Event := startup ++ [ack "SUBSCRIBE_BALANCES",poll,answer 1 (reply "ok")]

-- The same over a reconnect: the response is to the request of the first session.
def overReconnect : List Event :=
  startup ++ [ack "SUBSCRIBE_BALANCES",poll,drop,welcome,ack "SUBSCRIBE_BALANCES",answer 1 (reply "ok")]

def submits : Entry → Bool
  | .effect (.submit _) => true
  | _ => false

def leaves (w : Small) : Bool :=
  w.dropCopy.any (fun stream => stream.download.state == .getBalances) &&
    (step (setup true) w tick).any fun after => after.dropCopy.any fun stream => stream.download.state == .subscribePositions

theorem leaves_state (w : Small) (left : leaves w = true) : ∃ stream later after, w.dropCopy = some stream ∧
    step (setup true) w tick = some after ∧ after.dropCopy = some later ∧ stream.download.state = .getBalances ∧
    later.download.state = .subscribePositions := by
  simp only [leaves,Bool.and_eq_true,Option.any_eq_true,beq_iff_eq] at left
  obtain ⟨⟨stream,present,here⟩,after,ran,later,known,there⟩ := left
  exact ⟨stream,later,after,present,ran,known,here,there⟩

theorem snapshots_are_fresh_session : ∃ w : Small, LeavesFresh (setup true) w ∧ leaves w = true := by
  obtain ⟨w,path,left⟩ := reached_of_execute (initial : Small) (AccountSystem.step (setup true)) timely upToBalances leaves
    (by decide +kernel) (by decide +kernel)
  exact ⟨w,snapshots_are_fresh (setup true) w path,left⟩

theorem late_response_completes : ¬ ∀ w : Small, Run (setup true) (fun _ _ => True) w → LeavesFresh (setup true) w := by
  intro all
  have ran : (execute (AccountSystem.step (setup true)) (initial : Small) overReconnect).any (fun w => leaves w &&
      !(since .getBalances w.log).any submits) = true := by decide +kernel
  obtain ⟨w,executed,checked⟩ := (Option.any_eq_true _ _).mp ran
  simp only [Bool.and_eq_true,Bool.not_eq_true'] at checked
  obtain ⟨stream,later,after,present,stepped,known,here,there⟩ := leaves_state w checked.1
  have current : (Walker.state stream.download : DropCopy.State) = .getBalances := here
  have fresh := all w (execute_reached executed) _ _ _ _ stream later .balances after present stepped known
    (by rw [current]; rfl) (by rw [current]; exact fun equal => by cases there.symm.trans equal)
  rw [current] at fresh
  obtain ⟨submission,own,answered⟩ := fresh.answered
  have submitted : (since .getBalances w.log).any submits = true :=
    List.any_eq_true.mpr ⟨_,fresh.own submission own answered,rfl⟩
  rw [checked.2] at submitted
  cases submitted

end closed
end KucoinPro.SessionSnapshots

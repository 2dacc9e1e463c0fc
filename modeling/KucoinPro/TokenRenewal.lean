import KucoinPro.TokenDownload

namespace KucoinPro.TokenRenewal
open GuardedRuns AccountSystem OrderEntryREST TokenDownload

variable {E D R : Type} (config : Config) [LimitRequest R]

-- The drop copy has a token, or somebody is after one.
def Unstuck (w : World E D R) : Prop := ∀ stream, w.dropCopy = some stream → stream.query ≠ "" ∨ Asking w

def asking (w : World E D R) : Bool :=
  w.request.pending .privateToken || w.inFlight.any fun s => s.callback.kind == some .privateToken

-- It waits for a token that nobody asks for: request_private_token returns at once.
def isStuck (w : World E D R) : Bool := w.dropCopy.any (fun stream => stream.query == "") && !asking w

-- The step that gets it there: a request for the token fails, and without that
-- request the drop copy is stuck.
def stalls (w : World E D R) (event : Event) : Bool :=
  (responseOf w event).any fun (submission,response) =>
    submission.callback.kind == some .privateToken && !succeeds config submission.callback response &&
      isStuck (answering submission w)

variable {config}

theorem asking_iff {w : World E D R} : asking w = true ↔ Asking w := by
  simp [asking,Asking]

theorem unstuck_iff {w : World E D R} : Unstuck w ↔ isStuck w = false := by
  unfold Unstuck isStuck
  rw [← asking_iff]
  cases w.dropCopy with
  | none => simp
  | some stream => by_cases empty : stream.query = "" <;> simp [empty]

theorem isStuck_present {w : World E D R} (stuck : isStuck w = true) : ∃ stream, w.dropCopy = some stream := by
  simp only [isStuck,Bool.and_eq_true] at stuck
  obtain ⟨stream,present,_⟩ := (Option.any_eq_true _ _).mp stuck.1
  exact ⟨stream,present⟩

variable [Download2 D DropCopy.State]

section dropCopy
variable {c after : Session D R}

-- What the drop copy sees of it.
def Provided (c : Session D R) : Prop := c.stream.query ≠ "" ∨ c.request.pending .privateToken = true

theorem Provided.keeps (provided : Provided c) (keeps : DropCopy.Keeps c after) : Provided after := by
  unfold Provided
  rw [keeps.query,keeps.pending]
  exact provided

variable [LawfulLimitRequest R]

theorem Provided.chore (provided : Provided c) (chore : DropCopy.Chore c after) : Provided after := by
  cases chore with
  | keeps keeps => exact provided.keeps keeps
  | stale => exact provided.imp_right fun pending => by simpa [DropCopy.markRequest] using pending
  | token asked =>
      rw [DropCopy.requestPrivateToken_marks _ asked]
      exact .inr (by simp [DropCopy.markRequest])

omit [Download2 D DropCopy.State] in
theorem onDownload_provided (t : TraceInfo) (d : D) (s : DropCopy.State) (c : Session D R) (provided : Provided c) :
    Provided (DropCopy.onDownload config t d s c).2 := by
  by_cases waiting : (DropCopy.onDownload config t d s c).1 = 0
  · by_cases last : s = .done
    · subst last
      exact provided
    · rwa [DropCopy.onDownload_passes config last waiting]
  · have waits := DropCopy.onDownload_waits config waiting
    unfold Provided
    rw [waits.query,waits.pending]
    exact provided.imp_right fun pending => by simp [pending]

theorem Provided.moves (provided : Provided c) (moves : DropCopy.Moves config event c after) : Provided after := by
  obtain ⟨moved,stage,chores⟩ := moves
  apply chores.rule (fun _ _ known chore => known.chore chore)
  cases stage with
  | stays => exact provided
  | dropped _ => exact provided
  | @walked _ _ t _ _ _ kept walk =>
      have walked : Provided _ → Provided _ := walk.related (fun c after => Provided c → Provided after)
        (fun _ _ _ one two => two ∘ one) (fun d s c => onDownload_provided t d s c)
      exact walked (provided.keeps kept)

end dropCopy

theorem Renewed.known {before after : Option (DropCopy D)} (renewed : Renewed before after)
    (known : ∀ stream, before = some stream → stream.query ≠ "" ∨ asked) :
    ∀ stream, after = some stream → stream.query ≠ "" ∨ asked := by
  intro stream present
  cases renewed with
  | same => exact known stream present
  | created query =>
      cases present
      exact .inl query
  | renewed query =>
      cases present
      exact .inl query

omit [LimitRequest R] in
theorem onToken_provides (token : Json.Token) (w : World E D R) :
    ∀ stream, (onToken config token w).dropCopy = some stream → stream.query ≠ "" := by
  have known := query_known token.data.token
  intro stream present
  simp only [onToken,Controller.onPrivateToken] at present
  split at present
  · cases present
    exact known
  · rename_i earlier old
    split at present
    · cases present
      exact known
    · rename_i unchanged
      rw [old] at present
      cases present
      intro empty
      exact unchanged ⟨known,fun equal => known (equal.symm.trans empty)⟩

variable [Download2 E OrderEntryREST.State]

-- What it takes for the ack to touch the drop copy, once the download is over.
omit [LimitRequest R] in
theorem acked_idle {sequence : Nat} {w after : World E D R} (idle : isDownloading w = false)
    (acked : TokenAck config t sequence response w after) :
    (succeeds config (.getPrivateTokenAck sequence) response = true ∧
      ∀ stream, after.dropCopy = some stream → stream.query ≠ "") ∨
    (succeeds config (.getPrivateTokenAck sequence) response = false ∧
      after.dropCopy = w.dropCopy ∧ after.request = w.request ∧ after.inFlight = w.inFlight) := by
  cases acked with
  | retried broken =>
      have same : retryPrivateToken config t w = w := by simp [retryPrivateToken,idle]
      refine .inr ⟨?_,by rw [same],by rw [same],by rw [same]⟩
      cases known : content response with
      | none => simp [OrderEntryREST.succeeds,decodes,known]
      | some body =>
          obtain ⟨e,thrown⟩ := broken body known
          simp [OrderEntryREST.succeeds,decodes,known,thrown]
  | skipped skipped => simp [idle] at skipped
  | @processed body token _ known decoded =>
      have accepted : succeeds config (.getPrivateTokenAck sequence) response = (token.code == Json.SYSTEM_CODE_SUCCESS) := by
        simp [OrderEntryREST.succeeds,decodes,known,decoded]
      by_cases success : token.code = Json.SYSTEM_CODE_SUCCESS
      · have rests : isDownloading (onToken config token w) = false := by
          rw [isDownloading,(onToken_sends config token w).1]
          exact idle
        simp only [success,if_true,checkPrivateToken,rests,Bool.false_eq_true,if_false]
        exact .inl ⟨by simp [accepted,success],onToken_provides token w⟩
      · refine .inr ⟨by simp [accepted,success],?_⟩
        simp [success,checkPrivateToken,idle]

theorem privateToken_callback {callback : Callback} (token : callback.kind = some .privateToken) :
    ∃ sequence, callback = .getPrivateTokenAck sequence := by
  cases callback with
  | getPrivateTokenAck sequence => exact ⟨sequence,rfl⟩
  | _ => cases token

omit [Download2 E OrderEntryREST.State] [Download2 D DropCopy.State] in
theorem answering_asks {id : Nat} {w : World E D R} (found : w.inFlight.find? (fun s => s.id == id) = some submission)
    (other : submission.callback.kind ≠ some .privateToken) (asks : Asking w) : Asking (answering submission w) := by
  rcases asks with pending | ⟨s,present,token⟩
  · exact .inl pending
  · refine .inr ⟨s,answering_keeps found present ?_,token⟩
    intro same
    exact other (same ▸ token)

-- What the answer to a request for the token comes to, for a drop copy that is there.
theorem answered_renews [LawfulLimitRequest R] {w after : World E D R} (shape : Shape w) (present : w.dropCopy = some stream)
    (answer : responseOf w event = some (submission,response)) (token : submission.callback.kind = some .privateToken)
    (ran : AccountSystem.step config w event = some after) :
    (succeeds config submission.callback response = true ∧ Unstuck after) ∨
    (succeeds config submission.callback response = false ∧ isStuck after = isStuck (answering submission w)) := by
  obtain ⟨sequence,callback⟩ := privateToken_callback token
  obtain ⟨t,acked,handled,rfl⟩ := answered_token answer callback ran
  have idle : isDownloading w = false := by
    apply shape.idle
    cases set : w.rest.hasDownloadedPrivateToken with
    | true => rfl
    | false =>
        rw [shape.absent set] at present
        cases present
  rw [callback]
  rcases acked_idle (w := answering submission (receive event w)) idle handled with ⟨good,known⟩ | ⟨bad,dropCopy,request,inFlight⟩
  · exact .inl ⟨good,fun stream now => .inl (known stream now)⟩
  · refine .inr ⟨bad,?_⟩
    simp [isStuck,asking,OrderEntryREST.commit,dropCopy,request,inFlight,receive,answering,World.emit]

variable [LawfulDownload2 E] [LawfulDownload2 D] [LawfulLimitRequest R]

theorem step_unstuck {w after : World E D R} (shape : Shape w) (unstuck : Unstuck w) (kept : stalls config w event = false)
    (ran : AccountSystem.step config w event = some after) : Unstuck after := by
  cases step_happens ran with
  | lost => exact unstuck
  | copied _ present _ moves =>
      intro stream now
      obtain rfl := Option.some.inj now
      rcases unstuck _ present with query | pending | flying
      · exact (Provided.moves (.inl query) moves).imp_right .inl
      · exact (Provided.moves (.inr pending) moves).imp_right .inl
      · exact .inr (.inr flying)
  | served _ _ _ serves =>
      exact Renewed.known serves.dropCopy fun stream present => (unstuck stream present).imp_right serves.asking
  | @answered t response submission _ id same found invoked serves =>
      have settles : Unstuck (answering submission (receive event w)) → Unstuck after := fun settled =>
        Renewed.known serves.dropCopy fun stream present => (settled stream present).imp_right serves.asking
      by_cases token : submission.callback.kind = some .privateToken
      · cases stuck : isStuck (answering submission w) with
        | false => exact settles (unstuck_iff (w := answering submission w).mpr stuck)
        | true =>
            have answer : responseOf w event = some (submission,response) := responseOf_iff.mpr ⟨t,id,same,found⟩
            have good : succeeds config submission.callback response = true := by
              simpa [stalls,answer,token,stuck] using kept
            obtain ⟨stream,present⟩ := isStuck_present stuck
            rcases answered_renews shape present answer token ran with ⟨_,renewed⟩ | ⟨bad,_⟩
            · exact renewed
            · rw [good] at bad
              cases bad
      · apply settles
        intro stream present
        exact (unstuck stream present).imp_right (answering_asks found token)

omit [LawfulDownload2 E] [LawfulDownload2 D] in
theorem stalls_stuck {w after : World E D R} (shape : Shape w) (stalled : stalls config w event = true)
    (ran : AccountSystem.step config w event = some after) : ¬ Unstuck after := by
  obtain ⟨⟨submission,response⟩,answer,failed⟩ := (Option.any_eq_true _ _).mp stalled
  simp only [Bool.and_eq_true,beq_iff_eq,Bool.not_eq_true'] at failed
  obtain ⟨⟨token,bad⟩,stuck⟩ := failed
  obtain ⟨stream,present⟩ := isStuck_present stuck
  rcases answered_renews shape present answer token ran with ⟨good,_⟩ | ⟨_,same⟩
  · rw [bad] at good
    cases good
  · rw [unstuck_iff,same,stuck]
    nofun

theorem reached_unstuck {w : World E D R} (path : Run config (fun w event => stalls config w event = false) w) : Unstuck w := by
  induction path with
  | start => intro stream none; cases none
  | step path kept ran ih => exact step_unstuck (reached_shape path) ih kept ran

-- The renewal never gets stuck in exactly the runs in which every request for the
-- token succeeds that the drop copy depends on.
theorem renewal_is_asked_for (config : Config) (events : List Event) :
    EveryStep (AccountSystem.step config) (initial : World E D R) events (fun _ _ after => Unstuck after) ↔
      EveryStep (AccountSystem.step config) (initial : World E D R) events (fun w event _ => stalls config w event = false) := by
  apply everyStep_exactly
  · intro w event after path ran stalled
    exact stalls_stuck (reached_shape path) stalled ran
  · intro w event after path ran kept
    exact step_unstuck (reached_shape path) (reached_unstuck path) kept ran

section closed
open Smallest

def expired : Event := .dropCopy (.error t ⟨401,"token is expired",""⟩)

-- The token expires twice, and is renewed each time.
def renewals : List Event := startup ++ [expired,poll,expired,answer 1 (reply "ok"),expired,drop,poll,answer 2 (reply "ok")]

theorem renewal_is_asked_for_twice :
    EveryStep (AccountSystem.step (setup true)) (initial : Small) renewals (fun _ _ after => Unstuck after) :=
  (renewal_is_asked_for (setup true) renewals).mpr
    (everyStep_never (stalls (setup true)) (by decide +kernel))

-- One failure of the exchange, and nobody asks any more.
theorem failed_renewal_gets_stuck : ¬ ∀ events,
    EveryStep (AccountSystem.step (setup true)) (initial : Small) events (fun _ _ after => Unstuck after) := by
  intro all
  obtain ⟨w,after,executed,stepped,stalled⟩ := met_at_last (initial : Small) (AccountSystem.step (setup true))
    (stalls (setup true)) (startup ++ [expired,poll]) (answer 1 (failure 500)) (by decide +kernel)
  exact stalls_stuck (reached_shape (execute_reached executed)) stalled stepped ((all _).last executed stepped)

end closed
end KucoinPro.TokenRenewal

import KucoinPro.AccountMoves

namespace KucoinPro.TokenDownload
open GuardedRuns History StagedWalk AccountSystem OrderEntryREST Json

variable {E D R : Type} (config : Config)

def isToken : Entry → Bool
  | .effect (.privateToken _) => true
  | _ => false

-- ConnectionStatus::READY of the order stream.
def isReady : Entry → Bool
  | .effect (.streamStatus status) => status.protocol == .http && status.connectionStatus == .ready
  | _ => false

-- A private token from a response with code 200000 has been dispatched.
def Dispatched (log : List Entry) : Prop :=
  ∃ t id response body token, .event (.rest (.response t id response)) ∈ log ∧ content response = some body ∧
    config.platform.token body = .ok token ∧ token.code = SYSTEM_CODE_SUCCESS ∧
    .effect (.privateToken ⟨config.account.name,"?token=" ++ token.data.token⟩) ∈ log

def ReadyMeans (x : Entry) (older : List Entry) : Prop := isReady x = true → Dispatched config older

def refuses (response : Web.Response) : Bool :=
  (content response).any fun body => (config.platform.token body).toOption.any fun token => token.code != SYSTEM_CODE_SUCCESS

variable [Download2 E OrderEntryREST.State]

def skips (sequence : Nat) (w : World E D R) : Bool :=
  isDownloading w && Download2.skip sequence State.privateToken w.rest.download

-- The step that gives the token up: such a response is processed before there
-- has been a token.
def givesUp (w : World E D R) (event : Event) : Bool :=
  (responseOf w event).any fun (submission,response) =>
    match submission.callback with
    | .getPrivateTokenAck sequence => !w.rest.hasDownloadedPrivateToken && !skips sequence w && refuses config response
    | _ => false

-- What one step must leave behind.
structure TokenKept (w : World E D R) (event : Event) (after : World E D R) : Prop where
  flag : after.rest.hasDownloadedPrivateToken = true → Dispatched config after.log
  ready : ∀ newer x older, after.log = newer ++ x :: older → isReady x = true → Dispatched config older
  retried : ∀ submission response sequence, responseOf w event = some (submission,response) →
    submission.callback = .getPrivateTokenAck sequence → refuses config response = true → isDownloading w = true →
    Walker.state after.rest.download = State.privateToken ∧ after.rest.hasDownloadedPrivateToken = false

variable {config}

theorem Dispatched.newer (fresh : List Entry) (dispatched : Dispatched config log) : Dispatched config (fresh ++ log) := by
  obtain ⟨t,id,response,body,token,answered,known,decoded,success,sent⟩ := dispatched
  exact ⟨t,id,response,body,token,List.mem_append_right fresh answered,known,decoded,success,List.mem_append_right fresh sent⟩

theorem Dispatched.token (dispatched : Dispatched config log) : ∃ x ∈ log, isToken x = true := by
  obtain ⟨_,_,_,_,_,_,_,_,_,sent⟩ := dispatched
  exact ⟨_,sent,rfl⟩

-- What holds in every run: as long as the flag is not set there has been no
-- token, and no drop copy; and the download is over once it is set.
structure Shape (w : World E D R) : Prop where
  unset : w.rest.hasDownloadedPrivateToken = false → ∀ x ∈ w.log, isToken x = false
  absent : w.rest.hasDownloadedPrivateToken = false → w.dropCopy = none
  running : isDownloading w = true → w.rest.hasDownloadedPrivateToken = false

theorem Shape.idle {w : World E D R} (shape : Shape w) (set : w.rest.hasDownloadedPrivateToken = true) :
    isDownloading w = false := by
  cases busy : isDownloading w with
  | false => rfl
  | true =>
      rw [shape.running busy] at set
      cases set

-- And in a run in which the token is never given up.
structure Valid (config : Config) (w : World E D R) : Prop where
  flag : w.rest.hasDownloadedPrivateToken = true → Dispatched config w.log
  ready : Every (ReadyMeans config) w.log

-- What happens without a new token: READY is published only if there has been
-- one, and the download runs on only if there has not.
structure Quiet (before after : World E D R) : Prop where
  flag : after.rest.hasDownloadedPrivateToken = before.rest.hasDownloadedPrivateToken
  dropCopy : before.dropCopy = none → after.dropCopy = none
  running : isDownloading after = true → isDownloading before = true ∨ before.rest.hasDownloadedPrivateToken = false
  log : ∃ fresh, after.log = fresh ++ before.log ∧ ∀ x ∈ fresh, isToken x = false ∧
    (isReady x = true → before.rest.hasDownloadedPrivateToken = true)

theorem Quiet.trans {a b c : World E D R} (one : Quiet a b) (two : Quiet b c) : Quiet a c := by
  obtain ⟨first,firstLog,firstQuiet⟩ := one.log
  obtain ⟨second,secondLog,secondQuiet⟩ := two.log
  refine ⟨two.flag.trans one.flag,two.dropCopy ∘ one.dropCopy,?_,second ++ first,?_,?_⟩
  · intro busy
    rcases two.running busy with earlier | unset
    · exact one.running earlier
    · exact .inr (one.flag ▸ unset)
  · rw [secondLog,firstLog,List.append_assoc]
  · intro x member
    rcases List.mem_append.mp member with new | old
    · exact ⟨(secondQuiet x new).1,fun ready => one.flag ▸ (secondQuiet x new).2 ready⟩
    · exact firstQuiet x old

theorem Quiet.shape {before after : World E D R} (quiet : Quiet before after) (shape : Shape before) : Shape after := by
  obtain ⟨fresh,log,silent⟩ := quiet.log
  constructor
  · intro unset x member
    rw [log] at member
    rcases List.mem_append.mp member with new | old
    · exact (silent x new).1
    · exact shape.unset (quiet.flag ▸ unset) x old
  · intro unset
    exact quiet.dropCopy (shape.absent (quiet.flag ▸ unset))
  · intro busy
    rw [quiet.flag]
    exact (quiet.running busy).elim shape.running id

theorem Quiet.valid {before after : World E D R} (quiet : Quiet before after) (valid : Valid config before) :
    Valid config after := by
  obtain ⟨fresh,log,silent⟩ := quiet.log
  constructor
  · intro set
    rw [log]
    exact (valid.flag (quiet.flag ▸ set)).newer fresh
  · rw [log]
    apply valid.ready.newer
    intro x member between ready
    exact (valid.flag ((silent x member).2 ready)).newer between

theorem calm_quiet (e : Effect) (still : calm e = true) : isToken (.effect e) = false ∧ isReady (.effect e) = false := by
  cases e with
  | privateToken => cases still
  | streamStatus status =>
      simp only [calm,Bool.not_eq_true'] at still
      exact ⟨rfl,still⟩
  | _ => exact ⟨rfl,rfl⟩

theorem Quiet.of_spared {before after : World E D R} (spared : Spared before after) : Quiet before after := by
  obtain ⟨fresh,log,still⟩ := spared.log
  refine ⟨spared.flag,fun none => spared.dropCopy.trans none,?_,_,log,?_⟩
  · intro busy
    rw [isDownloading,spared.download] at busy
    exact .inl busy
  · intro x member
    obtain ⟨e,present,rfl⟩ := List.mem_map.mp member
    have quiet := calm_quiet e (still e present)
    exact ⟨quiet.1,fun ready => absurd ready (by simp [quiet.2])⟩

theorem owned_quiet (e : Effect) (own : DropCopy.owned e = true) : isToken (.effect e) = false ∧ isReady (.effect e) = false := by
  cases e with
  | privateToken => cases own
  | streamStatus status =>
      have ws : status.protocol = .ws := by simpa [DropCopy.owned] using own
      exact ⟨rfl,by simp [isReady,ws]⟩
  | _ => exact ⟨rfl,rfl⟩

theorem Quiet.receive (w : World E D R) (event : Event) : Quiet w (receive event w) :=
  ⟨rfl,fun none => none,.inl,[.event event],rfl,by simp [isToken,isReady]⟩

theorem Quiet.answering (w : World E D R) (submission : Submission) : Quiet w (answering submission w) :=
  ⟨rfl,fun none => none,.inl,[.effect (.answer submission)],rfl,by simp [isToken,isReady]⟩

theorem Quiet.commit [LimitRequest R]
    (w : World E D R) (t : TraceInfo) (kind : Kind) : Quiet w (OrderEntryREST.commit t kind w) :=
  ⟨rfl,fun none => none,.inl,[],rfl,by simp⟩

theorem Quiet.resume {w : World E D R} {c : Session D R} (present : w.dropCopy = some stream)
    (grows : DropCopy.Grows (session stream w) c) : Quiet w (resume w c) := by
  obtain ⟨fresh,log,own⟩ := grows
  refine ⟨rfl,?_,.inl,_,log,?_⟩
  · intro absent
    rw [present] at absent
    cases absent
  · intro x member
    obtain ⟨e,among,rfl⟩ := List.mem_map.mp member
    have quiet := owned_quiet e (own e among)
    exact ⟨quiet.1,fun ready => absurd ready (by simp [quiet.2])⟩

theorem walk_done {w during : World E D R} (walk : Walk (OrderEntryREST.onDownload config t) s w d during)
    (last : s = State.done) : Walker.state d = State.done ∧ during = onConnectionStatus config .ready "" w := by
  cases walk with
  | wait working => exact absurd last working
  | last rests => exact ⟨rests,rfl⟩
  | pass working => exact absurd last working

-- One that enters PRIVATE_TOKEN waits there for the token, or has it already.
theorem walk_first {w during : World E D R} (walk : Walk (OrderEntryREST.onDownload config t) s w d during)
    (first : s = State.privateToken) :
    (w.rest.hasDownloadedPrivateToken = true ∧ Walker.state d = State.done ∧ during = onConnectionStatus config .ready "" w) ∨
    (w.rest.hasDownloadedPrivateToken = false ∧ Walker.state d = State.privateToken ∧ Spared w during) := by
  cases flag : w.rest.hasDownloadedPrivateToken with
  | true =>
      apply Or.inl
      cases walk with
      | wait _ waiting =>
          subst first
          exact absurd (by simp [OrderEntryREST.onDownload,flag]) waiting
      | last => cases first
      | pass _ _ rest =>
          subst first
          simp only [OrderEntryREST.onDownload,flag,if_true] at rest
          exact ⟨rfl,walk_done rest rfl⟩
  | false =>
      apply Or.inr
      cases walk with
      | wait _ _ rests _ =>
          subst first
          refine ⟨rfl,rests,?_⟩
          simp only [OrderEntryREST.onDownload,flag,Bool.false_eq_true,if_false]
          exact ⟨rfl,rfl,rfl,[.submit _,.streamStatus _],rfl,by simp [calm]⟩
      | last => cases first
      | pass _ zero =>
          subst first
          simp [OrderEntryREST.onDownload,flag] at zero

variable [LawfulDownload2 E]

theorem isDownloading_iff (w : World E D R) : isDownloading w = true ↔ Walker.state w.rest.download = State.privateToken := by
  rw [isDownloading,LawfulDownload2.downloading_iff]
  cases Walker.state w.rest.download with
  | undefined => exact ⟨fun busy => absurd rfl busy.1,nofun⟩
  | privateToken => exact ⟨fun _ => rfl,fun _ => ⟨nofun,nofun⟩⟩
  | done => exact ⟨fun busy => absurd rfl busy.2,nofun⟩

theorem Quiet.walked {w during : World E D R} (walk : Walk (OrderEntryREST.onDownload config t) s w d during)
    (first : s = State.privateToken) : Quiet w (withDownload (d,during)) := by
  rcases walk_first walk first with ⟨set,rests,rfl⟩ | ⟨unset,_,spared⟩
  · refine ⟨rfl,fun none => none,?_,[.effect (.streamStatus _)],rfl,?_⟩
    · intro busy
      have waits : Walker.state d = State.privateToken := (isDownloading_iff _).mp busy
      rw [rests] at waits
      cases waits
    · intro x member
      obtain rfl := List.mem_singleton.mp member
      exact ⟨rfl,fun _ => set⟩
  · have quiet := Quiet.of_spared spared
    exact ⟨quiet.flag,quiet.dropCopy,fun _ => .inr unset,quiet.log⟩

theorem Quiet.unmoved {w : World E D R} {result : E × World E D R} (unmoved : Unmoved w.rest.download w result) :
    Quiet w (withDownload result) := by
  obtain ⟨state,same⟩ := unmoved
  have running : isDownloading (withDownload result) = true → isDownloading w = true := by
    intro busy
    have waits : Walker.state result.1 = State.privateToken := (isDownloading_iff _).mp busy
    rw [state] at waits
    exact (isDownloading_iff w).mpr waits
  refine ⟨?_,?_,fun busy => .inl (running busy),[],?_,by simp⟩
  all_goals simp [withDownload,same]

theorem Quiet.retry (t : TraceInfo) (w : World E D R) : Quiet w (retryPrivateToken config t w) := by
  unfold retryPrivateToken
  split
  · rcases LawfulDownload2.retry_rearms (OrderEntryREST.onDownload config t) .privateToken w.rest.download w with same | ⟨_,_,walk⟩
    · exact .unmoved same
    · exact .walked walk rfl
  · exact .of_spared (.fields rfl rfl rfl)

theorem Quiet.connected (t : TraceInfo) (w : World E D R) : Quiet w (OrderEntryREST.onConnected config t w) := by
  unfold OrderEntryREST.onConnected
  split
  · rename_i busy
    exact .walked (LawfulDownload2.bump_running (OrderEntryREST.onDownload config t) w.rest.download w busy)
      ((isDownloading_iff w).mp busy)
  · rename_i idle
    exact .walked (LawfulDownload2.begin_idle (OrderEntryREST.onDownload config t) w.rest.download w
      (Bool.eq_false_iff.mpr idle)) rfl

theorem Quiet.disconnected (w : World E D R) : Quiet w (OrderEntryREST.onDisconnected config w) := by
  let published := OrderEntryREST.onConnectionStatus config .disconnected "" w
  have spared : Spared w published := ⟨rfl,rfl,rfl,[.streamStatus _],rfl,by simp [calm]⟩
  have quiet := Quiet.of_spared spared
  simp only [OrderEntryREST.onDisconnected]
  split
  · exact quiet
  · refine ⟨quiet.flag,quiet.dropCopy,?_,quiet.log⟩
    intro busy
    have waits := (isDownloading_iff _).mp busy
    rw [LawfulDownload2.reset_state] at waits
    cases waits

theorem checkPrivateToken_done (config : Config) (t : TraceInfo) (w : World E D R) :
    (isDownloading w = false ∧ checkPrivateToken config t w = w) ∨ ∃ d, Walker.state d = State.done ∧
      checkPrivateToken config t w = withDownload (d,onConnectionStatus config .ready "" w) := by
  unfold checkPrivateToken
  cases running : isDownloading w with
  | false => exact .inl ⟨rfl,rfl⟩
  | true =>
      have walk := LawfulDownload2.check_current (OrderEntryREST.onDownload config t) w.rest.download w running
      rw [(isDownloading_iff w).mp running] at walk
      obtain ⟨rests,published⟩ := walk_done walk rfl
      refine .inr ⟨_,rests,?_⟩
      rw [← published]
      rfl

variable [Download2 D DropCopy.State]

-- A token that has been processed: dispatched if it is one, and the flag set
-- whatever it is.
def processed (config : Config) (t : TraceInfo) (token : Token) (w : World E D R) : World E D R :=
  {checkPrivateToken config t (if token.code = SYSTEM_CODE_SUCCESS then onToken config token w else w) with
    rest.hasDownloadedPrivateToken := true}

omit [Download2 E OrderEntryREST.State] [LawfulDownload2 E] in
theorem onToken_sends (config : Config) (token : Token) (w : World E D R) : (onToken config token w).rest = w.rest ∧
    ∃ fresh, (onToken config token w).log =
      fresh ++ .effect (.privateToken ⟨config.account.name,"?token=" ++ token.data.token⟩) :: .effect (.token token) :: w.log ∧
      ∀ x ∈ fresh, isReady x = false := by
  simp only [onToken,Controller.onPrivateToken]
  split
  · exact ⟨rfl,[.effect .start],rfl,by simp [isReady]⟩
  · split
    · exact ⟨rfl,[.effect .resume],rfl,by simp [isReady]⟩
    · exact ⟨rfl,[],rfl,by simp⟩

theorem processed_shape (t : TraceInfo) (token : Token) (w : World E D R) : Shape (processed config t token w) := by
  refine ⟨nofun,nofun,?_⟩
  intro busy
  have waits := (isDownloading_iff _).mp busy
  simp only [processed] at waits
  rcases checkPrivateToken_done config t (if token.code = SYSTEM_CODE_SUCCESS then onToken config token w else w) with
    ⟨idle,same⟩ | ⟨d,rests,same⟩
  · rw [same] at waits
    rw [(isDownloading_iff _).mpr waits] at idle
    cases idle
  · rw [same] at waits
    exact absurd (rests.symm.trans waits) nofun

theorem processed_valid (t : TraceInfo) {id : Nat} {w : World E D R} (valid : Valid config w)
    (answered : .event (.rest (.response t id response)) ∈ w.log) (known : content response = some body)
    (decoded : config.platform.token body = .ok token) (success : token.code = SYSTEM_CODE_SUCCESS) :
    Valid config (processed config t token w) := by
  obtain ⟨_,fresh,log,silent⟩ := onToken_sends config token w
  have sent : Dispatched config (onToken config token w).log := by
    rw [log]
    refine ⟨t,id,response,body,token,?_,known,decoded,success,List.mem_append_right fresh List.mem_cons_self⟩
    exact List.mem_append_right fresh (List.mem_cons_of_mem _ (List.mem_cons_of_mem _ answered))
  have sound : Every (ReadyMeans config) (onToken config token w).log := by
    have base : Every (ReadyMeans config) (.effect (.privateToken ⟨config.account.name,"?token=" ++ token.data.token⟩) ::
        .effect (.token token) :: w.log) := ⟨nofun,nofun,valid.ready⟩
    rw [log]
    apply base.newer
    intro x member _ ready
    rw [silent x member] at ready
    cases ready
  simp only [processed,success,if_true]
  rcases checkPrivateToken_done config t (onToken config token w) with ⟨_,same⟩ | ⟨d,_,same⟩
  · rw [same]
    exact ⟨fun _ => sent,sound⟩
  · rw [same]
    exact ⟨fun _ => sent.newer [.effect (.streamStatus _)],fun _ => sent,sound⟩

-- Any other code changes nothing once there has been a token.
omit [LawfulDownload2 E] in
theorem processed_quiet (t : TraceInfo) {token : Token} {w : World E D R} (shape : Shape w)
    (set : w.rest.hasDownloadedPrivateToken = true) (other : token.code ≠ SYSTEM_CODE_SUCCESS) :
    Quiet w (processed config t token w) := by
  have same : checkPrivateToken config t w = w := by simp [checkPrivateToken,shape.idle set]
  simp only [processed,other,if_false,same]
  exact ⟨set.symm,fun none => none,.inl,[],rfl,by simp⟩

theorem processed_silent (t : TraceInfo) {token : Token} {w : World E D R} (other : token.code ≠ SYSTEM_CODE_SUCCESS)
    (none : ∀ x ∈ w.log, isToken x = false) : ∀ x ∈ (processed config t token w).log, isToken x = false := by
  simp only [processed,other,if_false]
  rcases checkPrivateToken_done config t w with ⟨_,same⟩ | ⟨d,_,same⟩
  · rw [same]
    exact none
  · rw [same]
    intro x member
    rcases List.mem_cons.mp member with rfl | earlier
    · rfl
    · exact none x earlier

-- A step either sends no token, or processes one.
inductive Happened [LimitRequest R] (config : Config) (w : World E D R) (event : Event) : World E D R → Prop where
  | quiet : Quiet w after → Happened config w event after
  | token {id sequence : Nat} : event = .rest (.response t id response) → responseOf w event = some (submission,response) →
      submission.callback = .getPrivateTokenAck sequence → skips sequence w = false → content response = some body →
      config.platform.token body = .ok token → Happened config w event
        (OrderEntryREST.commit t .privateToken (processed config t token (answering submission (receive event w))))

variable [LimitRequest R] [LawfulDownload2 D] [LawfulLimitRequest R]

theorem step_happened {w after : World E D R} (ran : AccountSystem.step config w event = some after) :
    Happened config w event after := by
  have received := Quiet.receive w event
  cases step_happens ran with
  | lost => exact .quiet received
  | copied happened present _ moves =>
      subst happened
      exact .quiet (received.trans (.resume present (moves.grows config)))
  | @served happened _ same _ ran serves =>
      subst same
      apply Happened.quiet (received.trans ?_)
      rcases serves.spared with downloads | spared
      · cases happened with
        | connected t => exact Option.some.inj ran ▸ .connected t _
        | disconnected t => exact Option.some.inj ran ▸ .disconnected _
        | timer | action | response => cases downloads
      · exact .of_spared spared
  | @answered t response submission _ id same found invoked serves =>
      have started := received.trans (Quiet.answering (receive event w) submission)
      rcases serves.spared with own | spared
      · cases callback : submission.callback with
        | getPrivateTokenAck sequence =>
            simp only [invoke,callback] at invoked
            obtain ⟨handled,acked,rfl⟩ := getPrivateTokenAck_cases invoked
            cases acked with
            | retried _ => exact .quiet ((started.trans (.retry t _)).trans (.commit _ t _))
            | skipped _ => exact .quiet (started.trans (.commit _ t _))
            | processed skipped known decoded =>
                have answer : responseOf w event = some (submission,response) := by
                  rw [same,responseOf,found]
                  rfl
                exact .token same answer callback skipped known decoded
        | _ =>
            rw [callback] at own
            cases own
      · exact .quiet (started.trans (.of_spared spared))

theorem step_shape {w after : World E D R} (shape : Shape w) (ran : AccountSystem.step config w event = some after) :
    Shape after := by
  cases step_happened ran with
  | quiet quiet => exact quiet.shape shape
  | token => exact (Quiet.commit _ _ _).shape (processed_shape _ _ _)

theorem refuses_iff (known : content response = some body) (decoded : config.platform.token body = .ok token) :
    refuses config response = true ↔ token.code ≠ SYSTEM_CODE_SUCCESS := by
  simp [refuses,known,decoded,Except.toOption]

theorem step_valid {w after : World E D R} (valid : Valid config w) (shape : Shape w) (kept : givesUp config w event = false)
    (ran : AccountSystem.step config w event = some after) : Valid config after := by
  cases step_happened ran with
  | quiet quiet => exact quiet.valid valid
  | @token t response submission body token id sequence same answer callback skipped known decoded =>
      apply (Quiet.commit _ t _).valid
      have started := (Quiet.receive w event).trans (.answering _ submission)
      by_cases success : token.code = SYSTEM_CODE_SUCCESS
      · have present : .event (.rest (.response t id response)) ∈ (answering submission (receive event w)).log :=
          same ▸ List.mem_cons_of_mem _ List.mem_cons_self
        exact processed_valid t (started.valid valid) present known decoded success
      · have refused := (refuses_iff known decoded).mpr success
        have set : w.rest.hasDownloadedPrivateToken = true := by
          simpa [givesUp,answer,callback,skipped,refused] using kept
        exact (processed_quiet t (started.shape shape) set success).valid (started.valid valid)

-- A refused token is skipped, or processed as what it is.
omit [LimitRequest R] [LawfulDownload2 E] [LawfulDownload2 D] [LawfulLimitRequest R] in
theorem refused_ack {sequence : Nat} {w after : World E D R} (refused : refuses config response = true)
    (acked : TokenAck config t sequence response w after) :
    (skips sequence w = true ∧ after = w) ∨
      skips sequence w = false ∧ ∃ token, token.code ≠ SYSTEM_CODE_SUCCESS ∧ after = processed config t token w := by
  cases acked with
  | retried broken =>
      obtain ⟨body,known,decoded⟩ := (Option.any_eq_true _ _).mp refused
      obtain ⟨e,thrown⟩ := broken body known
      simp [thrown,Except.toOption] at decoded
  | skipped skipped => exact .inl ⟨skipped,rfl⟩
  | processed taken known decoded => exact .inr ⟨taken,_,(refuses_iff known decoded).mp refused,rfl⟩

omit [LawfulDownload2 E] [LawfulDownload2 D] [LawfulLimitRequest R] in
theorem answered_token {sequence : Nat} {w after : World E D R} (answer : responseOf w event = some (submission,response))
    (callback : submission.callback = .getPrivateTokenAck sequence) (ran : AccountSystem.step config w event = some after) :
    ∃ t acked, TokenAck config t sequence response (answering submission (receive event w)) acked ∧
      after = OrderEntryREST.commit t .privateToken acked := by
  obtain ⟨t,id,rfl,found⟩ := responseOf_iff.mp answer
  rw [step_response found] at ran
  simp only [invoke,callback] at ran
  obtain ⟨acked,handled,same⟩ := getPrivateTokenAck_cases ran
  exact ⟨t,acked,handled,same⟩

omit [LawfulDownload2 D] [LawfulLimitRequest R] in
theorem refused_retries {sequence : Nat} {w after : World E D R} (shape : Shape w) (kept : givesUp config w event = false)
    (answer : responseOf w event = some (submission,response)) (callback : submission.callback = .getPrivateTokenAck sequence)
    (refused : refuses config response = true) (busy : isDownloading w = true)
    (ran : AccountSystem.step config w event = some after) :
    Walker.state after.rest.download = State.privateToken ∧ after.rest.hasDownloadedPrivateToken = false := by
  have unset := shape.running busy
  have first := (isDownloading_iff w).mp busy
  have skipped : skips sequence w = true := by
    simpa [givesUp,answer,callback,unset,refused] using kept
  obtain ⟨t,acked,handled,rfl⟩ := answered_token answer callback ran
  rcases refused_ack refused handled with ⟨_,rfl⟩ | ⟨taken,_⟩
  · exact ⟨first,unset⟩
  · have same : skips sequence w = false := taken
    rw [skipped] at same
    cases same

omit [LawfulDownload2 D] [LawfulLimitRequest R] in
theorem givesUp_unsound {w after : World E D R} (shape : Shape w) (given : givesUp config w event = true)
    (ran : AccountSystem.step config w event = some after) : ¬ TokenKept config w event after := by
  intro kept
  obtain ⟨⟨submission,response⟩,answer,bad⟩ := (Option.any_eq_true _ _).mp given
  cases callback : submission.callback with
  | getPrivateTokenAck sequence =>
      simp only [callback,Bool.and_eq_true,Bool.not_eq_true'] at bad
      obtain ⟨⟨unset,taken⟩,refused⟩ := bad
      obtain ⟨t,acked,handled,rfl⟩ := answered_token answer callback ran
      have started := (Quiet.receive w event).trans (.answering _ submission)
      rcases refused_ack refused handled with ⟨skipped,_⟩ | ⟨_,token,other,rfl⟩
      · have same : skips sequence w = true := skipped
        rw [taken] at same
        cases same
      · obtain ⟨x,sent,marked⟩ := (kept.flag rfl).token
        have silent := processed_silent t other ((started.shape shape).unset unset) x sent
        rw [silent] at marked
        cases marked
  | _ => simp [callback] at bad

omit [Download2 D DropCopy.State] [LawfulDownload2 E] [LawfulDownload2 D] [LawfulLimitRequest R] in
theorem initial_shape : Shape (initial : World E D R) := by
  refine ⟨?_,fun _ => rfl,fun _ => rfl⟩
  intro _ x none
  cases none

theorem reached_shape {w : World E D R} (path : Run config allowed w) : Shape w :=
  path.invariant initial_shape fun _ _ _ shape _ ran => step_shape shape ran

theorem reached_valid {w : World E D R} (path : Run config (fun w event => givesUp config w event = false) w) :
    Valid config w := by
  induction path with
  | start =>
      constructor
      · intro set
        cases set
      · exact True.intro
  | step path kept ran ih => exact step_valid ih (reached_shape path) kept ran

-- The token is kept in exactly the runs that never process another code before
-- there has been one.
theorem token_is_kept (config : Config) (events : List Event) :
    EveryStep (AccountSystem.step config) (initial : World E D R) events (TokenKept config) ↔
      EveryStep (AccountSystem.step config) (initial : World E D R) events (fun w event _ => givesUp config w event = false) := by
  apply everyStep_exactly
  · intro w event after path ran given
    exact givesUp_unsound (reached_shape path) given ran
  · intro w event after path ran kept
    have shape := reached_shape path
    have ended := step_valid (reached_valid path) shape kept ran
    refine ⟨ended.flag,every_iff.mp ended.ready,?_⟩
    intro submission response sequence answer callback refused busy
    exact refused_retries shape kept answer callback refused busy ran

section closed
open Smallest

-- The first answer is lost and asked for again, the second one is a token; the
-- stream loses its connection and finds the token downloaded.
def reconnected : List Event :=
  [.rest (.connected t),answer 0 (failure 500),.rest (.disconnected t),.rest (.connected t),answer 1 (reply "ok"),
    .rest (.disconnected t),.rest (.connected t)]

theorem token_is_kept_reconnected :
    EveryStep (AccountSystem.step (setup true)) (initial : Small) reconnected (TokenKept (setup true)) :=
  (token_is_kept (setup true) reconnected).mpr
    (everyStep_never (givesUp (setup true)) (by decide +kernel))

theorem refused_token_is_given_up : ¬ ∀ events,
    EveryStep (AccountSystem.step (setup true)) (initial : Small) events (TokenKept (setup true)) := by
  intro all
  obtain ⟨w,after,executed,stepped,given⟩ := met_at_last (initial : Small) (AccountSystem.step (setup true))
    (givesUp (setup true)) [.rest (.connected t)] (answer 0 (reply "no")) (by decide +kernel)
  exact givesUp_unsound (reached_shape (execute_reached executed)) given stepped ((all _).last executed stepped)

end closed
end KucoinPro.TokenDownload

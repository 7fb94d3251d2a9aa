import StsDelegate.Http.Metrics
import StsDelegate.Http.Traces

/-!
# What the counters count

Each request counts along its own program: `TokenCounted` says what a token request has counted
wherever its program stands, and the other requests change no counter. From it, for every pool
of a run with any number of requests and scrapes in flight: the counters are what the accesses
so far have made of them (`counted_run`), as many tokens are counted as were answered
(`minted_eq_tokens`), each after its signature (`minted_le_signed`), and the refusals that are
counted are those that were answered or soon will be (`denied_bounds`).
-/

namespace StsDelegate

open Text Effectful Prog

/-! ### What has been counted -/

def isMinted (ev : Event counters) : Bool :=
  match ev.1 with
  | .addMinted => true
  | _ => false

def isDenied (ev : Event counters) : Bool :=
  match ev.1 with
  | .addDenied => true
  | _ => false

/-- The label that is counted, if it is one of a signature. -/
def signedLabel (ev : Event counters) : Option SigningLabel :=
  match ev.1 with
  | .addSigning label => some label
  | _ => none

/-- The error that is counted, if it is one. -/
def deniedError (ev : Event counters) : Option String :=
  match ev.1 with
  | .addDenial error => some error
  | _ => none

/-- The counters after these accesses. -/
def MetricsState.counted (t : List (Event counters)) : MetricsState where
  exchangesMinted := UInt64.ofNat (t.countP isMinted)
  exchangesDenied := UInt64.ofNat (t.countP isDenied)
  denials := .ofList (t.filterMap deniedError)
  signingAlgs := .ofList (t.filterMap signedLabel)

/-- One access more. -/
theorem access_counted (c : MetricsCall) (stores : Stores) (t : List (Event counters))
    (a : c.Answer) :
    ((MetricsState.counted t).access c stores).2 = .counted (t ++ [⟨c, a⟩]) := by
  cases c <;>
    simp [MetricsState.access, MetricsState.counted, isMinted, isDenied, deniedError, signedLabel,
      List.countP_append, List.filterMap_cons, Tally.ofList_concat]

variable [Crates] {state : HttpState} {moves : List (Move MeteredRequest Tick)} {w v : MeteredPool}

/-- The accesses to the counters in the log of a pool. -/
def MeteredPool.accesses (w : MeteredPool) : List (Event counters) := besides (w.log.map Prod.snd)

/-- In every pool of a run the counters are what the accesses so far have made of them. -/
theorem counted_run (hrun : MeteredPool.run state moves = some w) :
    w.state.2 = .counted w.accesses := by
  refine Pool.exec_invariant (C := fun _ _ => True)
    (P := fun w => w.state.2 = .counted (MeteredPool.accesses w)) (fun w m w' hw _ hm => ?_) rfl
    Pool.along_true hrun
  obtain ⟨q, rfl, rfl⟩ | ⟨i, input, q, c, k, rfl, -, rfl⟩ := Pool.move_cases hm
  · exact hw
  · cases c with
    | inl c =>
        simp only [MeteredPool.accesses, List.map_append, besides_append]
        exact hw.trans (congrArg _ (List.append_nil _).symm)
    | inr d =>
        simp only [MeteredPool.accesses, List.map_append, besides_append]
        show (w.state.2.access d w.state.1).2 = _
        rw [hw]
        exact access_counted d _ _ _

/-- The pool is one of a run, and goes on to the other one. -/
abbrev MeteredPool.Leads (state : HttpState) (w w' : MeteredPool) : Prop :=
  Pool.Leads (meteredMachine state) (meteredHandle state) w w'

theorem MeteredPool.Leads.run (h : v.Leads state w) (hrun : MeteredPool.run state moves = some v) :
    ∃ moves', MeteredPool.run state moves' = some w := by
  obtain ⟨more, hmore⟩ := h
  refine ⟨moves ++ more, ?_⟩
  rw [MeteredPool.run, Pool.exec_append, ← MeteredPool.run, hrun, Option.bind_some, hmore]

theorem MeteredPool.Leads.accesses_isPrefix (h : v.Leads state w) : v.accesses <+: w.accesses :=
  (h.log_isPrefix.map Prod.snd).filterMap _

theorem MeteredPool.Leads.countP_le {mark : Event counters → Bool} (h : v.Leads state w) :
    v.accesses.countP mark ≤ w.accesses.countP mark :=
  h.accesses_isPrefix.sublist.countP_le

omit [Crates] in
/-- What a request has counted is in the log. -/
theorem mem_accesses {i : Nat} {ev : Event counters} (h : ev ∈ besides (Pool.traceOf i w.log)) :
    ev ∈ w.accesses := by
  rw [mem_besides] at h
  rw [MeteredPool.accesses, mem_besides]
  exact List.mem_map.mpr ⟨_, Pool.mem_traceOf.mp h, rfl⟩

omit [Crates] in
theorem accesses_length_le (w : MeteredPool) : w.accesses.length ≤ w.log.length := by
  rw [MeteredPool.accesses, besides, ← List.length_map Prod.snd]
  exact List.length_filterMap_le _ _

/-! ### What a token request counts -/

/-- The program has ended. -/
def isOver (p : Metered MeteredReply) : Bool :=
  match p with
  | .call _ _ => false
  | _ => true

/-- What a token request has counted when its program stands here. -/
inductive TokenCounted : List (Event counters) → Metered MeteredReply → Prop
  | running {p : Metered MeteredReply} (h : isOver p = false) : TokenCounted [] p
  | signed {p : Metered MeteredReply} (label : SigningLabel) (h : isOver p = false) :
      TokenCounted [⟨.addSigning label, ()⟩] p
  | minted (headers : HeaderMap) (response : TokenResponse) :
      TokenCounted [⟨.addSigning (toLex (response.signingAlgSelected, response.pqcFallback)), ()⟩,
        ⟨.addMinted, ()⟩] (.done (.served (.token headers response)))
  | denying {p : Metered MeteredReply} (h : isOver p = false) : TokenCounted [⟨.addDenied, ()⟩] p
  | denied {err : HttpError} (h : err.error = none) : TokenCounted [⟨.addDenied, ()⟩] (.fail err)
  | denial {err : HttpError} {error : String} (h : err.error = some error) :
      TokenCounted [⟨.addDenied, ()⟩, ⟨.addDenial error, ()⟩] (.fail err)

omit [Crates] in
/-- A token that was answered has had its signature counted. -/
theorem signing_of_answered {accesses : List (Event counters)} {headers : HeaderMap}
    {response : TokenResponse}
    (h : TokenCounted accesses (.done (.served (.token headers response)))) :
    (⟨.addSigning (toLex (response.signingAlgSelected, response.pqcFallback)), ()⟩ : Event counters) ∈
      accesses := by
  cases h with
  | running hover => cases hover
  | signed label hover => cases hover
  | minted => exact List.mem_cons_self ..
  | denying hover => cases hover

omit [Crates] in
/-- A refusal that was answered has had its error counted. -/
theorem denial_of_refused {accesses : List (Event counters)} {err : HttpError} {error : String}
    (h : TokenCounted accesses (.fail err)) (herror : err.error = some error) :
    (⟨.addDenial error, ()⟩ : Event counters) ∈ accesses := by
  cases h with
  | running hover => cases hover
  | signed label hover => cases hover
  | denying hover => cases hover
  | denied hnone => rw [herror] at hnone; cases hnone
  | denial hsome =>
      rw [herror] at hsome
      cases hsome
      exact List.mem_cons_of_mem _ (List.mem_cons_self ..)

variable {headers : HeaderMap} {body : Bytes} {t : List (Event (sts.sum counters))}

/-- The signature is counted when the exchange has succeeded, and nothing else. -/
theorem steps_meteredTokenInner {q : Metered (HeaderMap × TokenResponse)}
    (h : Steps (meteredTokenInner headers state body) t q) :
    (besides t = [] ∧ ∀ out, q ≠ .done out) ∨
    ∃ out, besides t = [⟨.addSigning (toLex (out.2.signingAlgSelected, out.2.pqcFallback)), ()⟩] ∧
      q = .done out := by
  rcases steps_bind.mp h with ⟨p', hp', rfl⟩ | ⟨out, t₁, t₂, rfl, hp, hrest⟩
  · obtain ⟨hnone, p₀, rfl, -⟩ := steps_left hp'
    refine Or.inl ⟨hnone, fun out heq => ?_⟩
    cases p₀ <;> cases heq
  · obtain ⟨hnone, -⟩ := steps_left hp
    rw [besides_append, hnone, List.nil_append]
    cases hrest with
    | refl => exact Or.inl ⟨rfl, fun out' heq => by cases heq⟩
    | call hdone =>
        obtain ⟨rfl, rfl⟩ := steps_done.mp hdone
        exact Or.inr ⟨out, rfl, rfl⟩

/-- What a token request counts. -/
theorem tokenCounted_steps {p : Metered MeteredReply}
    (h : Steps (meteredHandle state (.serve ⟨.token, headers, body⟩)) t p) :
    TokenCounted (besides t) p := by
  have hhandle : meteredHandle state (.serve ⟨.token, headers, body⟩) =
      ((meteredTokenInner headers state body).attempt >>= fun result =>
        (recordExchange result >>= fun _ => Prog.ofExcept result) >>= fun out =>
          pure (.served (.token out.1 out.2)) : Metered MeteredReply) := bind_bind _ _ _
  rw [hhandle] at h
  rcases steps_bind.mp h with ⟨p', hp', rfl⟩ | ⟨result, t₁, t₂, rfl, hp, hrest⟩
  -- the exchange has not ended, or nothing has been counted since it has
  · obtain ⟨q, hq, rfl⟩ := steps_attempt hp'
    rcases steps_meteredTokenInner hq with ⟨hnone, hrunning⟩ | ⟨out, hsigned, rfl⟩
    · rw [hnone]
      refine .running ?_
      cases q with
      | done out => exact absurd rfl (hrunning out)
      | fail err => rfl
      | call c k => rfl
    · rw [hsigned]
      exact .signed _ rfl
  · obtain ⟨q, hq, hresult⟩ := steps_attempt hp
    rw [besides_append]
    rcases steps_meteredTokenInner hq with ⟨hnone, hrunning⟩ | ⟨out, hsigned, rfl⟩
    · rw [hnone, List.nil_append]
      cases q with
      | done out => exact absurd rfl (hrunning out)
      | call c k => cases hresult
      | fail err =>
          -- the exchange has failed: the refusal is counted, then its error
          cases hresult
          obtain ⟨status, error, description, retryAfter, challenge⟩ := err
          cases hrest with
          | refl => exact .running rfl
          | call hrest =>
              cases error with
              | none =>
                  obtain ⟨rfl, rfl⟩ := steps_fail.mp hrest
                  exact .denied rfl
              | some error =>
                  cases hrest with
                  | refl => exact .denying rfl
                  | call hrest =>
                      obtain ⟨rfl, rfl⟩ := steps_fail.mp hrest
                      exact .denial rfl
    · -- it has succeeded, and the token is the last that is counted
      rw [hsigned]
      cases hresult
      cases hrest with
      | refl => exact .signed _ rfl
      | call hrest =>
          obtain ⟨rfl, rfl⟩ := steps_done.mp hrest
          exact .minted _ _

/-- Is it a token request? -/
def isTokenRequest : MeteredRequest → Bool
  | .serve request => request.endpoint = .token
  | .scrape => false

/-- The program has answered with a token. -/
def answeredToken (thread : MeteredRequest × Metered MeteredReply) : Bool :=
  match thread.2 with
  | .done (.served (.token _ _)) => true
  | _ => false

/-- The program has refused a token request. -/
def refusedToken (thread : MeteredRequest × Metered MeteredReply) : Bool :=
  match thread.2 with
  | .fail _ => isTokenRequest thread.1
  | _ => false

/-- The programs that serve no token request. -/
theorem meteredHandle_other {request : Request} (h : isTokenRequest (.serve request) = false) :
    meteredHandle state (.serve request) =
      (handle state request).left >>= fun reply => pure (.served reply) := by
  obtain ⟨endpoint, headers, body⟩ := request
  cases endpoint with
  | token => cases h
  | introspect => rfl
  | revoke => rfl

/-- Tokens are the answers to token requests. -/
theorem isTokenRequest_of_returns {q : MeteredRequest} {headers' : HeaderMap}
    {response : TokenResponse}
    (h : Returns (meteredHandle state q) t (.served (.token headers' response))) :
    isTokenRequest q = true := by
  cases q with
  | scrape =>
      obtain ⟨out, t₁, t₂, -, -, hout⟩ := returns_bind.mp h
      cases (returns_done.mp hout).2
  | serve request =>
      by_contra hother
      rw [Bool.not_eq_true] at hother
      rw [meteredHandle_other hother] at h
      obtain ⟨reply, t₁, t₂, -, hreply, hout⟩ := returns_bind.mp h
      obtain ⟨-, heq⟩ := returns_done.mp hout
      obtain rfl : reply = .token headers' response := by injection heq
      obtain ⟨-, q₀, hq₀, u, hu⟩ := steps_left hreply
      cases q₀ <;> cases hq₀
      rw [isTokenRequest, (returns_handle_token hu).1] at hother
      cases hother

/-- Other requests change no counter. -/
theorem accesses_other {q : MeteredRequest} {p : Metered MeteredReply}
    (hq : isTokenRequest q = false) (h : Steps (meteredHandle state q) t p) :
    ∀ ev ∈ besides t, isRead ev.1 = true := by
  cases q with
  | scrape =>
      intro ev hev
      obtain ⟨⟨c, a⟩, hmem, hbeside⟩ := List.mem_filterMap.mp hev
      have honly := (only_bind only_metrics fun _ => only_done).of_mem h _ hmem
      obtain ⟨d, rfl, hd⟩ := honly
      cases hbeside
      exact hd
  | serve request =>
      rw [meteredHandle_other hq] at h
      rcases steps_bind.mp h with ⟨p', hp', rfl⟩ | ⟨reply, t₁, t₂, rfl, hp, hrest⟩
      · obtain ⟨hnone, -⟩ := steps_left hp'
        simp [hnone]
      · obtain ⟨hnone, -⟩ := steps_left hp
        obtain ⟨rfl, -⟩ := steps_done.mp hrest
        simp [hnone]

/-! ### What the counters of a pool say -/

/-- A label of a signature is counted. -/
def isSigned (ev : Event counters) : Bool := (signedLabel ev).isSome

/-- The program serves a token request and has not answered it with a token. -/
def unansweredToken (thread : MeteredRequest × Metered MeteredReply) : Bool :=
  isTokenRequest thread.1 && !answeredToken thread

/-- Either a token request stands where its accesses say, or the accesses only read. -/
theorem accesses_cases {q : MeteredRequest} {p : Metered MeteredReply}
    (h : Steps (meteredHandle state q) t p) :
    (isTokenRequest q = true ∧ TokenCounted (besides t) p) ∨
    (isTokenRequest q = false ∧ answeredToken (q, p) = false ∧
      ∀ ev ∈ besides t, isRead ev.1 = true) := by
  cases hq : isTokenRequest q with
  | true =>
      obtain ⟨endpoint, headers, body⟩ | _ := q
      · cases endpoint with
        | token => exact Or.inl ⟨rfl, tokenCounted_steps h⟩
        | introspect => cases hq
        | revoke => cases hq
      · cases hq
  | false =>
      refine Or.inr ⟨rfl, ?_, accesses_other hq h⟩
      rw [← Bool.not_eq_true, answeredToken]
      intro hanswered
      split at hanswered
      · next headers' response heq =>
          have hp : p = .done (.served (.token headers' response)) := heq
          rw [isTokenRequest_of_returns (hp ▸ h)] at hq
          cases hq
      · cases hanswered

omit [Crates] in
theorem countP_eq_zero_of_reads {accesses : List (Event counters)} {mark : Event counters → Bool}
    (h : ∀ ev ∈ accesses, isRead ev.1 = true)
    (hmark : ∀ ev : Event counters, isRead ev.1 = true → mark ev = false) :
    accesses.countP mark = 0 := by
  rw [List.countP_eq_zero]
  intro ev hev
  rw [hmark ev (h ev hev)]
  exact Bool.false_ne_true

omit [Crates] in
theorem isMinted_of_isRead (ev : Event counters) (h : isRead ev.1 = true) : isMinted ev = false := by
  obtain ⟨c, a⟩ := ev
  cases c <;> first | rfl | cases h

omit [Crates] in
theorem isDenied_of_isRead (ev : Event counters) (h : isRead ev.1 = true) : isDenied ev = false := by
  obtain ⟨c, a⟩ := ev
  cases c <;> first | rfl | cases h

omit [Crates] in
theorem answeredToken_of_isOver {q : MeteredRequest} {p : Metered MeteredReply}
    (h : isOver p = false) : answeredToken (q, p) = false := by
  cases p with
  | done reply => cases h
  | fail err => rfl
  | call c k => rfl

omit [Crates] in
theorem refusedToken_of_isOver {q : MeteredRequest} {p : Metered MeteredReply}
    (h : isOver p = false) : refusedToken (q, p) = false := by
  cases p with
  | done reply => cases h
  | fail err => cases h
  | call c k => rfl

/-- A request counts a minted token exactly when it answers with one. -/
theorem countP_isMinted {q : MeteredRequest} {p : Metered MeteredReply}
    (h : Steps (meteredHandle state q) t p) :
    (besides t).countP isMinted = if answeredToken (q, p) = true then 1 else 0 := by
  rcases accesses_cases h with ⟨-, hcounted⟩ | ⟨-, hanswered, hreads⟩
  · generalize besides t = accesses at hcounted
    cases hcounted with
    | running hover => simp [answeredToken_of_isOver hover]
    | signed label hover => simp [answeredToken_of_isOver hover, isMinted]
    | minted headers response => rfl
    | denying hover => simp [answeredToken_of_isOver hover, isMinted]
    | denied herror => rfl
    | denial herror => rfl
  · rw [countP_eq_zero_of_reads hreads isMinted_of_isRead, hanswered]
    rfl

/-- A request that counts a minted token has counted its signature. -/
theorem countP_isMinted_le {q : MeteredRequest} {p : Metered MeteredReply}
    (h : Steps (meteredHandle state q) t p) :
    (besides t).countP isMinted ≤ (besides t).countP isSigned := by
  rcases accesses_cases h with ⟨-, hcounted⟩ | ⟨-, -, hreads⟩
  · generalize besides t = accesses at hcounted
    cases hcounted with
    | running hover => exact Nat.le_refl _
    | signed label hover => exact Nat.zero_le _
    | minted headers response => exact Nat.le_refl _
    | denying hover => exact Nat.zero_le _
    | denied herror => exact Nat.zero_le _
    | denial herror => exact Nat.zero_le _
  · rw [countP_eq_zero_of_reads hreads isMinted_of_isRead]
    exact Nat.zero_le _

/-- A token request that has been refused has been counted as denied. -/
theorem countP_isDenied_pos {q : MeteredRequest} {p : Metered MeteredReply}
    (h : Steps (meteredHandle state q) t p) (hrefused : refusedToken (q, p) = true) :
    0 < (besides t).countP isDenied := by
  rcases accesses_cases h with ⟨-, hcounted⟩ | ⟨hother, -, -⟩
  · generalize besides t = accesses at hcounted
    cases hcounted with
    | running hover => rw [refusedToken_of_isOver hover] at hrefused; cases hrefused
    | signed label hover => rw [refusedToken_of_isOver hover] at hrefused; cases hrefused
    | minted headers response => cases hrefused
    | denying hover => exact Nat.one_pos
    | denied herror => exact Nat.one_pos
    | denial herror => exact Nat.one_pos
  · unfold refusedToken at hrefused
    split at hrefused
    · rw [hother] at hrefused
      cases hrefused
    · cases hrefused

/-- A request is counted as denied at most once, and then it is not answered with a token. -/
theorem countP_isDenied_le {q : MeteredRequest} {p : Metered MeteredReply}
    (h : Steps (meteredHandle state q) t p) :
    (besides t).countP isDenied ≤ if unansweredToken (q, p) = true then 1 else 0 := by
  rcases accesses_cases h with ⟨htoken, hcounted⟩ | ⟨-, -, hreads⟩
  · rw [unansweredToken, htoken, Bool.true_and]
    generalize besides t = accesses at hcounted
    cases hcounted with
    | running hover => exact Nat.zero_le _
    | signed label hover => exact Nat.zero_le _
    | minted headers response => exact Nat.zero_le _
    | denying hover => simp [answeredToken_of_isOver hover, isDenied]
    | denied herror => exact Nat.le_refl _
    | denial herror => exact Nat.le_refl _
  · rw [countP_eq_zero_of_reads hreads isDenied_of_isRead]
    exact Nat.zero_le _

omit [Crates] in
theorem countP_accesses (mark : Event counters → Bool) (w : MeteredPool) :
    w.accesses.countP mark = w.log.countP fun entry => onBeside mark entry.2 := by
  rw [MeteredPool.accesses, countP_besides, List.countP_map]
  rfl

/-- As many tokens are counted as were answered. -/
theorem minted_eq_tokens (hrun : MeteredPool.run state moves = some w) :
    w.accesses.countP isMinted = w.threads.countP answeredToken := by
  have hthreaded := Pool.threaded_exec hrun
  have heach : ∀ (i : Nat) thread, w.threads[i]? = some thread →
      (Pool.traceOf i w.log).countP (onBeside isMinted) =
        if answeredToken thread = true then 1 else 0 := by
    rintro i ⟨q, p⟩ hi
    rw [← countP_besides]
    exact countP_isMinted (hthreaded.steps i q p hi)
  rw [countP_accesses]
  refine Nat.le_antisymm ?_ ?_
  · exact Pool.countP_log_le_threads hthreaded fun i thread hi => Nat.le_of_eq (heach i thread hi)
  · refine Pool.countP_threads_le_log hthreaded fun i thread hi hanswered => ?_
    rw [heach i thread hi, if_pos hanswered]
    exact Nat.one_pos

/-- Every token that is counted has had its signature counted before. -/
theorem minted_le_signed (hrun : MeteredPool.run state moves = some w) :
    w.accesses.countP isMinted ≤ w.accesses.countP isSigned := by
  have hthreaded := Pool.threaded_exec hrun
  rw [countP_accesses, countP_accesses]
  refine Pool.countP_log_le_log hthreaded fun i thread hi => ?_
  rw [← countP_besides, ← countP_besides]
  exact countP_isMinted_le (hthreaded.steps i thread.1 thread.2 hi)

/-- The refusals that are counted are those that were answered, and perhaps some whose answer is
still to come. -/
theorem denied_bounds (hrun : MeteredPool.run state moves = some w) :
    w.threads.countP refusedToken ≤ w.accesses.countP isDenied ∧
      w.accesses.countP isDenied ≤ w.threads.countP unansweredToken := by
  have hthreaded := Pool.threaded_exec hrun
  rw [countP_accesses]
  refine ⟨Pool.countP_threads_le_log hthreaded fun i thread hi hrefused => ?_,
    Pool.countP_log_le_threads hthreaded fun i thread hi => ?_⟩
  · rw [← countP_besides]
    exact countP_isDenied_pos (hthreaded.steps i thread.1 thread.2 hi) hrefused
  · rw [← countP_besides]
    exact countP_isDenied_le (hthreaded.steps i thread.1 thread.2 hi)

end StsDelegate

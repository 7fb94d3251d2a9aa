import StsDelegate.Http.Run
import StsDelegate.Sample.Runs

/-!
# What a rejected request leaves behind

A token request can fail at a gate, at one of its recordings, or when its token is
signed. A failed gate leaves both stores exactly as they were
(`failed_gate_burns_nothing`), because all gates come before the first recording.
The recordings themselves are not undone: `replay_failure_atomic_iff` says that a
request which gets past its gates has burned nothing exactly when its first recording
already failed.
-/

namespace StsDelegate

open Text Fallible Effectful Prog

section Gates

variable [Crates] {state : HttpState} {headers : HeaderMap} {body : Bytes} {ticks : Nat → Tick}
  {stores : Stores}

/-- A recording that was refused, or a signature that failed. -/
def FailedCall : Ev → Prop
  | ⟨.checkAndRecord _ _ _, .error _⟩ => True
  | ⟨.signClaims _, .error _⟩ => True
  | _ => False

/-- A commitment fails only by a failed call. -/
theorem failedCall_of_fails_commit {plan : Plan} {t : List Ev} {err : HttpError}
    (h : Fails (commit state plan) t err) : ∃ ev ∈ t, FailedCall ev := by
  rw [commit, fails_bind] at h
  rcases h with h | ⟨_, t₁, t₂, rfl, -, h⟩
  · obtain ⟨before, credential, after, refusal, -, rfl, -⟩ := fails_recordAll h
    exact ⟨_, List.mem_append_right _ (List.mem_singleton.mpr rfl), trivial⟩
  · obtain ⟨jti, refusal, rfl⟩ := fails_issueToken h
    exact ⟨_, List.mem_append_right _ (List.mem_cons_of_mem _ (List.mem_singleton.mpr rfl)),
      trivial⟩

/-- **A failed gate burns nothing.** A token request that is rejected without a
refused recording and without a failed signature leaves the stores as they were,
so whatever is served afterwards is served as if it had never been sent. -/
theorem failed_gate_burns_nothing {err : HttpError}
    (h : (serve state ⟨.token, headers, body⟩ ticks stores).outcome = .error err)
    (hgate : ∀ ev ∈ (serve state ⟨.token, headers, body⟩ ticks stores).trace, ¬ FailedCall ev) :
    (serve state ⟨.token, headers, body⟩ ticks stores).state = stores ∧
    ∀ later, serveAll state ((⟨.token, headers, body⟩, ticks) :: later) stores =
      serve state ⟨.token, headers, body⟩ ticks stores :: serveAll state later stores := by
  have hstate : (serve state ⟨.token, headers, body⟩ ticks stores).state = stores := by
    rw [serve_token] at h hgate ⊢
    cases hplan : ((planExchange headers state body).run (machine state) ticks stores).outcome with
    | error gateErr => rw [run_tokenInner_of_error hplan]
    | ok plan =>
        -- then the commitment failed, and a failed call is on the trace
        rw [run_tokenInner_of_plan hplan] at h hgate
        simp only at h hgate
        cases hcommit : ((commit state plan).run (machine state) _ stores).outcome with
        | ok out =>
            rw [hcommit] at h
            cases h
        | error commitErr =>
            obtain ⟨ev, hev, hfailed⟩ := failedCall_of_fails_commit (run_fails hcommit)
            exact absurd hfailed (hgate ev (List.mem_append_right _ hev))
  refine ⟨hstate, fun later => ?_⟩
  rw [serveAll]
  simp only [hstate]

end Gates

section

open Sample

/-- The sample delegation at 140: the subject token has run out, leeway included. -/
theorem serve_expired (stores : Stores) :
    serve (state .both 1 (by decide)) (delegationRequest formHeaders actor1)
        (clock 140 (by decide)) stores =
      ⟨.error (mapSubjectVerifyError ⟨.invalidLifetime, "token has expired"⟩), stores,
        [nowIs 140, nowIs 140]⟩ := by
  have hplan : (planExchange formHeaders (state .both 1 (by decide))
      (form (exchangePairs ++ actorPairs actor1))).run (machine (state .both 1 (by decide)))
        (clock 140 (by decide)) stores =
      ⟨.error (mapSubjectVerifyError ⟨.invalidLifetime, "token has expired"⟩), stores,
        [nowIs 140, nowIs 140]⟩ := by
    have hheader : Crates.headerFromSlice actor1.header =
        .ok ⟨"RS256", some "agent-1", some "JWT"⟩ := issued_actor1.header
    have hclosed : (105 : Int64) + 30 < (clock 140 (by decide) 1).now := by decide
    rw [planExchange_actor (List.mem_cons_self ..) (Or.inl rfl) issued_actor1.mem hheader (by decide), run_unixNow_bind,
      validateDpopHeader_formHeaders, liftM_eq, ofExcept_ok, done_bind,
      run_validateTimeWindow_closed (fun n => clock 140 (by decide) (n + 1)) hclosed]
    rfl
  rw [delegationRequest, serve_token, run_tokenInner_of_error (congrArg Result.outcome hplan),
    hplan]
  rfl

/-- The actor assertion of the sample is not burned by it. -/
theorem sample_failed_gate :
    (serve (state .both 1 (by decide)) (delegationRequest formHeaders actor1)
      (clock 140 (by decide)) (.initial (config .both 1 (by decide)))).state =
        .initial (config .both 1 (by decide)) := by
  have hserve := serve_expired (.initial (config .both 1 (by decide)))
  rw [delegationRequest] at hserve
  refine (failed_gate_burns_nothing (congrArg Result.outcome hserve) ?_).1
  rw [hserve]
  simp [FailedCall]

end

/-! ### Recordings -/

section Recordings

variable [Crates] {state : HttpState} {headers : HeaderMap} {body : Bytes} {ticks : Nat → Tick}
  {stores : Stores}

/-- None of the planned credentials was recorded, and each that was not in the
store before is accepted as soon as there is room. -/
def NothingBurned (plan : Plan) (before : Stores) (r : Result sts HttpError Reply Stores) : Prop :=
  (∀ key exp now, recordIs key exp now (.ok ()) ∉ r.trace) ∧
  ∀ credential ∈ plan.credentials, credential.key ∉ before.replay.seen →
    ∀ now, ExpiryMap.live now r.state.replay.seen < r.state.replay.maxSeen →
      (r.state.replay.checkAndRecord credential.key credential.exp now).1 = .ok ()

omit [Crates] in
theorem not_isBlank_append {c : Char} {s t : String} (hc : c ∈ s.toList)
    (hword : isWhitespace c = false) : isBlank (s ++ t) = false := by
  rw [Bool.eq_false_iff, Ne, isBlank_iff]
  intro hall
  have hmem : c ∈ (s ++ t).toList := by
    rw [String.toList_append]
    exact List.mem_append_left _ hc
  rw [hall c hmem] at hword
  cases hword

/-- Replay keys are not blank. -/
theorem Planned.key_nonblank {t : List Ev} {mode : EffectiveExchangeMode}
    {request : ExchangeRequest} {plan : Plan}
    (h : Planned headers state body t mode request plan) {credential : Credential}
    (hmem : credential ∈ plan.credentials) : isBlank credential.key = false := by
  have hactor : ∀ claims, isBlank (actorCredential claims).key = false := by
    intro claims
    rw [actorCredential, actorReplayKey, String.append_assoc, String.append_assoc]
    exact not_isBlank_append (c := 'a') (by decide) (by decide)
  have hclient : ∀ claims, isBlank (clientCredential claims).key = false := by
    intro claims
    rw [clientCredential, clientReplayKey, String.append_assoc, String.append_assoc]
    exact not_isBlank_append (c := 'c') (by decide) (by decide)
  have hdpop : ∀ binding, isBlank (dpopCredential binding).key = false := by
    intro binding
    rw [dpopCredential, dpopReplayKey]
    exact not_isBlank_append (c := 'd') (by decide) (by decide)
  rcases h.granted with ⟨-, grant, -, hplan⟩ | ⟨-, grant, -, hplan⟩
  · rw [hplan] at hmem
    simp only [delegationPlan, List.mem_cons, List.mem_append, List.mem_map] at hmem
    rcases hmem with rfl | ⟨claims, -, rfl⟩ | ⟨binding, -, rfl⟩
    · exact hactor _
    · exact hclient _
    · exact hdpop _
  · rw [hplan] at hmem
    simp only [impersonationPlan, List.mem_cons, List.mem_map] at hmem
    rcases hmem with rfl | ⟨binding, -, rfl⟩
    · exact hclient _
    · exact hdpop _

/-- Every plan has a credential to begin with. -/
theorem Planned.credentials_eq_cons {t : List Ev} {mode : EffectiveExchangeMode}
    {request : ExchangeRequest} {plan : Plan}
    (h : Planned headers state body t mode request plan) :
    ∃ first rest, plan.credentials = first :: rest := by
  rcases h.granted with ⟨-, grant, -, hplan⟩ | ⟨-, grant, -, hplan⟩
  · rw [hplan]
    exact ⟨_, _, rfl⟩
  · rw [hplan]
    exact ⟨_, _, rfl⟩

omit [Crates] in
/-- A refused recording adds no key to the store. -/
theorem notMem_of_refused {store : InMemoryReplayStore} {jti key : String} {exp now : Int64}
    {err : ReplayError} (hrefused : (store.checkAndRecord jti exp now).1 = .error err)
    (h : key ∉ store.seen) : key ∉ (store.checkAndRecord jti exp now).2.seen := by
  intro hmem
  rw [← AList.lookup_isSome, Option.isSome_iff_exists] at hmem
  obtain ⟨e, he⟩ := hmem
  rcases InMemoryReplayStore.lookup_of_lookup_checkAndRecord he with hbefore | ⟨hok, -⟩
  · rw [← AList.lookup_eq_none, hbefore] at h
    cases h
  · rw [hrefused] at hok
    cases hok

/-- **A request burns nothing exactly when its first recording is refused.** For a token
request whose gates all pass, whether it fails later or not: its credentials are all
unrecorded if and only if the first of them was in the store already, or unexpired entries
filled the store. -/
theorem replay_failure_atomic_iff {plan : Plan}
    (hplan : ((planExchange headers state body).run (machine state) ticks stores).outcome =
      .ok plan) :
    ∃ first, plan.credentials.head? = some first ∧
      (NothingBurned plan stores (serve state ⟨.token, headers, body⟩ ticks stores) ↔
        first.key ∈ stores.replay.seen ∨
          stores.replay.maxSeen ≤ ExpiryMap.live plan.now stores.replay.seen) := by
  have hreturns := run_returns hplan
  obtain ⟨mode, request, hplanned⟩ := returns_planExchange hreturns
  obtain ⟨⟨key, exp, refusal⟩, rest, hcredentials⟩ := hplanned.credentials_eq_cons
  refine ⟨⟨key, exp, refusal⟩, by rw [hcredentials]; rfl, ?_⟩
  have hmem : (⟨key, exp, refusal⟩ : Credential) ∈ plan.credentials := by
    rw [hcredentials]
    exact List.mem_cons_self ..
  have hnonblank := hplanned.key_nonblank hmem
  rw [serve_token, run_tokenInner_of_plan hplan, commit, hcredentials]
  dsimp only
  cases hfirst : (stores.replay.checkAndRecord key exp plan.now).1 with
  | ok _ =>
      -- the first credential is recorded: both sides are false
      obtain ⟨-, hnotMem, hroom⟩ := InMemoryReplayStore.checkAndRecord_ok_iff.mp hfirst
      rw [run_recordAll_ok _ hfirst]
      refine iff_of_false (fun hburned => ?_) (fun hcond => ?_)
      · refine hburned.1 key exp plan.now ?_
        exact List.mem_append_right _ (List.mem_cons_self ..)
      · rcases hcond with hin | hfull
        · exact hnotMem hin
        · exact absurd hroom (Nat.not_lt.mpr hfull)
  | error e =>
      -- the first credential is refused: the run ends there, and both sides are true
      rw [run_recordAll_error _ hfirst]
      refine iff_of_true ⟨?_, ?_⟩ ?_
      · intro key' exp' now' hok
        rcases List.mem_append.mp hok with hread | hrecord
        · cases only_planExchange.of_mem hreturns _ hread
        · cases List.mem_singleton.mp hrecord
      · intro credential hcredential hnotMem now hroom
        have hafter := notMem_of_refused hfirst hnotMem
        exact InMemoryReplayStore.checkAndRecord_ok_iff.mpr
          ⟨hplanned.key_nonblank hcredential, hafter, hroom⟩
      · by_contra hcond
        rw [not_or, Nat.not_le] at hcond
        have hok : (stores.replay.checkAndRecord key exp plan.now).1 = .ok () :=
          InMemoryReplayStore.checkAndRecord_ok_iff.mpr ⟨hnonblank, hcond.1, hcond.2⟩
        rw [hfirst] at hok
        cases hok

end Recordings

section

open Sample

/-- A server that remembers two credentials. -/
abbrev twoServer : HttpState := state .both 2 Nat.two_pos

/-- The stores: at the start, with a client assertion in them, and after a
delegation whose proof found no room. -/
def burnStores₀ : Stores := .initial twoServer.config

def burnStores₁ : Stores := recorded burnStores₀ (clientReplayKey "app" "c1") 100 90

def burnStores₂ : Stores :=
  recorded (recorded burnStores₁ (actorReplayKey "agent" "a1") 200 90) proofReplayKey 100 90

theorem burn_recorded :
    (burnStores₀.replay.checkAndRecord (clientReplayKey "app" "c1") 100 90).1 = .ok () ∧
    (burnStores₁.replay.checkAndRecord (actorReplayKey "agent" "a1") 200 90).1 = .ok () ∧
    ((recorded burnStores₁ (actorReplayKey "agent" "a1") 200 90).replay.checkAndRecord
      proofReplayKey 100 90).1 = .error ⟨.storeFull, "replay store full, retry shortly"⟩ ∧
    (burnStores₂.replay.checkAndRecord (actorReplayKey "agent" "a1") 200 101).1 =
      .error ⟨.replayDetected, "actor_token replay detected"⟩ ∧
    ExpiryMap.live 101 burnStores₂.replay.seen < burnStores₂.replay.maxSeen :=
  ⟨toOption_eq_some.mp (by decide), toOption_eq_some.mp (by decide), by decide, by decide,
    by decide⟩

/-- The client assertion comes first. -/
theorem serve_burn₀ :
    serve twoServer (introspectRequest "x" client1) (clock 90 (by decide)) burnStores₀ =
      ⟨.ok (.introspection tokenHeaders inactiveResponse), burnStores₁,
        [nowIs 90, nowIs 90, recordIs (clientReplayKey "app" "c1") 100 90 (.ok ()),
          nowIs 90]⟩ :=
  serve_introspect _ issued_client1 (toOption_eq_some.mp (by decide)) (by decide) (by decide)
    burn_recorded.1

/-- The delegation that has no room for its proof. -/
theorem serve_burn₁ :
    serve twoServer (delegationRequest proofHeaders actor1) (clock 90 (by decide)) burnStores₁ =
      ⟨.error (mapDpopReplayError ⟨.storeFull, "replay store full, retry shortly"⟩), burnStores₂,
        [nowIs 90, nowIs 90, nowIs 90, nowIs 90,
          recordIs (actorReplayKey "agent" "a1") 200 90 (.ok ()),
          recordIs proofReplayKey 100 90
            (.error ⟨.storeFull, "replay store full, retry shortly"⟩)]⟩ := by
  obtain ⟨-, hactor, hproof, -⟩ := burn_recorded
  have hcommit : (commit twoServer (actorPlan "a1" (some binding)
      (clock 90 (by decide) 3).now)).run (machine twoServer)
        (fun n => clock 90 (by decide) (n + 4)) burnStores₁ = _ :=
    run_commit_proof_error _ hactor hproof
  exact serve_delegation (clock 90 (by decide)) (Or.inr rfl) issued_actor1 (by decide)
    (validateDpopHeader_proof (by decide)) (by decide) (by decide) hcommit

/-- The gates of the delegation, without the proof, at 101. -/
theorem run_plan_burn₂ :
    (planExchange formHeaders twoServer (form (exchangePairs ++ actorPairs actor1))).run
      (machine twoServer) (clock 101 (by decide)) burnStores₂ =
      ⟨.ok (actorPlan "a1" none 101), burnStores₂, [nowIs 101, nowIs 101, nowIs 101, nowIs 101]⟩ :=
  run_planExchange_actor _ (List.mem_cons_self ..) (Or.inl rfl) issued_actor1 (by decide)
    (validateDpopHeader_formHeaders _) (by decide) (by decide)

/-- The same delegation without the proof, when there is room again. -/
theorem serve_burn₂ :
    serve twoServer (delegationRequest formHeaders actor1) (clock 101 (by decide)) burnStores₂ =
      ⟨.error (mapReplayError ⟨.replayDetected, "actor_token replay detected"⟩),
        recorded burnStores₂ (actorReplayKey "agent" "a1") 200 101,
        [nowIs 101, nowIs 101, nowIs 101, nowIs 101,
          recordIs (actorReplayKey "agent" "a1") 200 101
            (.error ⟨.replayDetected, "actor_token replay detected"⟩)]⟩ := by
  obtain ⟨-, -, -, hactor, -⟩ := burn_recorded
  have hcommit : (commit twoServer (actorPlan "a1" none
      (clock 101 (by decide) 3).now)).run (machine twoServer)
        (fun n => clock 101 (by decide) (n + 4)) burnStores₂ = _ :=
    run_commit_actor_error _ hactor
  exact serve_delegation (clock 101 (by decide)) (Or.inl rfl) issued_actor1 (by decide)
    (validateDpopHeader_formHeaders _) (by decide) (by decide) hcommit

/-- The delegation that is refused at its first recording burns nothing. -/
theorem sample_replay_failure :
    (serve twoServer (delegationRequest formHeaders actor1) (clock 101 (by decide))
        burnStores₂).outcome =
      .error (mapReplayError ⟨.replayDetected, "actor_token replay detected"⟩) ∧
    NothingBurned (actorPlan "a1" none 101) burnStores₂
      (serve twoServer (delegationRequest formHeaders actor1) (clock 101 (by decide))
        burnStores₂) := by
  refine ⟨congrArg Result.outcome serve_burn₂, ?_⟩
  have hplan := congrArg Result.outcome run_plan_burn₂
  rw [delegationRequest]
  obtain ⟨first, hfirst, hatomic⟩ := replay_failure_atomic_iff hplan
  cases hfirst
  have hkept : actorReplayKey "agent" "a1" ∈ burnStores₂.replay.seen := by decide
  exact hatomic.mpr (Or.inl hkept)

/-- **A failing request burns its actor assertion.** With room for two credentials
and a client assertion in the store, a delegation at 90 records its actor
assertion, finds no room for its proof, and is told to retry shortly. At 101 there
is room, but the actor assertion, valid until 200, is a replay. -/
theorem actor_assertion_burned :
    (serveAll twoServer
      [(introspectRequest "x" client1, clock 90 (by decide)),
        (delegationRequest proofHeaders actor1, clock 90 (by decide)),
        (delegationRequest formHeaders actor1, clock 101 (by decide))] burnStores₀).map
          Result.outcome =
      [.ok (.introspection tokenHeaders inactiveResponse),
        .error (mapDpopReplayError ⟨.storeFull, "replay store full, retry shortly"⟩),
        .error (mapReplayError ⟨.replayDetected, "actor_token replay detected"⟩)] ∧
    ExpiryMap.live 101 burnStores₂.replay.seen < burnStores₂.replay.maxSeen ∧
    ¬ NothingBurned (actorPlan "a1" (some binding) 90) burnStores₁
      (serve twoServer (delegationRequest proofHeaders actor1) (clock 90 (by decide))
        burnStores₁) := by
  refine ⟨?_, burn_recorded.2.2.2.2, ?_⟩
  · rw [serveAll, serve_burn₀]
    dsimp only
    rw [serveAll, serve_burn₁]
    dsimp only
    rw [serveAll, serve_burn₂, serveAll]
    rfl
  · intro hburned
    rw [serve_burn₁] at hburned
    refine hburned.1 (actorReplayKey "agent" "a1") 200 90 ?_
    simp

end

end StsDelegate

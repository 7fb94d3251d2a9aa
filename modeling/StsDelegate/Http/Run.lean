import StsDelegate.Http.Plan
import StsDelegate.Http.Server

/-!
# Token requests against the stores

How a token request runs on the server's machine. Planning only reads the clock,
so it leaves both stores alone; whatever a token request changes, its commitment
changes, one credential after another.
-/

namespace StsDelegate

open Text Fallible Effectful Prog

variable [Crates] {state : HttpState} {headers : HeaderMap} {body : Bytes} {stores : Stores}
  {α ε : Type}

/-! ### Single calls -/

/-- A reading of the clock is that of the next tick. -/
theorem run_unixNow_bind (env : Nat → Tick) {f : Int64 → Handler ε α} :
    (unixNow >>= f).run (machine state) env stores =
      ((f (env 0).now).run (machine state) (fun n => env (n + 1)) stores).cons
        (nowIs (env 0).now) :=
  rfl

/-- A recording that succeeds. -/
theorem run_checkAndRecord_ok (env : Nat → Tick) {jti : String} {exp now : Int64}
    {mapErr : ReplayError → ε} {f : Unit → Handler ε α}
    (h : (stores.replay.checkAndRecord jti exp now).1 = .ok ()) :
    (checkAndRecord jti exp now mapErr >>= f).run (machine state) env stores =
      ((f ()).run (machine state) (fun n => env (n + 1))
        { stores with replay := (stores.replay.checkAndRecord jti exp now).2 }).cons
          (recordIs jti exp now (.ok ())) := by
  rw [checkAndRecord, perform, call_bind, call_bind, run_call,
    machine_checkAndRecord, h]
  rfl

/-- A recording that is refused ends the run. -/
theorem run_checkAndRecord_error (env : Nat → Tick) {jti : String} {exp now : Int64}
    {mapErr : ReplayError → ε} {f : Unit → Handler ε α} {err : ReplayError}
    (h : (stores.replay.checkAndRecord jti exp now).1 = .error err) :
    (checkAndRecord jti exp now mapErr >>= f).run (machine state) env stores =
      ⟨.error (mapErr err), { stores with replay := (stores.replay.checkAndRecord jti exp now).2 },
        [recordIs jti exp now (.error err)]⟩ := by
  rw [checkAndRecord, perform, call_bind, call_bind, run_call,
    machine_checkAndRecord, h]
  rfl

theorem run_newJti_bind (env : Nat → Tick) {f : String → Handler ε α} :
    (newJti >>= f).run (machine state) env stores =
      ((f (env 0).jti).run (machine state) (fun n => env (n + 1)) stores).cons
        (⟨Call.newJti, (env 0).jti⟩ : Ev) :=
  rfl

theorem run_signClaims_ok (env : Nat → Tick) {claims : MintedClaims} {token : String}
    {mapErr : JoseError → ε} {f : String → Handler ε α}
    (h : state.signer.signClaims claims (env 0).entropy = .ok token) :
    (signClaims claims mapErr >>= f).run (machine state) env stores =
      ((f token).run (machine state) (fun n => env (n + 1)) stores).cons
        (signIs claims (.ok token)) := by
  rw [signClaims, perform, call_bind, call_bind, run_call, machine_signClaims, h]
  rfl

/-- A token that gets its place on the revocation list. -/
theorem run_revokeToken_ok (env : Nat → Tick) {token : String} {exp now : Int64} {maxSeen : Nat}
    {f : Unit → Handler HttpError α}
    (h : (Revoked.revoke stores.revoked token exp now maxSeen).1 = .ok ()) :
    (revokeToken token exp now maxSeen >>= f).run (machine state) env stores =
      ((f ()).run (machine state) (fun n => env (n + 1))
        { stores with revoked := (Revoked.revoke stores.revoked token exp now maxSeen).2 }).cons
          (⟨Call.revoke token exp now maxSeen, Except.ok ()⟩ : Ev) := by
  rw [revokeToken, perform, call_bind, call_bind, run_call, machine_revoke, h]
  rfl

/-- A token for which there is none ends the run. -/
theorem run_revokeToken_error (env : Nat → Tick) {token : String} {exp now : Int64} {maxSeen : Nat}
    {f : Unit → Handler HttpError α} {err : HttpError}
    (h : (Revoked.revoke stores.revoked token exp now maxSeen).1 = .error err) :
    (revokeToken token exp now maxSeen >>= f).run (machine state) env stores =
      ⟨.error err,
        { stores with revoked := (Revoked.revoke stores.revoked token exp now maxSeen).2 },
        [⟨.revoke token exp now maxSeen, .error err⟩]⟩ := by
  rw [revokeToken, perform, call_bind, call_bind, run_call, machine_revoke, h]
  rfl

/-- Looking a token up on the revocation list, which is swept. -/
theorem run_isRevokedOrUnavailable_bind (env : Nat → Tick) {token : String} {now : Int64}
    {f : Bool → Handler ε α} :
    (isRevokedOrUnavailable token now >>= f).run (machine state) env stores =
      ((f (decide (revocationKey token ∈ sweepRevoked stores.revoked now))).run (machine state)
        (fun n => env (n + 1))
        { stores with revoked := sweepRevoked stores.revoked now }).cons
          (⟨Call.isRevokedOrUnavailable token now,
            decide (revocationKey token ∈ sweepRevoked stores.revoked now)⟩ : Ev) :=
  rfl

/-- Introspection tells the claims of a token that is active and not on the list. -/
theorem introspectionResponseForToken_outcome {token : String} {now : Int64} (env : Nat → Tick)
    (stores : Stores) :
    ((introspectionResponseForToken state token now).run (machine state) env stores).outcome =
      .ok (match stsTokenClaims state token now with
        | some claims =>
            if revocationKey token ∈ sweepRevoked stores.revoked now then inactiveResponse
            else activeResponse claims
        | none => inactiveResponse) := by
  rw [introspectionResponseForToken, verifiedStsAccessToken]
  cases stsTokenClaims state token now with
  | none => rfl
  | some claims =>
      show (((isRevokedOrUnavailable token now >>= fun revoked =>
        pure (if revoked then none else some claims)) >>= _).run (machine state) env
          stores).outcome = _
      rw [bind_assoc, run_isRevokedOrUnavailable_bind]
      by_cases hmem : revocationKey token ∈ sweepRevoked stores.revoked now
      · simp only [decide_eq_true hmem, if_pos hmem]
        rfl
      · simp only [decide_eq_false hmem, if_neg hmem]
        rfl

/-! ### Planning and commitment -/

/-- Issuing a token draws an id and signs. -/
theorem run_issueToken (env : Nat → Tick) {exchange : VerifiedExchange}
    {signingDecision : SigningDecision} {now assertionExp : Int64} {clientId token : String}
    {act : Option ActClaim}
    (h : state.signer.signClaims
      (mintedPayload state exchange now assertionExp clientId act (env 0).jti) (env 1).entropy =
        .ok token) :
    (issueToken state exchange signingDecision now assertionExp clientId act).run (machine state)
      env stores =
      ⟨.ok (tokenHeaders, tokenResponse exchange signingDecision
          (mintedPayload state exchange now assertionExp clientId act (env 0).jti) token), stores,
        [⟨.newJti, (env 0).jti⟩,
          signIs (mintedPayload state exchange now assertionExp clientId act (env 0).jti)
            (.ok token)]⟩ := by
  rw [issueToken, run_newJti_bind, run_signClaims_ok (fun n => env (n + 1)) h]
  rfl

/-- Recording goes on after a success. -/
theorem run_recordAll_ok (env : Nat → Tick) {now exp : Int64} {key : String}
    {refusal : ReplayError → HttpError} {rest : List Credential} {f : Unit → Handler HttpError α}
    (h : (stores.replay.checkAndRecord key exp now).1 = .ok ()) :
    (recordAll now (⟨key, exp, refusal⟩ :: rest) >>= f).run (machine state) env stores =
      ((recordAll now rest >>= f).run (machine state) (fun n => env (n + 1))
        { stores with replay := (stores.replay.checkAndRecord key exp now).2 }).cons
          (recordIs key exp now (.ok ())) := by
  rw [recordAll, bind_assoc, run_checkAndRecord_ok env h]

/-- Recording ends with the first refusal. -/
theorem run_recordAll_error (env : Nat → Tick) {now exp : Int64} {key : String}
    {refusal : ReplayError → HttpError} {rest : List Credential} {f : Unit → Handler HttpError α}
    {err : ReplayError} (h : (stores.replay.checkAndRecord key exp now).1 = .error err) :
    (recordAll now (⟨key, exp, refusal⟩ :: rest) >>= f).run (machine state) env stores =
      ⟨.error (refusal err), { stores with replay := (stores.replay.checkAndRecord key exp now).2 },
        [recordIs key exp now (.error err)]⟩ := by
  rw [recordAll, bind_assoc, run_checkAndRecord_error env h]

/-- Planning changes no store. -/
theorem run_planExchange_state (env : Nat → Tick) (stores : Stores) :
    ((planExchange headers state body).run (machine state) env stores).state = stores := by
  refine run_frame id fun ev hev tick stores' => ?_
  have hclock := only_planExchange.of_mem (run_steps _ _ env stores) ev hev
  exact machine_readsClock hclock

/-- A token request whose gates all pass is committed. -/
theorem run_tokenInner_of_plan {env : Nat → Tick} {plan : Plan}
    (h : ((planExchange headers state body).run (machine state) env stores).outcome = .ok plan) :
    (tokenInner headers state body).run (machine state) env stores =
      let planned := (planExchange headers state body).run (machine state) env stores
      let committed := (commit state plan).run (machine state)
        (fun n => env (n + planned.trace.length)) stores
      ⟨committed.outcome, committed.state, planned.trace ++ committed.trace⟩ := by
  rw [tokenInner_eq, run_bind_ok h]
  simp only [run_planExchange_state]

/-- A token request one of whose gates fails ends there. -/
theorem run_tokenInner_of_error {env : Nat → Tick} {err : HttpError}
    (h : ((planExchange headers state body).run (machine state) env stores).outcome = .error err) :
    (tokenInner headers state body).run (machine state) env stores =
      ⟨.error err, stores,
        ((planExchange headers state body).run (machine state) env stores).trace⟩ := by
  rw [tokenInner_eq, run_bind_error h, run_planExchange_state]

/-- Serving a token request is running the endpoint. -/
theorem serve_token (env : Nat → Tick) (stores : Stores) :
    serve state ⟨.token, headers, body⟩ env stores =
      let r := (tokenInner headers state body).run (machine state) env stores
      ⟨r.outcome.map fun out => .token out.1 out.2, r.state, r.trace⟩ := by
  simp only [serve, handle]
  cases h : ((tokenInner headers state body).run (machine state) env stores).outcome with
  | ok out =>
      rw [run_bind_ok h]
      simp [run, Except.map]
  | error err =>
      rw [run_bind_error h]
      simp [Except.map]

/-- Serving a revocation request is running the endpoint. -/
theorem serve_revoke (env : Nat → Tick) (stores : Stores) :
    (serve state ⟨.revoke, headers, body⟩ env stores).outcome =
      ((revoke headers state body).run (machine state) env stores).outcome.map .revocation := by
  simp only [serve, handle]
  cases h : ((revoke headers state body).run (machine state) env stores).outcome with
  | ok out =>
      rw [run_bind_ok h]
      rfl
  | error err =>
      rw [run_bind_error h]
      rfl

end StsDelegate

import StsDelegate.Http.Run
import StsDelegate.Http.Issued
import StsDelegate.Sample.Requests

/-!
# The sample requests served

Whole runs of the sample requests, given what the clock shows at their calls.
-/

namespace StsDelegate

namespace Sample

open Text Fallible Effectful Prog

variable {mode : TokenExchangeMode} {maxSeen : Nat} {hmax : 1 ≤ maxSeen} {knobs : Knobs} {stores : Stores}
  {α : Type}

/-! ### The documents -/

/-- A document in the table, with the header its party signs under. -/
structure Issued (party : String) (exp : Int64) (jti : String) (s : Signed) : Prop where
  mem : (s, assertionClaims party exp jti) ∈ assertions
  header : Crates.headerFromSlice s.header = .ok ⟨"RS256", some (party ++ "-1"), some "JWT"⟩

theorem issued_actor1 : Issued "agent" 200 "a1" actor1 :=
  ⟨by simp [assertions], toOption_eq_some.mp (by decide)⟩

theorem issued_actor2 : Issued "agent" 200 "a2" actor2 :=
  ⟨by simp [assertions], toOption_eq_some.mp (by decide)⟩

theorem issued_client1 : Issued "app" 100 "c1" client1 :=
  ⟨by simp [assertions], toOption_eq_some.mp (by decide)⟩

theorem issued_client2 : Issued "app" 105 "c2" client2 :=
  ⟨by simp [assertions], toOption_eq_some.mp (by decide)⟩

theorem clientJti_c1 : clientAssertionJti (assertionClaims "app" 100 "c1") = .ok "c1" :=
  toOption_eq_some.mp (by decide)

theorem clientJti_c2 : clientAssertionJti (assertionClaims "app" 105 "c2") = .ok "c2" :=
  toOption_eq_some.mp (by decide)

theorem sameAct_iff {act act' : Option ActClaim} (h : sameAct act act' = true) : act = act' := by
  unfold sameAct at h
  split at h
  · rfl
  · rw [beq_iff_eq.mp h]
  · cases h

theorem eq_of_sameClaims {c c' : MintedClaims} (h : sameClaims c c' = true) : c = c' := by
  simp only [sameClaims, Bool.and_eq_true, beq_iff_eq] at h
  obtain ⟨⟨⟨⟨⟨⟨⟨⟨⟨⟨⟨⟨h1, h2⟩, h3⟩, h4⟩, h5⟩, h6⟩, h7⟩, h8⟩, h9⟩, h10⟩, h11⟩, h12⟩, h13⟩ := h
  have hact := sameAct_iff h9
  cases c
  cases c'
  rw [MintedClaims.mk.injEq]
  exact ⟨h1, h2, h3, h4, h5, h6, h7, h8, hact, h10, h11, h12, h13⟩

/-- Only the sample tokens are signed, with the one key of the server. -/
theorem rs256Encode_eq_ok {header : ProtectedHeader} {claims : MintedClaims} {key : Bytes}
    {token : String} (h : rs256Encode header claims key = .ok token) :
    header = ⟨"RS256", "sts-1", "at+jwt"⟩ ∧ key = keyPair ∧
      ∃ s, (s, claims) ∈ mintedTokens ∧ token = s.token := by
  unfold rs256Encode at h
  split at h
  · next m hfind =>
      split at h
      · next hsigner =>
          obtain ⟨halg, hkid, htyp, hkey⟩ := hsigner
          have hmem := List.mem_of_find?_eq_some hfind
          have hfound := List.find?_some hfind
          have hsame : m.2 = claims := eq_of_sameClaims hfound
          subst hsame
          exact ⟨by rw [← halg, ← hkid, ← htyp], hkey, m.1, hmem, (Except.ok.inj h).symm⟩
      · cases h
  · cases h

/-- The signer knows the minted tokens. -/
theorem signClaims_minted {s : Signed} {claims : MintedClaims} (h : (s, claims) ∈ mintedTokens)
    (entropy : Bytes) : signer.signClaims claims entropy = .ok s.token := by
  have hfind : mintedTokens.find? (fun m => sameClaims m.2 claims) = some (s, claims) := by
    simp only [mintedTokens, List.mem_cons, List.not_mem_nil, or_false] at h
    rcases h with h | h | h | h | h
    all_goals
      cases h
      rfl
  have hencode : rs256Encode signer.header claims keyPair = .ok s.token := by
    unfold rs256Encode
    rw [hfind]
    exact if_pos ⟨rfl, rfl, rfl, rfl⟩
  change (rs256Encode signer.header claims keyPair).mapError mapJwtEncodeError = _
  rw [hencode]
  rfl

/-! ### Waiting for the clock -/

/-- A window that is open takes one reading. -/
theorem run_validateTimeWindow_bind (env : Nat → Tick) {st : HttpState} {exp : Int64}
    {mapErr : VerifyError → HttpError} {f : Unit → Handler HttpError α}
    (h : (env 0).now ≤ exp + 30) :
    ((validateTimeWindow exp none 30).mapErr mapErr >>= f).run (machine st) env stores =
      ((f ()).run (machine st) (fun n => env (n + 1)) stores).cons (nowIs (env 0).now) := by
  have hopen : ∀ now, now ≤ exp + 30 →
      rejectIf (exp + 30 < now) (VerifyError.mk .invalidLifetime "token has expired") = .ok () := by
    intro now hle
    rw [rejectIf_eq_ok, decide_eq_false_iff_not]
    exact Int64.not_lt.mpr hle
  rw [validateTimeWindow, mapErr_bind, bind_assoc]
  refine (run_unixNow_bind env).trans ?_
  rw [liftM_eq, hopen _ h]
  rfl

/-- A window that is closed ends the request. -/
theorem run_validateTimeWindow_closed (env : Nat → Tick) {st : HttpState} {exp : Int64}
    {mapErr : VerifyError → HttpError} {f : Unit → Handler HttpError α}
    (h : exp + 30 < (env 0).now) :
    ((validateTimeWindow exp none 30).mapErr mapErr >>= f).run (machine st) env stores =
      ⟨.error (mapErr ⟨.invalidLifetime, "token has expired"⟩), stores, [nowIs (env 0).now]⟩ := by
  have hclosed : ∀ now, exp + 30 < now →
      rejectIf (exp + 30 < now) (VerifyError.mk .invalidLifetime "token has expired") =
        .error ⟨.invalidLifetime, "token has expired"⟩ := by
    intro now hlt
    exact if_pos (decide_eq_true hlt)
  rw [validateTimeWindow, mapErr_bind, bind_assoc]
  refine (run_unixNow_bind env).trans ?_
  rw [liftM_eq, hclosed _ h]
  rfl

/-- So does verifying an assertion, once its signature is checked. -/
theorem run_assertionChecks_bind (env : Nat → Tick) {st : HttpState} {party jti : String}
    {exp : Int64} {mapErr : VerifyError → HttpError} {f : Unit → Handler HttpError α}
    (h : (env 0).now ≤ exp + 30) (hspan : exp - 40 ≤ 300 + 30) :
    ((assertionChecks (assertionClaims party exp jti)).mapErr mapErr >>= f).run (machine st) env
      stores =
      ((f ()).run (machine st) (fun n => env (n + 1)) stores).cons (nowIs (env 0).now) := by
  have hlifetime : validateAssertionLifetime (assertionClaims party exp jti) 300 30 = .done () := by
    have hok : rejectIf ((300 : Int64) + 30 < exp - 40) (VerifyError.mk .invalidLifetime
        "assertion lifetime exceeds the allowed maximum") = .ok () := by
      rw [rejectIf_eq_ok, decide_eq_false_iff_not]
      exact Int64.not_lt.mpr hspan
    exact congrArg Prog.ofExcept hok
  rw [assertionChecks, hlifetime, mapErr_bind, bind_assoc]
  exact run_validateTimeWindow_bind env h

/-! ### Plans -/

/-- The plan of a delegation. -/
def actorPlan (jti : String) (dpopBinding : Option DpopBinding) (now : Int64)
    (claims : SubjectTokenClaims := subjectClaims) : Plan :=
  delegationPlan (exchange none dpopBinding claims)
    { actorClaims := assertionClaims "agent" 200 jti
      signingDecision := ⟨"RS256", false, none⟩
      now := now
      act := buildAct "agent" none
      actorJti := jti }

/-- The plan of an impersonation. -/
def clientPlan (exp : Int64) (jti : String) (now : Int64) : Plan :=
  impersonationPlan (exchange (some (assertionClaims "app" exp jti)) none)
    { clientClaims := assertionClaims "app" exp jti
      signingDecision := ⟨"RS256", false, none⟩
      now := now }

theorem run_planExchange_actor (env : Nat → Tick) {token : Signed} {claims : SubjectTokenClaims}
    {headers : HeaderMap} {s : Signed} {jti : String} {dpopBinding : Option DpopBinding}
    (htoken : (token, claims) ∈ exchanged) (hheaders : headers = formHeaders ∨ headers = proofHeaders)
    (h : Issued "agent" 200 jti s) (hjti : isBlank jti = false)
    (hdpop : validateDpopHeader headers (state .both maxSeen hmax knobs) (env 0).now = .ok dpopBinding)
    (hsubject : (env 1).now ≤ 105 + 30) (hactor : (env 2).now ≤ 200 + 30) :
    (planExchange headers (state .both maxSeen hmax knobs)
      (form (exchangePairs token ++ actorPairs s))).run (machine (state .both maxSeen hmax knobs)) env
      stores =
      ⟨.ok (actorPlan jti dpopBinding (env 3).now claims), stores,
        [nowIs (env 0).now, nowIs (env 1).now, nowIs (env 2).now, nowIs (env 3).now]⟩ := by
  have hspan : (200 : Int64) - 40 ≤ 300 + 30 := by decide
  have hheader : Crates.headerFromSlice s.header = .ok ⟨"RS256", some "agent-1", some "JWT"⟩ :=
    h.header
  rw [planExchange_actor htoken hheaders h.mem hheader hjti, run_unixNow_bind, hdpop, liftM_eq,
    ofExcept_ok, done_bind, run_validateTimeWindow_bind (fun n => env (n + 1)) hsubject,
    run_assertionChecks_bind (fun n => env (n + 1 + 1)) hactor hspan, run_unixNow_bind]
  rfl

theorem run_planExchange_client (env : Nat → Tick) {s : Signed} {exp : Int64} {jti : String}
    (h : Issued "app" exp jti s)
    (hjti : clientAssertionJti (assertionClaims "app" exp jti) = .ok jti)
    (hspan : exp - 40 ≤ 300 + 30) (hclient : (env 0).now ≤ exp + 30)
    (hsubject : (env 2).now ≤ 105 + 30) :
    (planExchange formHeaders (state .both maxSeen hmax knobs)
      (form (exchangePairs ++ clientPairs s))).run (machine (state .both maxSeen hmax knobs)) env stores =
      ⟨.ok (clientPlan exp jti (env 3).now), stores,
        [nowIs (env 0).now, nowIs (env 1).now, nowIs (env 2).now, nowIs (env 3).now]⟩ := by
  have hheader : Crates.headerFromSlice s.header = .ok ⟨"RS256", some "app-1", some "JWT"⟩ :=
    h.header
  rw [planExchange_client h.mem hheader hjti, run_assertionChecks_bind env hclient hspan,
    run_unixNow_bind, run_validateTimeWindow_bind (fun n => env (n + 1 + 1)) hsubject,
    run_unixNow_bind]
  rfl

/-- A clock that stands still. -/
def clock (now : Int64) (now_nonneg : 0 ≤ now) : Nat → Tick := fun _ => tick now now_nonneg

/-- A clock that moves on after `k` calls. -/
def clockThen (k : Nat) (now later : Int64) (now_nonneg : 0 ≤ now) (later_nonneg : 0 ≤ later)
    (n : Nat) : Tick :=
  if n < k then tick now now_nonneg else tick later later_nonneg

/-- A delegation at 50. -/
theorem returns_planExchange_actor1 {token : Signed} {claims : SubjectTokenClaims}
    (htoken : (token, claims) ∈ exchanged) :
    Returns (planExchange formHeaders (state .both maxSeen hmax knobs)
      (form (exchangePairs token ++ actorPairs actor1)))
      [nowIs 50, nowIs 50, nowIs 50, nowIs 50] (actorPlan "a1" none 50 claims) := by
  have hrun : (planExchange formHeaders (state .both maxSeen hmax knobs)
      (form (exchangePairs token ++ actorPairs actor1))).run (machine (state .both maxSeen hmax knobs))
        (clock 50 (by decide)) (.initial (config .both maxSeen hmax knobs)) = _ :=
    run_planExchange_actor _ htoken (Or.inl rfl) issued_actor1 (by decide) rfl (by decide) (by decide)
  have hreturns := run_returns (congrArg Result.outcome hrun)
  rwa [hrun] at hreturns

/-- An impersonation at 50. -/
theorem returns_planExchange_client1 :
    Returns (planExchange formHeaders (state .both maxSeen hmax knobs)
      (form (exchangePairs ++ clientPairs client1)))
      [nowIs 50, nowIs 50, nowIs 50, nowIs 50] (clientPlan 100 "c1" 50) := by
  have hjti : clientAssertionJti (assertionClaims "app" 100 "c1") = .ok "c1" :=
    toOption_eq_some.mp (by decide)
  have hrun : (planExchange formHeaders (state .both maxSeen hmax knobs)
      (form (exchangePairs ++ clientPairs client1))).run (machine (state .both maxSeen hmax knobs))
        (clock 50 (by decide)) (.initial (config .both maxSeen hmax knobs)) = _ :=
    run_planExchange_client _ issued_client1 hjti (by decide) (by decide) (by decide)
  have hreturns := run_returns (congrArg Result.outcome hrun)
  rwa [hrun] at hreturns

/-- The gates of an online request take one reading. -/
theorem run_verifyOnline_bind (env : Nat → Tick) {s : Signed} {exp : Int64}
    {token jti endpoint : String} {f : String × AssertionClaims → Handler HttpError α}
    (htoken : Plain token) (hblank : isBlank token = false) (hlen : len token ≤ knobs.maxTokenLen)
    (h : Issued "app" exp jti s)
    (hjti : clientAssertionJti (assertionClaims "app" exp jti) = .ok jti)
    (hspan : exp - 40 ≤ 300 + 30) (hclient : (env 0).now ≤ exp + 30) :
    (verifyOnline formHeaders (state mode maxSeen hmax knobs) (form (onlinePairs token s)) endpoint >>=
      f).run (machine (state mode maxSeen hmax knobs)) env stores =
      ((f (token, assertionClaims "app" exp jti)).run (machine (state mode maxSeen hmax knobs))
        (fun n => env (n + 1)) stores).cons (nowIs (env 0).now) := by
  have hheader : Crates.headerFromSlice s.header = .ok ⟨"RS256", some "app-1", some "JWT"⟩ :=
    h.header
  rw [verifyOnline_client htoken hblank hlen h.mem hheader hjti, bind_assoc,
    run_assertionChecks_bind env hclient hspan]
  rfl

/-! ### Requests served -/

def delegationRequest (headers : HeaderMap) (s : Signed) : Request :=
  ⟨.token, headers, form (exchangePairs ++ actorPairs s)⟩

def impersonationRequest (s : Signed) : Request :=
  ⟨.token, formHeaders, form (exchangePairs ++ clientPairs s)⟩

def introspectRequest (token : String) (s : Signed) : Request :=
  ⟨.introspect, formHeaders, form (onlinePairs token s)⟩

def revokeRequest (token : String) (s : Signed) : Request :=
  ⟨.revoke, formHeaders, form (onlinePairs token s)⟩

/-- The stores after recording one more key. -/
def recorded (stores : Stores) (key : String) (exp now : Int64) : Stores :=
  { stores with replay := (stores.replay.checkAndRecord key exp now).2 }

/-- What every online request does first: its gates, a reading, and the record of the
client's assertion. -/
theorem run_online_record (env : Nat → Tick) {s : Signed} {exp : Int64} {token jti endpoint : String}
    {f : String × AssertionClaims → Handler HttpError α} (htoken : Plain token)
    (hblank : isBlank token = false) (hlen : len token ≤ knobs.maxTokenLen) (h : Issued "app" exp jti s)
    (hjti : clientAssertionJti (assertionClaims "app" exp jti) = .ok jti)
    (hspan : exp - 40 ≤ 300 + 30) (hclient : (env 0).now ≤ exp + 30) :
    (verifyOnline formHeaders (state mode maxSeen hmax knobs) (form (onlinePairs token s)) endpoint >>=
      fun out => do
        let now ← unixNow
        recordClientAssertionReplay out.2 now
        f out).run (machine (state mode maxSeen hmax knobs)) env stores =
      (((checkAndRecord (clientReplayKey "app" jti) exp (env 1).now mapClientAssertionReplayError >>=
        fun _ => f (token, assertionClaims "app" exp jti)).run
          (machine (state mode maxSeen hmax knobs)) (fun n => env (n + 2)) stores).cons
            (nowIs (env 1).now)).cons (nowIs (env 0).now) := by
  have hrecordClient : ∀ now, recordClientAssertionReplay (assertionClaims "app" exp jti) now =
      checkAndRecord (clientReplayKey "app" jti) exp now mapClientAssertionReplayError := by
    intro now
    rw [recordClientAssertionReplay, hjti]
    rfl
  rw [run_verifyOnline_bind env htoken hblank hlen h hjti hspan hclient]
  simp only [hrecordClient]
  rw [run_unixNow_bind]

/-- The assertion is recorded: what comes next takes another reading. -/
theorem run_online_bind (env : Nat → Tick) {s : Signed} {exp : Int64} {token jti endpoint : String}
    {f : String × AssertionClaims → Int64 → Handler HttpError α} (htoken : Plain token)
    (hblank : isBlank token = false) (hlen : len token ≤ knobs.maxTokenLen) (h : Issued "app" exp jti s)
    (hjti : clientAssertionJti (assertionClaims "app" exp jti) = .ok jti)
    (hspan : exp - 40 ≤ 300 + 30) (hclient : (env 0).now ≤ exp + 30)
    (hrecord : (stores.replay.checkAndRecord (clientReplayKey "app" jti) exp (env 1).now).1 =
      .ok ()) :
    (verifyOnline formHeaders (state mode maxSeen hmax knobs) (form (onlinePairs token s)) endpoint >>=
      fun out => do
        let now ← unixNow
        recordClientAssertionReplay out.2 now
        let now ← unixNow
        f out now).run (machine (state mode maxSeen hmax knobs)) env stores =
      let r := (f (token, assertionClaims "app" exp jti) (env 3).now).run
        (machine (state mode maxSeen hmax knobs)) (fun n => env (n + 4))
        (recorded stores (clientReplayKey "app" jti) exp (env 1).now)
      ⟨r.outcome, r.state, [nowIs (env 0).now, nowIs (env 1).now,
        recordIs (clientReplayKey "app" jti) exp (env 1).now (.ok ()), nowIs (env 3).now] ++
          r.trace⟩ := by
  rw [run_online_record env htoken hblank hlen h hjti hspan hclient,
    run_checkAndRecord_ok (fun n => env (n + 2)) hrecord, run_unixNow_bind]
  rfl

section Introspection

variable {s : Signed} {exp : Int64} {jti : String}

variable (knobs) in
/-- What is introspected is plain and short enough. -/
theorem introspectRequest_plain :
    Plain "x" ∧ isBlank "x" = false ∧ len "x" ≤ knobs.maxTokenLen :=
  ⟨by decide, by decide, Nat.le_trans (by decide) knobs.maxTokenLen_large⟩

/-- Introspecting something that is no token: the client's assertion is recorded,
and the answer is that nothing is active. -/
theorem serve_introspect (env : Nat → Tick) (h : Issued "app" exp jti s)
    (hjti : clientAssertionJti (assertionClaims "app" exp jti) = .ok jti)
    (hspan : exp - 40 ≤ 300 + 30) (hclient : (env 0).now ≤ exp + 30)
    (hrecord : (stores.replay.checkAndRecord (clientReplayKey "app" jti) exp (env 1).now).1 =
      .ok ()) :
    serve (state mode maxSeen hmax knobs) (introspectRequest "x" s) env stores =
      ⟨.ok (.introspection tokenHeaders inactiveResponse),
        recorded stores (clientReplayKey "app" jti) exp (env 1).now,
        [nowIs (env 0).now, nowIs (env 1).now,
          recordIs (clientReplayKey "app" jti) exp (env 1).now (.ok ()), nowIs (env 3).now]⟩ := by
  obtain ⟨hplain, hblank, hlen⟩ := introspectRequest_plain knobs
  have hnone : ∀ now, stsTokenClaims (state mode maxSeen hmax knobs) "x" now = none := fun _ => rfl
  change (introspect formHeaders (state mode maxSeen hmax knobs) (form (onlinePairs "x" s)) >>=
    fun out => pure (Reply.introspection out.1 out.2)).run (machine (state mode maxSeen hmax knobs)) env
      stores = _
  simp only [introspect, bind_assoc]
  rw [run_online_bind env hplain hblank hlen h hjti hspan hclient hrecord]
  simp only [introspectionResponseForToken, verifiedStsAccessToken, hnone]
  rfl

/-- The client's assertion is refused. -/
theorem serve_introspect_error (env : Nat → Tick) {err : ReplayError} (h : Issued "app" exp jti s)
    (hjti : clientAssertionJti (assertionClaims "app" exp jti) = .ok jti)
    (hspan : exp - 40 ≤ 300 + 30) (hclient : (env 0).now ≤ exp + 30)
    (hrecord : (stores.replay.checkAndRecord (clientReplayKey "app" jti) exp (env 1).now).1 =
      .error err) :
    serve (state mode maxSeen hmax knobs) (introspectRequest "x" s) env stores =
      ⟨.error (mapClientAssertionReplayError err),
        recorded stores (clientReplayKey "app" jti) exp (env 1).now,
        [nowIs (env 0).now, nowIs (env 1).now,
          recordIs (clientReplayKey "app" jti) exp (env 1).now (.error err)]⟩ := by
  obtain ⟨hplain, hblank, hlen⟩ := introspectRequest_plain knobs
  change (introspect formHeaders (state mode maxSeen hmax knobs) (form (onlinePairs "x" s)) >>=
    fun out => pure (Reply.introspection out.1 out.2)).run (machine (state mode maxSeen hmax knobs)) env
      stores = _
  simp only [introspect, bind_assoc]
  rw [run_online_record env hplain hblank hlen h hjti hspan hclient,
    run_checkAndRecord_error (fun n => env (n + 2)) hrecord]
  rfl

end Introspection

/-- The claims of a planned delegation. -/
def actorPayload (jti : String) (dpopBinding : Option DpopBinding) (now : Int64) : MintedClaims :=
  (actorPlan jti dpopBinding now).payload (state .both 1 Nat.one_pos) "t1"

/-- The response of a planned delegation. -/
def actorResponse (jti : String) (dpopBinding : Option DpopBinding) (now : Int64)
    (token : String) : TokenResponse :=
  tokenResponse (exchange none dpopBinding) ⟨"RS256", false, none⟩
    (actorPayload jti dpopBinding now) token

/-- The end of a delegation: the token is signed. -/
theorem run_issue_actor (env : Nat → Tick) {minted : Signed} {jti : String} {now : Int64}
    {dpopBinding : Option DpopBinding} (hid : (env 0).jti = "t1")
    (hsign : (minted, actorPayload jti dpopBinding now) ∈ mintedTokens) :
    (issueToken (state .both maxSeen hmax knobs) (exchange none dpopBinding) ⟨"RS256", false, none⟩ now
      200 "agent" (some (buildAct "agent" none))).run (machine (state .both maxSeen hmax knobs)) env
        stores =
      ⟨.ok (tokenHeaders, actorResponse jti dpopBinding now minted.token), stores,
        [⟨.newJti, "t1"⟩, signIs (actorPayload jti dpopBinding now) (.ok minted.token)]⟩ := by
  have htoken : (state .both maxSeen hmax knobs).signer.signClaims
      (mintedPayload (state .both maxSeen hmax knobs) (exchange none dpopBinding) now 200 "agent"
        (some (buildAct "agent" none)) (env 0).jti) (env 1).entropy = .ok minted.token := by
    rw [hid]
    exact signClaims_minted hsign _
  rw [run_issueToken env htoken, hid]
  rfl

theorem run_commit_actor (env : Nat → Tick) {minted : Signed} {jti : String} {now : Int64}
    (hrecord : (stores.replay.checkAndRecord (actorReplayKey "agent" jti) 200 now).1 = .ok ())
    (hid : (env 1).jti = "t1") (hsign : (minted, actorPayload jti none now) ∈ mintedTokens) :
    (commit (state .both maxSeen hmax knobs) (actorPlan jti none now)).run
      (machine (state .both maxSeen hmax knobs)) env stores =
      ⟨.ok (tokenHeaders, actorResponse jti none now minted.token),
        recorded stores (actorReplayKey "agent" jti) 200 now,
        [recordIs (actorReplayKey "agent" jti) 200 now (.ok ()), ⟨Call.newJti, "t1"⟩,
          signIs (actorPayload jti none now) (.ok minted.token)]⟩ := by
  have hplan : commit (state .both maxSeen hmax knobs) (actorPlan jti none now) = (do
      recordAll now [⟨actorReplayKey "agent" jti, 200, mapReplayError⟩]
      issueToken (state .both maxSeen hmax knobs) (exchange none none) ⟨"RS256", false, none⟩ now
        200 "agent" (some (buildAct "agent" none))) := rfl
  rw [hplan, run_recordAll_ok env hrecord, recordAll, pure_bind,
    run_issue_actor (fun n => env (n + 1)) hid hsign]
  rfl

theorem run_commit_actor_error (env : Nat → Tick) {jti : String} {now : Int64} {err : ReplayError}
    (hrecord : (stores.replay.checkAndRecord (actorReplayKey "agent" jti) 200 now).1 =
      .error err) :
    (commit (state .both maxSeen hmax knobs) (actorPlan jti none now)).run
      (machine (state .both maxSeen hmax knobs)) env stores =
      ⟨.error (mapReplayError err), recorded stores (actorReplayKey "agent" jti) 200 now,
        [recordIs (actorReplayKey "agent" jti) 200 now (.error err)]⟩ := by
  have hplan : commit (state .both maxSeen hmax knobs) (actorPlan jti none now) = (do
      recordAll now [⟨actorReplayKey "agent" jti, 200, mapReplayError⟩]
      issueToken (state .both maxSeen hmax knobs) (exchange none none) ⟨"RS256", false, none⟩ now
        200 "agent" (some (buildAct "agent" none))) := rfl
  rw [hplan, run_recordAll_error env hrecord]
  rfl

/-- The replay key of the proof. -/
def proofReplayKey : String := dpopReplayKey thumbprint "p1"

/-- The commitment of a delegation with the proof, when the actor's assertion is
recorded: the proof is next. -/
theorem run_commit_proof (env : Nat → Tick) {jti : String} {now : Int64}
    (hrecord : (stores.replay.checkAndRecord (actorReplayKey "agent" jti) 200 now).1 = .ok ()) :
    (commit (state .both maxSeen hmax knobs) (actorPlan jti (some binding) now)).run
      (machine (state .both maxSeen hmax knobs)) env stores =
      ((do
        recordAll now [⟨proofReplayKey, 100, mapDpopReplayError⟩]
        issueToken (state .both maxSeen hmax knobs) (exchange none (some binding))
          ⟨"RS256", false, none⟩ now 200 "agent" (some (buildAct "agent" none))).run
            (machine (state .both maxSeen hmax knobs)) (fun n => env (n + 1))
            (recorded stores (actorReplayKey "agent" jti) 200 now)).cons
              (recordIs (actorReplayKey "agent" jti) 200 now (.ok ())) := by
  have hplan : commit (state .both maxSeen hmax knobs) (actorPlan jti (some binding) now) = (do
      recordAll now [⟨actorReplayKey "agent" jti, 200, mapReplayError⟩,
        ⟨proofReplayKey, 100, mapDpopReplayError⟩]
      issueToken (state .both maxSeen hmax knobs) (exchange none (some binding)) ⟨"RS256", false, none⟩
        now 200 "agent" (some (buildAct "agent" none))) := rfl
  rw [hplan, run_recordAll_ok env hrecord]
  rfl

theorem run_commit_proof_ok (env : Nat → Tick) {minted : Signed} {jti : String} {now : Int64}
    (hactor : (stores.replay.checkAndRecord (actorReplayKey "agent" jti) 200 now).1 = .ok ())
    (hproof : ((recorded stores (actorReplayKey "agent" jti) 200 now).replay.checkAndRecord
      proofReplayKey 100 now).1 = .ok ())
    (hid : (env 2).jti = "t1")
    (hsign : (minted, actorPayload jti (some binding) now) ∈ mintedTokens) :
    (commit (state .both maxSeen hmax knobs) (actorPlan jti (some binding) now)).run
      (machine (state .both maxSeen hmax knobs)) env stores =
      ⟨.ok (tokenHeaders, actorResponse jti (some binding) now minted.token),
        recorded (recorded stores (actorReplayKey "agent" jti) 200 now) proofReplayKey 100 now,
        [recordIs (actorReplayKey "agent" jti) 200 now (.ok ()),
          recordIs proofReplayKey 100 now (.ok ()), ⟨Call.newJti, "t1"⟩,
          signIs (actorPayload jti (some binding) now) (.ok minted.token)]⟩ := by
  rw [run_commit_proof env hactor, run_recordAll_ok (fun n => env (n + 1)) hproof, recordAll,
    pure_bind, run_issue_actor (fun n => env (n + 2)) hid hsign]
  rfl

/-- A proof that is refused: the actor's assertion stays recorded. -/
theorem run_commit_proof_error (env : Nat → Tick) {jti : String} {now : Int64} {err : ReplayError}
    (hactor : (stores.replay.checkAndRecord (actorReplayKey "agent" jti) 200 now).1 = .ok ())
    (hproof : ((recorded stores (actorReplayKey "agent" jti) 200 now).replay.checkAndRecord
      proofReplayKey 100 now).1 = .error err) :
    (commit (state .both maxSeen hmax knobs) (actorPlan jti (some binding) now)).run
      (machine (state .both maxSeen hmax knobs)) env stores =
      ⟨.error (mapDpopReplayError err),
        recorded (recorded stores (actorReplayKey "agent" jti) 200 now) proofReplayKey 100 now,
        [recordIs (actorReplayKey "agent" jti) 200 now (.ok ()),
          recordIs proofReplayKey 100 now (.error err)]⟩ := by
  rw [run_commit_proof env hactor, run_recordAll_error (fun n => env (n + 1)) hproof]
  rfl

/-- A delegation served: four readings, and the commitment. -/
theorem serve_delegation (env : Nat → Tick) {headers : HeaderMap} {s : Signed} {jti : String}
    {dpopBinding : Option DpopBinding} {outcome : Except HttpError (HeaderMap × TokenResponse)}
    {stores' : Stores} {trace : List Ev}
    (hheaders : headers = formHeaders ∨ headers = proofHeaders)
    (h : Issued "agent" 200 jti s) (hjti : isBlank jti = false)
    (hdpop : validateDpopHeader headers (state .both maxSeen hmax knobs) (env 0).now = .ok dpopBinding)
    (hsubject : (env 1).now ≤ 105 + 30) (hactor : (env 2).now ≤ 200 + 30)
    (hcommit : (commit (state .both maxSeen hmax knobs) (actorPlan jti dpopBinding (env 3).now)).run
      (machine (state .both maxSeen hmax knobs)) (fun n => env (n + 4)) stores =
        ⟨outcome, stores', trace⟩) :
    serve (state .both maxSeen hmax knobs) (delegationRequest headers s) env stores =
      ⟨outcome.map fun out => .token out.1 out.2, stores',
        [nowIs (env 0).now, nowIs (env 1).now, nowIs (env 2).now, nowIs (env 3).now] ++ trace⟩ := by
  have hplan : (planExchange headers (state .both maxSeen hmax knobs)
      (form (exchangePairs ++ actorPairs s))).run (machine (state .both maxSeen hmax knobs)) env stores =
        _ :=
    run_planExchange_actor env (List.mem_cons_self ..) hheaders h hjti hdpop hsubject hactor
  rw [delegationRequest, serve_token, run_tokenInner_of_plan (by rw [hplan]), hplan]
  simp only [List.length_cons, List.length_nil, Nat.reduceAdd, hcommit]

theorem validateDpopHeader_formHeaders (now : Int64) :
    validateDpopHeader formHeaders (state mode maxSeen hmax knobs) now = .ok none :=
  rfl

/-- The proof is valid within the leeway. -/
theorem validateDpopHeader_proof {now : Int64} (h : absDiff now 70 ≤ 30) :
    validateDpopHeader proofHeaders (state mode maxSeen hmax knobs) now = .ok (some binding) := by
  rw [validateDpopHeader_proofHeaders, bind_eq_ok]
  refine ⟨(), ?_, rfl⟩
  rw [rejectIf_eq_ok, decide_eq_false_iff_not]
  exact Nat.not_lt.mpr h

/-- A run in which a delegation is answered with a token. -/
theorem delegation_issued {now : Int64} {minted : Signed} (hnow : 0 ≤ now) (hopen : now ≤ 105 + 30)
    (hminted : (minted, actorPayload "a1" none now) ∈ mintedTokens) :
    ∃ moves w, ServerPool.run (state .both maxSeen hmax knobs) moves = some w ∧
      w.Issues 0 (delegationRequest formHeaders actor1)
        (actorResponse "a1" none now minted.token) := by
  have hrecord : ((Stores.initial (config .both maxSeen hmax knobs)).replay.checkAndRecord
      (actorReplayKey "agent" "a1") 200 now).1 = .ok () := by
    rw [InMemoryReplayStore.checkAndRecord_ok_iff]
    have hblank : isBlank (actorReplayKey "agent" "a1") = false := by decide
    exact ⟨hblank, AList.notMem_empty _, hmax⟩
  have hactor : now ≤ 200 + 30 := Int64.le_trans hopen (by decide)
  have hserve : serve (state .both maxSeen hmax knobs) (delegationRequest formHeaders actor1)
      (clock now hnow) (Stores.initial (config .both maxSeen hmax knobs)) = _ :=
    serve_delegation (clock now hnow) (Or.inl rfl) issued_actor1 (by decide)
      (validateDpopHeader_formHeaders now) hopen hactor
      (run_commit_actor (fun n => clock now hnow (n + 4)) hrecord rfl hminted)
  obtain ⟨moves, hrun⟩ := run_sequential (state .both maxSeen hmax knobs)
    [(delegationRequest formHeaders actor1, clock now hnow)]
  have hstores : Stores.initial (state .both maxSeen hmax knobs).config =
      Stores.initial (config .both maxSeen hmax knobs) := rfl
  rw [Pool.initial, hstores, sequential_cons hserve] at hrun
  exact ⟨moves, _, hrun, tokenHeaders, rfl⟩

end Sample

end StsDelegate

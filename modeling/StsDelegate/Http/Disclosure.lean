import StsDelegate.Http.Run
import StsDelegate.Http.Traces
import StsDelegate.Sample.Runs

/-!
# What a revocation request gives away

Two `/revoke` requests with different tokens and everything else alike do the same up to
the end: the client is authenticated and its assertion recorded before the token is looked
at (`admitOnline`). Then a token that is active and not on the list yet is put there, which
takes a place, and any other token is passed over. Both are answered in the same way as
long as there is a place left.
-/

namespace StsDelegate

open Text Fallible Effectful Prog

section Server

variable [Crates] {state : HttpState} {headers : HeaderMap} {body : Bytes} {form : OnlineTokenForm}
  {token : String} {stores : Stores}

/-! ### The part that does not look at the token -/

/-- Authenticate the client, record its assertion, and read the clock. -/
def admitOnline (state : HttpState) (form : OnlineTokenForm) (endpoint : String) :
    Handler HttpError Int64 := do
  let claims ← authenticateOnlineClient state form endpoint
  let now ← unixNow
  recordClientAssertionReplay claims now
  unixNow

/-- The part that does. -/
def revokeAt (state : HttpState) (token : String) (now : Int64) : Handler HttpError HeaderMap := do
  revokeIfActive state token (stsTokenClaims state token now)
  pure tokenHeaders

theorem verifiedStsAccessToken_unchecked (now : Int64) :
    verifiedStsAccessToken state token now false = pure (stsTokenClaims state token now) := by
  rw [verifiedStsAccessToken]
  split
  · next h => rw [h]
  · next h => simp [h]

/-- A request with a token of the right size, in its two parts. -/
theorem revoke_eq_admitOnline (hbody : parseOnlineTokenForm headers body = .ok form)
    (htoken : form.token = some token) (hblank : isBlank token = false)
    (hlen : len token ≤ state.config.maxTokenLen) :
    revoke headers state body =
      admitOnline state form state.revocationEndpoint >>= revokeAt state token := by
  have hrequired : requiredOnlineToken form state.config.maxTokenLen = .ok token := by
    rw [requiredOnlineToken_eq htoken hblank, if_neg (Nat.not_lt.mpr hlen)]
  simp only [revoke, verifyOnline, hbody, hrequired, liftM_eq, ofExcept_ok, done_bind, pure_eq,
    verifiedStsAccessToken_unchecked, admitOnline, bind_assoc]
  rfl

/-- The calls that leave the revocation list alone. -/
def KeepsRevoked (c : Call) : Prop :=
  ∀ (state : HttpState) tick (stores : Stores),
    ((machine state).answer c tick stores).2.revoked = stores.revoked

theorem keepsRevoked_of_readsClock {c : Call} (h : ReadsClock c) : KeepsRevoked c := by
  intro state tick stores
  rw [machine_readsClock h]

theorem keepsRevoked_checkAndRecord (jti : String) (exp now : Int64) :
    KeepsRevoked (.checkAndRecord jti exp now) := by
  intro state tick stores
  rw [machine_checkAndRecord]

theorem only_admitOnline {endpoint : String} :
    Only KeepsRevoked (admitOnline state form endpoint) := by
  have hclock : Only KeepsRevoked (unixNow : Handler HttpError Int64) :=
    only_perform (keepsRevoked_of_readsClock rfl)
  have hclient : Only KeepsRevoked (authenticateOnlineClient state form endpoint) :=
    only_bind only_ofExcept fun _ t c hcalls =>
      keepsRevoked_of_readsClock (only_authenticateClient t c hcalls)
  have hrecord : ∀ claims now,
      Only KeepsRevoked (recordClientAssertionReplay claims now : Handler HttpError Unit) :=
    fun claims now => only_bind only_ofExcept fun _ =>
      only_bind (only_perform (keepsRevoked_checkAndRecord _ _ _)) fun _ => only_ofExcept
  exact only_bind hclient fun _ => only_bind hclock fun _ => only_bind (hrecord _ _) fun _ => hclock

/-- Admission leaves the revocation list alone. -/
theorem admitOnline_revoked {endpoint : String} (ticks : Nat → Tick) :
    ((admitOnline state form endpoint).run (machine state) ticks stores).state.revoked =
      stores.revoked :=
  run_frame Stores.revoked fun ev hev tick stores' =>
    only_admitOnline.of_mem (run_steps _ _ ticks stores) ev hev state tick stores'

/-! ### The part that does -/

/-- The list is full of entries that still count. -/
def RevocationListFull (state : HttpState) (revoked : Revoked) (now : Int64) : Prop :=
  state.config.maxSeenJti ≤ ExpiryMap.size (sweepRevoked revoked now)

/-- The token is one of this server's active ones at `now`, and is not on the list at
`later`. -/
def ToBeListed (state : HttpState) (revoked : Revoked) (token : String) (now later : Int64) : Prop :=
  (stsTokenClaims state token now).isSome = true ∧
    revocationKey token ∉ sweepRevoked revoked later

/-- A token needs a place on the list, and is refused if there is none. -/
theorem revokeAt_outcome (ticks : Nat → Tick) (stores : Stores) (token : String) (now : Int64) :
    (ToBeListed state stores.revoked token now (ticks 0).now ∧
        RevocationListFull state stores.revoked (ticks 0).now ∧
        ((revokeAt state token now).run (machine state) ticks stores).outcome =
          .error (.serviceUnavailable "revocation store full, retry shortly")) ∨
      (¬ (ToBeListed state stores.revoked token now (ticks 0).now ∧
          RevocationListFull state stores.revoked (ticks 0).now) ∧
        ((revokeAt state token now).run (machine state) ticks stores).outcome = .ok tokenHeaders) := by
  rw [revokeAt]
  cases hclaims : stsTokenClaims state token now with
  | none =>
      right
      refine ⟨?_, rfl⟩
      simp [ToBeListed, hclaims]
  | some claims =>
      rw [revokeIfActive, bind_assoc, run_unixNow_bind]
      -- only an active token that is not on the list asks for a place
      have hlisted : (stsTokenClaims state token now).isSome = true := by rw [hclaims]; rfl
      by_cases hrefused : ToBeListed state stores.revoked token now (ticks 0).now ∧
          RevocationListFull state stores.revoked (ticks 0).now
      · left
        have herror : (Revoked.revoke stores.revoked token claims.exp (ticks 0).now
            state.config.maxSeenJti).1 =
              .error (.serviceUnavailable "revocation store full, retry shortly") := by
          rw [Revoked.revoke, if_pos ⟨hrefused.1.2, hrefused.2⟩]
        refine ⟨hrefused.1, hrefused.2, ?_⟩
        rw [run_revokeToken_error _ herror]
        rfl
      · right
        have hok : (Revoked.revoke stores.revoked token claims.exp (ticks 0).now
            state.config.maxSeenJti).1 = .ok () := by
          rw [Revoked.revoke, if_neg fun hnone => hrefused ⟨⟨hlisted, hnone.1⟩, hnone.2⟩]
        refine ⟨hrefused, ?_⟩
        rw [run_revokeToken_ok _ hok]
        rfl

section Answers

variable {now : Int64} {ticks : Nat → Tick} {admitted : Stores} {t : List Ev}

/-- The answer to an admitted request. -/
theorem serve_revoke_outcome
    (hbody : parseOnlineTokenForm headers body = .ok { form with token := some token })
    (hblank : isBlank token = false) (hlen : len token ≤ state.config.maxTokenLen)
    (hadmitted : (admitOnline state form state.revocationEndpoint).run (machine state) ticks stores =
      ⟨.ok now, admitted, t⟩) :
    (ToBeListed state stores.revoked token now (ticks t.length).now ∧
        RevocationListFull state stores.revoked (ticks t.length).now ∧
        (serve state ⟨.revoke, headers, body⟩ ticks stores).outcome =
          .error (.serviceUnavailable "revocation store full, retry shortly")) ∨
      (¬ (ToBeListed state stores.revoked token now (ticks t.length).now ∧
          RevocationListFull state stores.revoked (ticks t.length).now) ∧
        (serve state ⟨.revoke, headers, body⟩ ticks stores).outcome =
          .ok (.revocation tokenHeaders)) := by
  have hsame : admitOnline state { form with token := some token } state.revocationEndpoint =
    admitOnline state form state.revocationEndpoint := rfl
  have hlist : admitted.revoked = stores.revoked := by
    have hframe : ((admitOnline state form state.revocationEndpoint).run (machine state) ticks
        stores).state.revoked = stores.revoked := admitOnline_revoked ticks
    rwa [hadmitted] at hframe
  have hrun : (serve state ⟨.revoke, headers, body⟩ ticks stores).outcome =
      ((revokeAt state token now).run (machine state) (fun n => ticks (n + t.length))
        admitted).outcome.map .revocation := by
    rw [serve_revoke, revoke_eq_admitOnline hbody rfl hblank hlen, hsame,
      run_bind_ok (congrArg Result.outcome hadmitted), hadmitted]
  have hcase : _ ∨ _ := @revokeAt_outcome _ state (fun n => ticks (n + t.length)) admitted token now
  simp only [hlist, Nat.zero_add] at hcase
  rw [hrun]
  rcases hcase with ⟨hlisted, hfull, heq⟩ | ⟨hfree, heq⟩
  · exact Or.inl ⟨hlisted, hfull, by rw [heq]; rfl⟩
  · exact Or.inr ⟨hfree, by rw [heq]; rfl⟩

/-- **What a revocation request gives away.** The answers to two requests that differ in
the token only are the same exactly when the list has room, or both tokens need a place on
it, or neither does. -/
theorem revocation_answers_agree_iff {body₁ body₂ : Bytes} {token₁ token₂ : String}
    (hbody₁ : parseOnlineTokenForm headers body₁ = .ok { form with token := some token₁ })
    (hbody₂ : parseOnlineTokenForm headers body₂ = .ok { form with token := some token₂ })
    (hblank₁ : isBlank token₁ = false) (hblank₂ : isBlank token₂ = false)
    (hlen₁ : len token₁ ≤ state.config.maxTokenLen) (hlen₂ : len token₂ ≤ state.config.maxTokenLen)
    (hadmitted : (admitOnline state form state.revocationEndpoint).run (machine state) ticks stores =
      ⟨.ok now, admitted, t⟩) :
    (serve state ⟨.revoke, headers, body₁⟩ ticks stores).outcome =
        (serve state ⟨.revoke, headers, body₂⟩ ticks stores).outcome ↔
      ¬ RevocationListFull state stores.revoked (ticks t.length).now ∨
        (ToBeListed state stores.revoked token₁ now (ticks t.length).now ↔
          ToBeListed state stores.revoked token₂ now (ticks t.length).now) := by
  rcases serve_revoke_outcome hbody₁ hblank₁ hlen₁ hadmitted with
    ⟨hlisted₁, hfull, heq₁⟩ | ⟨hfree₁, heq₁⟩
  · rcases serve_revoke_outcome hbody₂ hblank₂ hlen₂ hadmitted with
      ⟨hlisted₂, -, heq₂⟩ | ⟨hfree₂, heq₂⟩
    · exact iff_of_true (heq₁.trans heq₂.symm) (Or.inr (iff_of_true hlisted₁ hlisted₂))
    · have hother : ¬ ToBeListed state stores.revoked token₂ now (ticks t.length).now :=
        fun hlisted₂ => hfree₂ ⟨hlisted₂, hfull⟩
      refine iff_of_false ?_ ?_
      · rw [heq₁, heq₂]
        exact nofun
      · rintro (hroom | hiff)
        · exact hroom hfull
        · exact hother (hiff.mp hlisted₁)
  · rcases serve_revoke_outcome hbody₂ hblank₂ hlen₂ hadmitted with
      ⟨hlisted₂, hfull, heq₂⟩ | ⟨hfree₂, heq₂⟩
    · have hother : ¬ ToBeListed state stores.revoked token₁ now (ticks t.length).now :=
        fun hlisted₁ => hfree₁ ⟨hlisted₁, hfull⟩
      refine iff_of_false ?_ ?_
      · rw [heq₁, heq₂]
        exact nofun
      · rintro (hroom | hiff)
        · exact hroom hfull
        · exact hother (hiff.mpr hlisted₂)
    · refine iff_of_true (heq₁.trans heq₂.symm) ?_
      by_cases hfull : RevocationListFull state stores.revoked (ticks t.length).now
      · exact Or.inr (iff_of_false (fun h => hfree₁ ⟨h, hfull⟩) fun h => hfree₂ ⟨h, hfull⟩)
      · exact Or.inl hfull

end Answers

end Server

namespace Sample

variable {mode : TokenExchangeMode} {maxSeen : Nat} {hmax : 1 ≤ maxSeen} {stores : Stores}

/-- The form of an online request, less its token. -/
def clientForm (s : Signed) : OnlineTokenForm where
  clientAssertion := some s.token
  clientAssertionType := some CLIENT_ASSERTION_TYPE

/-- A client with a fresh assertion is admitted. -/
theorem run_admitOnline (env : Nat → Tick) {s : Signed} {exp : Int64} {jti endpoint : String}
    (h : Issued "app" exp jti s)
    (hjti : clientAssertionJti (assertionClaims "app" exp jti) = .ok jti)
    (hspan : exp - 40 ≤ 300 + 30) (hclient : (env 0).now ≤ exp + 30)
    (hrecord : (stores.replay.checkAndRecord (clientReplayKey "app" jti) exp (env 1).now).1 =
      .ok ()) :
    (admitOnline (state mode maxSeen hmax) (clientForm s) endpoint).run
      (machine (state mode maxSeen hmax)) env stores =
      ⟨.ok (env 3).now, recorded stores (clientReplayKey "app" jti) exp (env 1).now,
        [nowIs (env 0).now, nowIs (env 1).now,
          recordIs (clientReplayKey "app" jti) exp (env 1).now (.ok ()), nowIs (env 3).now]⟩ := by
  have hheader : Crates.headerFromSlice s.header = .ok ⟨"RS256", some "app-1", some "JWT"⟩ :=
    h.header
  have hauth : authenticateOnlineClient (state mode maxSeen hmax) (clientForm s) endpoint = _ :=
    authenticateOnlineClient_client none endpoint h.mem hheader hjti
  have hrecordClient : ∀ now, recordClientAssertionReplay (assertionClaims "app" exp jti) now =
      checkAndRecord (clientReplayKey "app" jti) exp now mapClientAssertionReplayError := by
    intro now
    rw [recordClientAssertionReplay, hjti]
    rfl
  rw [admitOnline, hauth, bind_assoc, run_assertionChecks_bind env hclient hspan, pure_bind]
  simp only [hrecordClient]
  rw [run_unixNow_bind, run_checkAndRecord_ok (fun n => env (n + 1 + 1)) hrecord]
  rfl

/-- The stores after putting one more token on the list. -/
def listed (stores : Stores) (token : String) (exp now : Int64) (maxSeen : Nat) : Stores :=
  { stores with revoked := (Revoked.revoke stores.revoked token exp now maxSeen).2 }

/-- Revoking an active token. -/
theorem serve_revoke_minted (env : Nat → Tick) {s minted : Signed} {exp iat mintedExp : Int64}
    {jti clientId : String} {act : Option ActClaim} {cnfJkt : Option String}
    (h : Issued "app" exp jti s)
    (hjti : clientAssertionJti (assertionClaims "app" exp jti) = .ok jti)
    (hspan : exp - 40 ≤ 300 + 30) (hclient : (env 0).now ≤ exp + 30)
    (hrecord : (stores.replay.checkAndRecord (clientReplayKey "app" jti) exp (env 1).now).1 =
      .ok ())
    (hminted : (minted, mintedClaims iat mintedExp clientId act cnfJkt) ∈ mintedTokens)
    (hactive : stsTokenClaims (state mode maxSeen hmax) minted.token (env 3).now =
      some (mintedClaims iat mintedExp clientId act cnfJkt))
    (hrevoke : (Revoked.revoke stores.revoked minted.token mintedExp (env 4).now maxSeen).1 =
      .ok ()) :
    serve (state mode maxSeen hmax) (revokeRequest minted.token s) env stores =
      ⟨.ok (.revocation tokenHeaders),
        listed (recorded stores (clientReplayKey "app" jti) exp (env 1).now) minted.token mintedExp
          (env 4).now maxSeen,
        [nowIs (env 0).now, nowIs (env 1).now,
          recordIs (clientReplayKey "app" jti) exp (env 1).now (.ok ()), nowIs (env 3).now,
          nowIs (env 4).now, ⟨.revoke minted.token mintedExp (env 4).now maxSeen, .ok ()⟩]⟩ := by
  have hlen : len minted.token ≤ 8192 :=
    len_token (List.mem_cons_of_mem _ (mem_signed_of_mem_mintedTokens hminted))
  have hmaxSeen : (state mode maxSeen hmax).config.maxSeenJti = maxSeen := rfl
  have hplace : (Revoked.revoke (recorded stores (clientReplayKey "app" jti) exp (env 1).now).revoked
      minted.token mintedExp (env 4).now maxSeen).1 = .ok () := by
    rw [recorded, hrevoke]
  show (revoke formHeaders (state mode maxSeen hmax) (form (onlinePairs minted.token s)) >>=
    fun headers => pure (Reply.revocation headers)).run (machine (state mode maxSeen hmax)) env
      stores = _
  simp only [revoke, bind_assoc]
  rw [run_online_bind env (plain_token minted) (isBlank_token minted) hlen h hjti hspan hclient
    hrecord]
  simp only [verifiedStsAccessToken_unchecked, hactive, revokeIfActive, pure_bind, bind_assoc]
  rw [run_unixNow_bind, hmaxSeen]
  simp only [Nat.zero_add, mintedClaims]
  rw [run_revokeToken_ok _ hplace]
  rfl

/-- What is kept once `mintedDelegation` was revoked by `client1` at 60. -/
def afterRevocation (maxSeen : Nat) (hmax : 1 ≤ maxSeen) : Stores :=
  listed (recorded (.initial (config .both maxSeen hmax)) (clientReplayKey "app" "c1") 100 60)
    mintedDelegation.token 105 60 maxSeen

theorem serve_revoke_delegation (hmax : 1 ≤ maxSeen) :
    serve (state .both maxSeen hmax) (revokeRequest mintedDelegation.token client1)
      (clock 60 (by decide)) (.initial (config .both maxSeen hmax)) =
        ⟨.ok (.revocation tokenHeaders), afterRevocation maxSeen hmax,
          [nowIs 60, nowIs 60, recordIs (clientReplayKey "app" "c1") 100 60 (.ok ()), nowIs 60,
            nowIs 60, ⟨.revoke mintedDelegation.token 105 60 maxSeen, .ok ()⟩]⟩ := by
  have hrecord : ((Stores.initial (config .both maxSeen hmax)).replay.checkAndRecord
      (clientReplayKey "app" "c1") 100 60).1 = .ok () := by
    rw [InMemoryReplayStore.checkAndRecord_ok_iff]
    have hblank : isBlank (clientReplayKey "app" "c1") = false := by decide
    exact ⟨hblank, AList.notMem_empty _, hmax⟩
  have hminted : (mintedDelegation, delegatedClaims) ∈ mintedTokens := List.mem_cons_self ..
  have hroom : (Revoked.revoke (Stores.initial (config .both maxSeen hmax)).revoked
      mintedDelegation.token 105 60 maxSeen).1 = .ok () := by
    rw [Revoked.revoke, if_neg fun hfull => Nat.not_le.mpr hmax hfull.2]
  exact serve_revoke_minted (clock 60 (by decide)) issued_client1 clientJti_c1 (by decide)
    (by decide) hrecord hminted
    (stsTokenClaims_minted hminted rfl (by decide) (by decide) (by decide)) hroom

theorem revoked_afterRevocation (hmax : 1 ≤ maxSeen) : (afterRevocation maxSeen hmax).revoked =
    AList.insert (revocationKey mintedDelegation.token) 105 ∅ := by
  rw [afterRevocation, listed, recorded, Revoked.revoke,
    if_neg fun hfull => Nat.not_le.mpr hmax hfull.2]
  rfl

theorem ne_token_of_ne {s s' : Signed} (h : s ≠ s') : s.token ≠ s'.token := by
  intro heq
  have hread := readCompact_token s
  rw [heq, readCompact_token s'] at hread
  exact h (Option.some.inj hread).symm

/-- A server with a single place on its list, and what it keeps once that is taken. -/
abbrev onePlace : HttpState := state .both 1 Nat.one_pos

abbrev full : Stores := afterRevocation 1 Nat.one_pos

theorem mem_sweepRevoked_full {token : String} :
    revocationKey token ∈ sweepRevoked full.revoked 102 ↔ token = mintedDelegation.token := by
  have hsweep : sweepRevoked full.revoked 102 =
      AList.insert (revocationKey mintedDelegation.token) 105 ∅ := by
    rw [full, revoked_afterRevocation]
    rfl
  rw [hsweep, AList.mem_insert]
  constructor
  · rintro (heq | hmem)
    · exact revocationKey_injective sha256_injective heq
    · exact absurd hmem (AList.notMem_empty _)
  · rintro rfl
    exact Or.inl rfl

theorem revocationListFull_full : RevocationListFull onePlace full.revoked 102 := by
  rw [RevocationListFull, full, revoked_afterRevocation]
  exact Nat.le_refl 1

/-- The second client is admitted after the first one's assertion has run out. -/
theorem run_admitOnline_full :
    ∃ admitted, (admitOnline onePlace (clientForm client2) onePlace.revocationEndpoint).run
        (machine onePlace) (clock 102 (by decide)) full =
      ⟨.ok 102, admitted, [nowIs 102, nowIs 102,
        recordIs (clientReplayKey "app" "c2") 105 102 (.ok ()), nowIs 102]⟩ := by
  have hrecord : (full.replay.checkAndRecord (clientReplayKey "app" "c2") 105 102).1 = .ok () :=
    toOption_eq_some.mp (by decide)
  exact ⟨_, run_admitOnline (clock 102 (by decide)) issued_client2 clientJti_c2 (by decide)
    (by decide) hrecord⟩

theorem not_toBeListed_x : ¬ ToBeListed onePlace full.revoked "x" 102 102 := by
  intro ⟨hactive, _⟩
  exact absurd hactive (by decide)

/-- The list is full, and neither token needs a place: one is no token, the other is on
the list. -/
theorem revoked_and_unknown_agree :
    (serve onePlace (revokeRequest mintedDelegation.token client2) (clock 102 (by decide))
        full).outcome =
      (serve onePlace (revokeRequest "x" client2) (clock 102 (by decide)) full).outcome := by
  obtain ⟨admitted, hadmitted⟩ := run_admitOnline_full
  have hlen : len mintedDelegation.token ≤ 8192 :=
    len_token (List.mem_cons_of_mem _ (mem_signed_of_mem_mintedTokens (List.mem_cons_self ..)))
  have hplain : Plain "x" := by decide
  have hother : ¬ ToBeListed onePlace full.revoked mintedDelegation.token 102 102 := by
    intro ⟨_, hnew⟩
    exact hnew (mem_sweepRevoked_full.mpr rfl)
  exact (revocation_answers_agree_iff (parseOnlineTokenForm_client (plain_token _) (isBlank_token _)
    client2) (parseOnlineTokenForm_client hplain (by decide) client2) (isBlank_token _) (by decide)
    hlen (by decide) hadmitted).mpr (Or.inr (iff_of_false hother not_toBeListed_x))

/-- The same server gives a token away that is active and new to it. -/
theorem full_list_discloses :
    let full := (serve onePlace (revokeRequest mintedDelegation.token client1) (clock 60 (by decide))
      (.initial onePlace.config)).state
    (serve onePlace (revokeRequest mintedProof100.token client2) (clock 102 (by decide))
        full).outcome =
      .error (.serviceUnavailable "revocation store full, retry shortly") ∧
    (serve onePlace (revokeRequest "x" client2) (clock 102 (by decide)) full).outcome =
      .ok (.revocation tokenHeaders) := by
  intro full'
  have hstate : full' = full := congrArg Result.state (serve_revoke_delegation (by decide))
  rw [hstate]
  obtain ⟨admitted, hadmitted⟩ := run_admitOnline_full
  have hmem : (mintedProof100, mintedClaims 100 105 "agent" (some (.mk "agent" none none))
      (some thumbprint)) ∈ mintedTokens :=
    List.mem_cons_of_mem _ (List.mem_cons_of_mem _ (List.mem_cons_of_mem _ (List.mem_cons_self ..)))
  have hlen : len mintedProof100.token ≤ 8192 :=
    len_token (List.mem_cons_of_mem _ (mem_signed_of_mem_mintedTokens hmem))
  have hplain : Plain "x" := by decide
  have hlisted : ToBeListed onePlace full.revoked mintedProof100.token 102 102 := by
    refine ⟨?_, ?_⟩
    · rw [stsTokenClaims_minted hmem rfl (by decide) (by decide) (by decide)]
      rfl
    · rw [mem_sweepRevoked_full]
      exact ne_token_of_ne (by decide)
  constructor
  · rcases serve_revoke_outcome (parseOnlineTokenForm_client (plain_token _) (isBlank_token _)
      client2) (isBlank_token _) hlen hadmitted with ⟨-, -, heq⟩ | ⟨hfree, -⟩
    · exact heq
    · exact absurd ⟨hlisted, revocationListFull_full⟩ hfree
  · rcases serve_revoke_outcome (parseOnlineTokenForm_client hplain (by decide) client2)
      (by decide) (by decide) hadmitted with ⟨hx, -, -⟩ | ⟨-, heq⟩
    · exact absurd hx not_toBeListed_x
    · exact heq

end Sample

end StsDelegate

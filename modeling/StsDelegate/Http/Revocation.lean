import StsDelegate.Http.Disclosure

/-!
# Revocation lasts

Requests are served one after another, and the clock does not go back. Every introspection
and every revocation sweeps the list at a moment the request has read, so an entry leaves
the list only when some request has read a moment after its end. From then on the token
is over anyway, and until then it is on the list: that is what `Remembered` says, what one
call preserves (`ListCall.remembers`), and with it every request and every run.
-/

namespace StsDelegate

open Text Fallible Effectful Prog

section Server

variable [Crates] {state : HttpState} {token : String} {exp : Int64} {past : List Int64}

/-! ### The list -/

/-- The token is on the list until its end, or its end is in the past. -/
def Remembered (revoked : Revoked) (token : String) (exp : Int64) (past : List Int64) : Prop :=
  revoked.lookup (revocationKey token) = some exp ∨ ∃ now ∈ past, exp < now

theorem Remembered.mono {revoked : Revoked} {past' : List Int64}
    (h : Remembered revoked token exp past) (hsub : past ⊆ past') :
    Remembered revoked token exp past' := by
  rcases h with hlisted | ⟨now, hnow, hover⟩
  · exact Or.inl hlisted
  · exact Or.inr ⟨now, hsub hnow, hover⟩

/-- A sweep at a moment that was read leaves the token on the list unless it is over. -/
theorem Remembered.sweep {revoked : Revoked} {now : Int64} (h : Remembered revoked token exp past)
    (hnow : now ∈ past) : Remembered (sweepRevoked revoked now) token exp past := by
  rcases h with hlisted | hover
  · rcases Int64.lt_or_le exp now with hlt | hle
    · exact Or.inr ⟨now, hnow, hlt⟩
    · exact Or.inl (ExpiryMap.lookup_sweep.mpr ⟨hlisted, hle⟩)
  · exact Or.inr hover

/-- Neither a refused entry nor an entry for another token changes that. -/
theorem Remembered.revoke (hsha : Function.Injective Crates.sha256) {revoked : Revoked}
    {token' : String} {exp' now : Int64} {maxSeen : Nat} (h : Remembered revoked token exp past)
    (hnow : now ∈ past) (hexp : token = token' → exp' = exp) :
    Remembered (Revoked.revoke revoked token' exp' now maxSeen).2 token exp past := by
  have hswept := h.sweep hnow
  rw [Revoked.revoke]
  split
  · exact hswept
  · rcases hswept with hlisted | hover
    · left
      show AList.lookup (revocationKey token) (AList.insert _ _ _) = _
      by_cases hsame : token = token'
      · rw [← hsame, AList.lookup_insert, hexp hsame]
      · have hkey : revocationKey token ≠ revocationKey token' := by
          intro heq
          exact hsame (revocationKey_injective hsha heq)
        rw [AList.lookup_insert_ne hkey]
        exact hlisted
    · exact Or.inr hover

/-- An entry that is accepted is on the list. -/
theorem remembered_of_revoke {revoked : Revoked} {now : Int64} {maxSeen : Nat}
    (h : (Revoked.revoke revoked token exp now maxSeen).1 = .ok ()) :
    Remembered (Revoked.revoke revoked token exp now maxSeen).2 token exp past := by
  rw [Revoked.revoke] at h ⊢
  split at h
  · cases h
  · next hroom =>
      rw [if_neg hroom]
      exact Or.inl (AList.lookup_insert _)

/-! ### The calls of a request -/

omit [Crates] in
theorem mem_readings {now : Int64} {t : List Ev} : now ∈ readings t ↔ nowIs now ∈ t := by
  rw [readings, List.mem_filterMap]
  constructor
  · intro ⟨ev, hev, hread⟩
    split at hread
    · cases hread
      exact hev
    · cases hread
  · intro h
    exact ⟨nowIs now, h, rfl⟩

omit [Crates] in
theorem readings_append (t t' : List Ev) : readings (t ++ t') = readings t ++ readings t' :=
  List.filterMap_append

/-- What a request with this trace does with the list next: nothing, or it looks a token
up or enters it at a moment it has read. Only a token that was active is entered, and with
its own end. -/
inductive ListCall (state : HttpState) (t : List Ev) : Call → Prop
  | keeps {c : Call} (h : KeepsRevoked c) : ListCall state t c
  | lookUp {token : String} {now : Int64} (h : nowIs now ∈ t) :
      ListCall state t (.isRevokedOrUnavailable token now)
  | enter {token : String} {now moment : Int64} {claims : MintedClaims} (h : nowIs now ∈ t)
      (hclaims : stsTokenClaims state token moment = some claims) :
      ListCall state t (.revoke token claims.exp now state.config.maxSeenJti)

theorem only_recordOnline {headers : HeaderMap} {body : Bytes} {endpoint : String} :
    Only KeepsRevoked (recordOnline headers state body endpoint) := by
  have hclock : Only KeepsRevoked (unixNow : Handler HttpError Int64) :=
    only_perform (keepsRevoked_of_readsClock rfl)
  have hrecord : ∀ claims now,
      Only KeepsRevoked (recordClientAssertionReplay claims now : Handler HttpError Unit) :=
    fun claims now => only_bind only_ofExcept fun _ =>
      only_bind (only_perform (keepsRevoked_checkAndRecord _ _ _)) fun _ => only_ofExcept
  refine only_bind (fun t c hcalls => keepsRevoked_of_readsClock (only_verifyOnline t c hcalls))
    fun _ => only_bind hclock fun _ => only_bind (hrecord _ _) fun _ => only_bind hclock fun _ =>
      only_done

theorem keepsRevoked_newJti : KeepsRevoked .newJti := fun _ _ _ => rfl

theorem keepsRevoked_signClaims (claims : MintedClaims) : KeepsRevoked (.signClaims claims) :=
  fun _ _ _ => rfl

theorem only_tokenInner {headers : HeaderMap} {body : Bytes} :
    Only KeepsRevoked (tokenInner headers state body) := by
  intro t c h
  rw [tokenInner_eq, calls_bind] at h
  rcases h with h | ⟨plan, t₁, t₂, -, -, h⟩
  · exact keepsRevoked_of_readsClock (only_planExchange _ _ h)
  · rw [commit, calls_bind] at h
    rcases h with h | ⟨_, t₃, t₄, -, -, h⟩
    · obtain ⟨credential, -, rfl⟩ := calls_recordAll h
      exact keepsRevoked_checkAndRecord _ _ _
    · rcases calls_issueToken h with rfl | ⟨claims, rfl⟩
      · exact keepsRevoked_newJti
      · exact keepsRevoked_signClaims claims

theorem calls_introspectionResponseForToken {now : Int64} {t : List Ev} {c : Call}
    (h : Calls (introspectionResponseForToken state token now) t c) :
    c = .isRevokedOrUnavailable token now := by
  rw [introspectionResponseForToken, calls_bind] at h
  rcases h with h | ⟨_, _, _, -, -, h⟩
  · unfold verifiedStsAccessToken at h
    split at h
    · exact absurd h calls_done
    · rw [if_pos rfl, calls_bind] at h
      rcases h with h | ⟨_, _, _, -, -, h⟩
      · exact (calls_perform.mp h).2
      · exact absurd h calls_done
  · exact absurd h calls_done

theorem calls_revokeIfActive {claims : MintedClaims} {t : List Ev} {c : Call}
    (h : Calls (revokeIfActive state token (some claims)) t c) :
    ReadsClock c ∨
      ∃ now, nowIs now ∈ t ∧ c = .revoke token claims.exp now state.config.maxSeenJti := by
  rw [revokeIfActive, calls_unixNow_bind] at h
  rcases h with ⟨-, hclock⟩ | ⟨now, t', rfl, h⟩
  · exact Or.inl hclock
  · rw [revokeToken, calls_bind] at h
    rcases h with h | ⟨_, _, _, -, -, h⟩
    · exact Or.inr ⟨now, List.mem_cons_self .., (calls_perform.mp h).2⟩
    · exact absurd h calls_ofExcept

/-- An online request has read the moment at which it looks at its token. -/
theorem now_mem_of_returns_recordOnline {headers : HeaderMap} {body : Bytes}
    {endpoint : String} {claims : AssertionClaims} {now : Int64} {t : List Ev}
    (h : Returns (recordOnline headers state body endpoint) t (token, claims, now)) :
    nowIs now ∈ t := by
  obtain ⟨t₁, recordNow, rfl, -, -⟩ := returns_recordOnline h
  simp

/-- The calls of every request are of that kind. -/
theorem listCall_of_calls {request : Request} {t : List Ev} {c : Call}
    (h : Calls (handle state request) t c) : ListCall state t c := by
  unfold handle at h
  split at h
  · rw [calls_bind] at h
    rcases h with h | ⟨_, t₁, t₂, -, -, h⟩
    · exact .keeps (only_tokenInner _ _ h)
    · exact absurd h calls_done
  · rw [introspect_eq, bind_assoc, calls_bind] at h
    rcases h with h | ⟨⟨token, claims, now⟩, t₁, t₂, rfl, hrecord, h⟩
    · exact .keeps (only_recordOnline _ _ h)
    · rw [bind_assoc, calls_bind] at h
      rcases h with h | ⟨_, t₃, t₄, -, -, h⟩
      · rw [calls_introspectionResponseForToken h]
        exact .lookUp (List.mem_append_left _ (now_mem_of_returns_recordOnline hrecord))
      · exact absurd h calls_done
  · rw [revoke_eq, bind_assoc, calls_bind] at h
    rcases h with h | ⟨⟨token, claims, now⟩, t₁, t₂, rfl, -, h⟩
    · exact .keeps (only_recordOnline _ _ h)
    · simp only [verifiedStsAccessToken_unchecked, pure_bind, bind_assoc] at h
      rw [calls_bind] at h
      rcases h with h | ⟨_, t₃, t₄, -, -, h⟩
      · cases hclaims : stsTokenClaims state token now with
        | none =>
            rw [hclaims] at h
            exact absurd h calls_done
        | some tokenClaims =>
            rw [hclaims] at h
            rcases calls_revokeIfActive h with hclock | ⟨later, hlater, rfl⟩
            · exact .keeps (keepsRevoked_of_readsClock hclock)
            · exact .enter (List.mem_append_right _ hlater) hclaims
      · exact absurd h calls_done

/-! ### Steps and runs -/

/-- The stores once these requests have been served one after another. -/
def storesAfter (state : HttpState) : List (Request × (Nat → Tick)) → Stores → Stores
  | [], stores => stores
  | (request, ticks) :: rest, stores =>
      storesAfter state rest (serve state request ticks stores).state

/-- The readings of the clock while they are served. -/
def clockOf (state : HttpState) (requests : List (Request × (Nat → Tick))) (stores : Stores) :
    List Int64 :=
  (serveAll state requests stores).flatMap fun r => readings r.trace

theorem clockOf_cons (served : Request × (Nat → Tick)) (rest : List (Request × (Nat → Tick)))
    (stores : Stores) :
    clockOf state (served :: rest) stores =
      readings (serve state served.1 served.2 stores).trace ++
        clockOf state rest (serve state served.1 served.2 stores).state :=
  rfl

theorem clockOf_append (before after : List (Request × (Nat → Tick))) (stores : Stores) :
    clockOf state (before ++ after) stores =
      clockOf state before stores ++ clockOf state after (storesAfter state before stores) := by
  induction before generalizing stores with
  | nil => rfl
  | cons served rest ih =>
      rw [List.cons_append, clockOf_cons, clockOf_cons, ih, List.append_assoc]
      rfl

theorem storesAfter_single (served : Request × (Nat → Tick)) (stores : Stores) :
    storesAfter state [served] stores = (serve state served.1 served.2 stores).state :=
  rfl

theorem storesAfter_append (before after : List (Request × (Nat → Tick))) (stores : Stores) :
    storesAfter state (before ++ after) stores =
      storesAfter state after (storesAfter state before stores) := by
  induction before generalizing stores with
  | nil => rfl
  | cons served rest ih => exact ih _

/-- The claims of an active token do not depend on the moment. -/
theorem stsTokenClaims_unique {now now' : Int64} {claims claims' : MintedClaims}
    (h : stsTokenClaims state token now = some claims)
    (h' : stsTokenClaims state token now' = some claims') : claims = claims' := by
  obtain ⟨alg, kid, hread⟩ := (stsTokenClaims_eq_some.mp h).verified
  obtain ⟨alg', kid', hread'⟩ := (stsTokenClaims_eq_some.mp h').verified
  rw [hread] at hread'
  cases hread'
  rfl

section Runs

variable (hsha : Function.Injective Crates.sha256) {moment : Int64} {claims : MintedClaims}
  (hclaims : stsTokenClaims state token moment = some claims)

include hsha hclaims

/-- One call. -/
theorem ListCall.remembers {t : List Ev} {c : Call} {stores : Stores} (tick : Tick)
    (h : ListCall state t c) (hread : readings t ⊆ past)
    (hlisted : Remembered stores.revoked token claims.exp past) :
    Remembered ((machine state).answer c tick stores).2.revoked token claims.exp past := by
  cases h with
  | keeps hkeeps =>
      rw [hkeeps]
      exact hlisted
  | lookUp hnow => exact hlisted.sweep (hread (mem_readings.mpr hnow))
  | enter hnow hother =>
      refine hlisted.revoke hsha (hread (mem_readings.mpr hnow)) ?_
      intro hsame
      subst hsame
      rw [stsTokenClaims_unique hother hclaims]

/-- One request, which may enter the token itself. -/
theorem serve_remembers (request : Request) (ticks : Nat → Tick) (stores : Stores)
    (h : Remembered stores.revoked token claims.exp past ∨
      ∃ now maxSeen, (⟨.revoke token claims.exp now maxSeen, .ok ()⟩ : Ev) ∈
        (serve state request ticks stores).trace) :
    Remembered (serve state request ticks stores).state.revoked token claims.exp
      (past ++ readings (serve state request ticks stores).trace) := by
  refine run_invariant
    (P := fun t stores' => (Remembered stores.revoked token claims.exp past ∨
      ∃ now maxSeen, (⟨.revoke token claims.exp now maxSeen, .ok ()⟩ : Ev) ∈ t) →
        Remembered stores'.revoked token claims.exp (past ++ readings t)) ?_ ticks ?_ h
  · intro t stores' c tick hcalls ih hbefore
    have hkeeps : Remembered stores'.revoked token claims.exp (past ++ readings t) →
        Remembered ((machine state).answer c tick stores').2.revoked token claims.exp
          (past ++ readings (t ++ [⟨c, ((machine state).answer c tick stores').1⟩])) := by
      intro hlisted
      have hnext := (listCall_of_calls hcalls).remembers hsha hclaims tick
        (List.subset_append_right past (readings t)) hlisted
      refine hnext.mono ?_
      rw [readings_append, ← List.append_assoc]
      exact List.subset_append_left _ _
    rcases hbefore with hlisted | ⟨now, maxSeen, hmem⟩
    · exact hkeeps (ih (Or.inl hlisted))
    · rcases List.mem_append.mp hmem with hmem | hmem
      · exact hkeeps (ih (Or.inr ⟨now, maxSeen, hmem⟩))
      · -- this call enters the token
        have hev := List.mem_singleton.mp hmem
        have hcall : Call.revoke token claims.exp now maxSeen = c := congrArg Sigma.fst hev
        subst hcall
        have hanswer := (Sigma.mk.inj hev).2
        exact remembered_of_revoke (eq_of_heq hanswer).symm
  · intro hbefore
    rcases hbefore with hlisted | ⟨now, maxSeen, hmem⟩
    · exact hlisted.mono (List.subset_append_left _ _)
    · exact absurd hmem List.not_mem_nil

/-- Requests one after another. -/
theorem storesAfter_remembers (requests : List (Request × (Nat → Tick))) {stores : Stores}
    (h : Remembered stores.revoked token claims.exp past) :
    Remembered (storesAfter state requests stores).revoked token claims.exp
      (past ++ clockOf state requests stores) := by
  induction requests generalizing stores past with
  | nil => exact h.mono (List.subset_append_left _ _)
  | cons served rest ih =>
      have hserved := serve_remembers hsha hclaims served.1 served.2 stores (Or.inl h)
      have hrest := ih hserved
      rw [List.append_assoc] at hrest
      rw [clockOf_cons]
      exact hrest

end Runs

/-! ### The two ends -/

/-- The token an online request is about. -/
def Request.onlineToken (request : Request) : Option String :=
  (parseOnlineTokenForm request.headers request.body).toOption.bind OnlineTokenForm.token

omit [Crates] in
def isRecord : Ev → Bool
  | ⟨.checkAndRecord _ _ _, _⟩ => true
  | _ => false

omit [Crates] in
/-- The moment at which an online request looks at its token: the reading that follows the
record of its client's assertion. -/
def momentOf (t : List Ev) : Option Int64 :=
  (readings (t.dropWhile fun ev => !isRecord ev)).head?

theorem onlineToken_of_returns {request : Request} {endpoint token' : String}
    {claims : AssertionClaims} {now : Int64} {t : List Ev}
    (h : Returns (recordOnline request.headers state request.body endpoint) t (token', claims, now))
    (htoken : request.onlineToken = some token) : token' = token := by
  obtain ⟨t₁, recordNow, -, -, hverified⟩ := returns_recordOnline h
  obtain ⟨form, hform, hrequired, -⟩ := hverified.form
  simp only [requiredOnlineToken, bind_eq_ok, okOr_eq_ok, pure_eq_ok,
    Option.filter_eq_some_iff] at hrequired
  obtain ⟨token'', ⟨hsome, -⟩, -, -, heq⟩ := hrequired
  rw [Request.onlineToken, hform, Except.toOption, Option.bind_some, hsome] at htoken
  exact heq.symm.trans (Option.some.inj htoken)

omit [Crates] in
theorem momentOf_recordOnline {t t' : List Ev} {key : String} {exp recordNow now : Int64}
    {answer : Except ReplayError Unit} (h : ∀ ev ∈ t, ReadsClock ev.1) :
    momentOf (t ++ [nowIs recordNow, recordIs key exp recordNow answer, nowIs now] ++ t') =
      some now := by
  have hdrop : ∀ ev ∈ t, (!isRecord ev) = true := by
    intro ⟨c, a⟩ hmem
    cases h _ hmem
    rfl
  rw [momentOf, List.append_assoc, List.dropWhile_append_of_pos hdrop]
  rfl

/-- A revocation that was answered has entered its token, if that was active. -/
theorem entered_of_returns_revoke {request : Request} {headers : HeaderMap} {t : List Ev}
    {moment : Int64} {claims : MintedClaims}
    (h : Returns (revoke request.headers state request.body) t headers)
    (htoken : request.onlineToken = some token) (hmoment : momentOf t = some moment)
    (hclaims : stsTokenClaims state token moment = some claims) :
    ∃ now maxSeen, (⟨.revoke token claims.exp now maxSeen, .ok ()⟩ : Ev) ∈ t := by
  rw [revoke_eq, returns_bind] at h
  obtain ⟨⟨token', assertion, now⟩, t₁, t₂, rfl, hrecord, h⟩ := h
  have hsame := onlineToken_of_returns hrecord htoken
  subst hsame
  obtain ⟨t₃, recordNow, rfl, hclock, -⟩ := returns_recordOnline hrecord
  rw [momentOf_recordOnline hclock] at hmoment
  cases hmoment
  simp only [verifiedStsAccessToken_unchecked, pure_bind, hclaims, revokeIfActive, bind_assoc] at h
  rw [returns_unixNow_bind] at h
  obtain ⟨later, t₄, rfl, h⟩ := h
  rw [returns_bind] at h
  obtain ⟨_, t₅, t₆, rfl, hentered, -⟩ := h
  obtain ⟨answer, rfl, hok⟩ := returns_perform_bind.mp hentered
  subst hok
  exact ⟨later, state.config.maxSeenJti, by simp⟩

/-- A token that is remembered is inactive from the last moment on. -/
theorem Remembered.inactive {revoked : Revoked} {claims : MintedClaims} {now : Int64}
    (h : Remembered revoked token claims.exp past) (hclock : ∀ moment ∈ past, moment ≤ now)
    (hopen : now < claims.exp) : revocationKey token ∈ sweepRevoked revoked now := by
  rcases h with hlisted | ⟨moment, hmoment, hover⟩
  · have hkept : (sweepRevoked revoked now).lookup (revocationKey token) = some claims.exp :=
      ExpiryMap.lookup_sweep.mpr ⟨hlisted, Int64.le_of_lt hopen⟩
    rw [← AList.lookup_isSome, hkept]
    rfl
  · have hlater : moment < claims.exp := Int64.lt_of_le_of_lt (hclock moment hmoment) hopen
    exact absurd (Int64.lt_trans hover hlater) Int64.lt_irrefl

theorem handle_introspect {request : Request} (h : request.endpoint = .introspect) :
    handle state request = (do
      let out ← recordOnline request.headers state request.body state.introspectionEndpoint
      let response ← introspectionResponseForToken state out.1 out.2.2
      pure (.introspection tokenHeaders response)) := by
  simp only [handle, h, introspect_eq, bind_assoc, pure_bind]

/-- The look at the token of an introspection request. -/
theorem introspectAt_of_remembered {stores : Stores} {moment now : Int64} {claims : MintedClaims}
    (ticks : Nat → Tick) (hclaims : stsTokenClaims state token moment = some claims)
    (hlisted : Remembered stores.revoked token claims.exp past)
    (hclock : ∀ moment ∈ past, moment ≤ now) :
    ((introspectionResponseForToken state token now).run (machine state) ticks stores).outcome =
      .ok inactiveResponse := by
  rw [introspectionResponseForToken_outcome]
  cases hnow : stsTokenClaims state token now with
  | none => rfl
  | some claims' =>
      have hopen := (stsTokenClaims_eq_some.mp hnow).exp
      rw [stsTokenClaims_unique hnow hclaims] at hopen
      simp only [if_pos (hlisted.inactive hclock hopen)]

/-- So introspection reports it. -/
theorem introspection_of_remembered {request : Request} {ticks : Nat → Tick} {stores : Stores}
    {moment : Int64} {claims : MintedClaims} {headers : HeaderMap} {response : Json}
    (h : (serve state request ticks stores).outcome = .ok (.introspection headers response))
    (htoken : request.onlineToken = some token)
    (hclaims : stsTokenClaims state token moment = some claims)
    (hlisted : Remembered stores.revoked token claims.exp past)
    (hclock : ∀ now ∈ past, ∀ later ∈ readings (serve state request ticks stores).trace,
      now ≤ later) :
    response = inactiveResponse := by
  have hendpoint : request.endpoint = .introspect := by
    rcases returns_handle (run_returns h) with ⟨_, _, _, _, heq⟩ | ⟨hendpoint, _⟩ | ⟨_, _, _, heq⟩
    · cases heq
    · exact hendpoint
    · cases heq
  rw [serve, handle_introspect hendpoint] at h hclock
  -- authenticating the client changes no list of revoked tokens
  have hframe : ((recordOnline request.headers state request.body state.introspectionEndpoint).run
      (machine state) ticks stores).state.revoked = stores.revoked :=
    run_frame Stores.revoked fun ev hev tick stores' =>
      only_recordOnline.of_mem (run_steps _ _ ticks stores) ev hev state tick stores'
  cases hrecord : ((recordOnline request.headers state request.body
      state.introspectionEndpoint).run (machine state) ticks stores).outcome with
  | error err =>
      rw [run_bind_error hrecord] at h
      cases h
  | ok out =>
      obtain ⟨token', assertion, now⟩ := out
      have hreturns := run_returns hrecord
      have hsame := onlineToken_of_returns hreturns htoken
      subst hsame
      -- the moment of the answer is a reading of the clock in this very request
      have hbefore : ∀ moment ∈ past, moment ≤ now := by
        intro moment hmoment
        have hprefix := trace_prefix_run_bind (machine state)
          (recordOnline request.headers state request.body state.introspectionEndpoint)
          (fun out => do
            let response ← introspectionResponseForToken state out.1 out.2.2
            pure (Reply.introspection tokenHeaders response)) ticks stores
        have hnow := hprefix.subset (now_mem_of_returns_recordOnline hreturns)
        exact hclock moment hmoment now (mem_readings.mpr hnow)
      rw [← hframe] at hlisted
      rw [run_bind_ok hrecord] at h
      generalize (recordOnline request.headers state request.body state.introspectionEndpoint).run
        (machine state) ticks stores = admitted at h hlisted
      have hinactive := introspectAt_of_remembered
        (fun n => ticks (n + admitted.trace.length)) hclaims hlisted hbefore
      change ((introspectionResponseForToken state token' now >>= fun response =>
        pure (Reply.introspection tokenHeaders response)).run (machine state)
          (fun n => ticks (n + admitted.trace.length)) admitted.state).outcome = _ at h
      rw [run_bind_ok hinactive] at h
      cases h
      rfl

/-- **Revocation lasts.** If a revocation was answered whose token was active when the
request looked at it, then no introspection that comes later in the same process reports
the token as active, whatever requests are served in between. -/
theorem revocation_sticky (hsha : Function.Injective Crates.sha256)
    {before between : List (Request × (Nat → Tick))} {revocation introspection : Request}
    {ticks ticks' : Nat → Tick} {moment : Int64} {claims : MintedClaims}
    {headers headers' : HeaderMap} {response : Json}
    (hclock : (clockOf state (before ++ (revocation, ticks) :: (between ++
      [(introspection, ticks')])) (.initial state.config)).Pairwise (· ≤ ·))
    (htoken : revocation.onlineToken = some token)
    (hrevoked : (serve state revocation ticks
      (storesAfter state before (.initial state.config))).outcome = .ok (.revocation headers))
    (hmoment : momentOf (serve state revocation ticks
      (storesAfter state before (.initial state.config))).trace = some moment)
    (hclaims : stsTokenClaims state token moment = some claims)
    (htoken' : introspection.onlineToken = some token)
    (hintrospected : (serve state introspection ticks' (storesAfter state
      (before ++ (revocation, ticks) :: between) (.initial state.config))).outcome =
        .ok (.introspection headers' response)) :
    response = inactiveResponse := by
  rw [storesAfter_append] at hintrospected
  rw [clockOf_append, clockOf_cons, clockOf_append, clockOf_cons] at hclock
  generalize storesAfter state before (.initial state.config) = stores at *
  -- the answer came from the branch that puts the token on the list
  have hentered : ∃ now maxSeen, (⟨.revoke token claims.exp now maxSeen, .ok ()⟩ : Ev) ∈
      (serve state revocation ticks stores).trace := by
    rcases returns_handle (run_returns hrevoked) with ⟨_, _, _, _, heq⟩ | ⟨_, _, _, _, heq⟩ |
      ⟨_, _, hreturns, _⟩
    · cases heq
    · cases heq
    · exact entered_of_returns_revoke hreturns htoken hmoment hclaims
  have hlisted : Remembered (serve state revocation ticks stores).state.revoked token claims.exp
      ([] ++ readings (serve state revocation ticks stores).trace) :=
    serve_remembers hsha hclaims revocation ticks stores (Or.inr hentered)
  have hkept := storesAfter_remembers hsha hclaims between hlisted
  refine introspection_of_remembered hintrospected htoken' hclaims hkept ?_
  intro now hnow later hlater
  obtain ⟨-, hafter, -⟩ := List.pairwise_append.mp hclock
  rw [← List.append_assoc] at hafter
  exact (List.pairwise_append.mp hafter).2.2 now hnow later (List.mem_append_left _ hlater)

end Server

namespace Sample

variable {mode : TokenExchangeMode} {maxSeen : Nat} {hmax : 1 ≤ maxSeen} {stores : Stores}

/-- Introspecting a token that is on the list. -/
theorem serve_introspect_minted (env : Nat → Tick) {s minted : Signed} {exp iat mintedExp : Int64}
    {jti clientId : String} {act : Option ActClaim} {cnfJkt : Option String}
    (h : Issued "app" exp jti s)
    (hjti : clientAssertionJti (assertionClaims "app" exp jti) = .ok jti)
    (hspan : exp - 40 ≤ 300 + 30) (hclient : (env 0).now ≤ exp + 30)
    (hrecord : (stores.replay.checkAndRecord (clientReplayKey "app" jti) exp (env 1).now).1 =
      .ok ())
    (hminted : (minted, mintedClaims iat mintedExp clientId act cnfJkt) ∈ mintedTokens)
    (hactive : stsTokenClaims (state mode maxSeen hmax) minted.token (env 3).now =
      some (mintedClaims iat mintedExp clientId act cnfJkt))
    (hlisted : revocationKey minted.token ∈ sweepRevoked stores.revoked (env 3).now) :
    serve (state mode maxSeen hmax) (introspectRequest minted.token s) env stores =
      ⟨.ok (.introspection tokenHeaders inactiveResponse),
        { recorded stores (clientReplayKey "app" jti) exp (env 1).now with
          revoked := sweepRevoked stores.revoked (env 3).now },
        [nowIs (env 0).now, nowIs (env 1).now,
          recordIs (clientReplayKey "app" jti) exp (env 1).now (.ok ()), nowIs (env 3).now,
          (⟨.isRevokedOrUnavailable minted.token (env 3).now, true⟩ : Ev)]⟩ := by
  have hlen : len minted.token ≤ 8192 :=
    len_token (List.mem_cons_of_mem _ (mem_signed_of_mem_mintedTokens hminted))
  have hrevoked : (recorded stores (clientReplayKey "app" jti) exp (env 1).now).revoked =
      stores.revoked := by
    rw [recorded]
  show (introspect formHeaders (state mode maxSeen hmax) (form (onlinePairs minted.token s)) >>=
    fun out => pure (Reply.introspection out.1 out.2)).run (machine (state mode maxSeen hmax)) env
      stores = _
  simp only [introspect, bind_assoc]
  rw [run_online_bind env (plain_token minted) (isBlank_token minted) hlen h hjti hspan hclient
    hrecord]
  simp only [introspectionResponseForToken, verifiedStsAccessToken, hactive, if_true, bind_assoc]
  rw [run_isRevokedOrUnavailable_bind, hrevoked, decide_eq_true hlisted]
  simp only [if_true, pure_bind]
  rfl

/-- A server with two places on its lists. -/
abbrev twoPlaces : HttpState := state .both 2 Nat.two_pos

/-- The token minted by delegation is revoked at 60. -/
abbrev revocation : Request × (Nat → Tick) :=
  (revokeRequest mintedDelegation.token client1, clock 60 (by decide))

/-- It is introspected at 70, when it has not run out. -/
abbrev introspection : Request × (Nat → Tick) :=
  (introspectRequest mintedDelegation.token client2, clock 70 (by decide))

theorem serve_introspect_revoked :
    ∃ stores' t, serve twoPlaces introspection.1 introspection.2 (afterRevocation 2 (by decide)) =
        ⟨.ok (.introspection tokenHeaders inactiveResponse), stores', t⟩ ∧
      readings t = [70, 70, 70] := by
  have hrecord : ((afterRevocation 2 (by decide)).replay.checkAndRecord (clientReplayKey "app" "c2")
      105 70).1 = .ok () := toOption_eq_some.mp (by decide)
  have hlisted : revocationKey mintedDelegation.token ∈
      sweepRevoked (afterRevocation 2 (by decide)).revoked 70 := by
    have hsweep : sweepRevoked (afterRevocation 2 (by decide)).revoked 70 =
        AList.insert (revocationKey mintedDelegation.token) 105 ∅ := by
      rw [revoked_afterRevocation]
      rfl
    rw [hsweep, AList.mem_insert]
    exact Or.inl rfl
  exact ⟨_, _, serve_introspect_minted (clock 70 (by decide)) issued_client2 clientJti_c2
    (by decide) (by decide) hrecord (List.mem_cons_self ..)
    (stsTokenClaims_minted (List.mem_cons_self ..) rfl (by decide) (by decide) (by decide)) hlisted,
    rfl⟩

theorem onlineToken_client {s minted : Signed} (endpoint : Endpoint) :
    Request.onlineToken ⟨endpoint, formHeaders, form (onlinePairs minted.token s)⟩ =
      some minted.token := by
  rw [Request.onlineToken, parseOnlineTokenForm_client (plain_token _) (isBlank_token _) s]
  rfl

theorem clockOf_revocation :
    clockOf twoPlaces [revocation, introspection] (.initial twoPlaces.config) =
      [60, 60, 60, 60, 70, 70, 70] := by
  have hrevoke : serve twoPlaces revocation.1 revocation.2 (.initial twoPlaces.config) = _ :=
    serve_revoke_delegation (by decide)
  obtain ⟨stores', t, hintrospect, hreadings⟩ := serve_introspect_revoked
  rw [clockOf_cons, clockOf_cons, hrevoke, hintrospect, hreadings]
  rfl

theorem revoked_delegation_inactive :
    ∃ headers headers' response,
      (serve twoPlaces revocation.1 revocation.2 (.initial twoPlaces.config)).outcome =
          .ok (.revocation headers) ∧
        (serve twoPlaces introspection.1 introspection.2
            (storesAfter twoPlaces [revocation] (.initial twoPlaces.config))).outcome =
          .ok (.introspection headers' response) ∧
        response = inactiveResponse := by
  have hrevoke : serve twoPlaces revocation.1 revocation.2 (.initial twoPlaces.config) = _ :=
    serve_revoke_delegation (by decide)
  obtain ⟨stores', t, hintrospect, -⟩ := serve_introspect_revoked
  have hafter : storesAfter twoPlaces [revocation] (.initial twoPlaces.config) =
      afterRevocation 2 (by decide) := by
    rw [storesAfter_single, hrevoke]
  have hrevoked : (serve twoPlaces revocation.1 revocation.2
      (.initial twoPlaces.config)).outcome = .ok (.revocation tokenHeaders) := by
    rw [hrevoke]
  have hmoment : momentOf (serve twoPlaces revocation.1 revocation.2
      (.initial twoPlaces.config)).trace = some 60 := by
    rw [hrevoke]
    rfl
  have hintrospected : (serve twoPlaces introspection.1 introspection.2
      (storesAfter twoPlaces [revocation] (.initial twoPlaces.config))).outcome =
        .ok (.introspection tokenHeaders inactiveResponse) := by
    rw [hafter, hintrospect]
  have hclaims : stsTokenClaims twoPlaces mintedDelegation.token 60 = some delegatedClaims :=
    stsTokenClaims_minted (List.mem_cons_self ..) rfl (by decide) (by decide) (by decide)
  have hclock : (clockOf twoPlaces [revocation, introspection]
      (.initial twoPlaces.config)).Pairwise (· ≤ ·) := by
    rw [clockOf_revocation]
    decide
  refine ⟨tokenHeaders, tokenHeaders, inactiveResponse, hrevoked, hintrospected, ?_⟩
  exact @revocation_sticky _ twoPlaces mintedDelegation.token sha256_injective [] [] revocation.1
    introspection.1 revocation.2 introspection.2 60 delegatedClaims tokenHeaders tokenHeaders
    inactiveResponse hclock (onlineToken_client _) hrevoked hmoment hclaims (onlineToken_client _)
    hintrospected

end Sample

end StsDelegate

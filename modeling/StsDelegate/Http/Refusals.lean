import StsDelegate.Http.Atomicity
import StsDelegate.Http.ReplayKeys
import StsDelegate.Http.Revocation

/-!
# Every refusal has a reason

A server can fail its clients in the other direction, too: by refusing a credential that
nobody has used, by taking a token for revoked that nobody has revoked, or by claiming to
be full. What rules this out is an account of the two stores in terms of the calls that
filled them (`Accounted`): an entry stands for a call of the log that put it there, and
there are never more entries than the configured number. So every negative answer in the
log of a run has its reason in the log before it (`Reason`), however the requests of the
run are interleaved (`refusals_justified`).

A request is never refused because of itself: the keys it records are different from each
other (`record_of_calls_handle`).
-/

namespace StsDelegate

open Text Fallible Effectful Prog

/-! ### Bounded stores -/

namespace InMemoryReplayStore

variable {store : InMemoryReplayStore} {jti : String} {exp now : Int64}

theorem size_pruned_le (store : InMemoryReplayStore) (now : Int64) :
    ExpiryMap.size ((store.countCall now).makeRoom now).seen ≤ ExpiryMap.size store.seen := by
  obtain ⟨-, hseen | ⟨hseen, -⟩⟩ := pruned_seen store now
  · rw [hseen, ExpiryMap.size_sweep]
    exact ExpiryMap.live_le_size _ _
  · rw [hseen]

/-- The store never outgrows its bound. -/
theorem size_checkAndRecord (h : ExpiryMap.size store.seen ≤ store.maxSeen) :
    ExpiryMap.size (store.checkAndRecord jti exp now).2.seen ≤ store.maxSeen := by
  have hpruned := Nat.le_trans (size_pruned_le store now) h
  obtain ⟨-, heq⟩ | ⟨-, -, heq⟩ | ⟨-, -, -, heq⟩ | ⟨-, hmem, hroom, heq⟩ :=
    checkAndRecord_cases store jti exp now
  · rw [heq]
    exact h
  · rw [heq]
    exact h
  · rw [heq]
    exact hpruned
  · rw [heq]
    -- there was room for one more, and the key is new
    have hnot : jti ∉ ((store.countCall now).makeRoom now).seen := by
      intro hthere
      rw [← AList.lookup_isSome, Option.isSome_iff_exists] at hthere
      obtain ⟨e, he⟩ := hthere
      rw [← AList.lookup_eq_none, lookup_pruned.1 he] at hmem
      cases hmem
    have hfree : ¬ store.maxSeen ≤ ExpiryMap.size ((store.countCall now).makeRoom now).seen := by
      intro hfull
      rw [← (pruned_seen store now).1] at hfull
      exact absurd hroom (Nat.not_lt.mpr ((pruned_full_iff store now).mp hfull))
    simp only [ExpiryMap.size_insert_of_notMem hnot]
    omega

end InMemoryReplayStore

section Server

variable [Crates] {state : HttpState} {headers : HeaderMap} {body : Bytes} {t : List Ev}

/-- The revocation list never outgrows its bound. -/
theorem Revoked.size_revoke {revoked : Revoked} {token : String} {exp now : Int64} {maxSeen : Nat}
    (h : ExpiryMap.size revoked ≤ maxSeen) :
    ExpiryMap.size (Revoked.revoke revoked token exp now maxSeen).2 ≤ maxSeen := by
  have hswept : ExpiryMap.size (sweepRevoked revoked now) ≤ maxSeen :=
    Nat.le_trans (ExpiryMap.live_le_size now revoked) h
  rw [Revoked.revoke]
  split
  · exact hswept
  · next hroom =>
      simp only [not_and, Nat.not_le] at hroom
      by_cases hmem : revocationKey token ∈ sweepRevoked revoked now
      · rw [ExpiryMap.size_insert_of_mem hmem]
        exact hswept
      · rw [ExpiryMap.size_insert_of_notMem hmem]
        exact hroom hmem

/-- An entry of the list was there before, or is the one that was just accepted. -/
theorem Revoked.lookup_of_lookup_revoke {revoked : Revoked} {token key : String}
    {exp now exp' : Int64} {maxSeen : Nat}
    (h : (Revoked.revoke revoked token exp now maxSeen).2.lookup key = some exp') :
    revoked.lookup key = some exp' ∨
      ((Revoked.revoke revoked token exp now maxSeen).1 = .ok () ∧ key = revocationKey token ∧
        exp' = exp) := by
  rw [Revoked.revoke] at h ⊢
  split at h
  · exact Or.inl (ExpiryMap.lookup_sweep.mp h).1
  · next hroom =>
      rw [if_neg hroom]
      simp only at h
      by_cases hkey : key = revocationKey token
      · subst hkey
        rw [AList.lookup_insert] at h
        exact Or.inr ⟨rfl, rfl, (Option.some.inj h).symm⟩
      · rw [AList.lookup_insert_ne hkey] at h
        exact Or.inl (ExpiryMap.lookup_sweep.mp h).1

/-! ### A request and its own recordings -/

omit [Crates] in
/-- A credential is recorded after those before it. -/
theorem earlier_of_calls_recordAll {now : Int64} {credentials : List Credential} {c : Call}
    (h : Calls (recordAll now credentials) t c) :
    ∃ earlier credential later, credentials = earlier ++ credential :: later ∧
      (t = earlier.map fun c => recordIs c.key c.exp now (.ok ())) ∧
      c = .checkAndRecord credential.key credential.exp now := by
  induction credentials generalizing t with
  | nil => simp [recordAll] at h
  | cons credential rest ih =>
      rw [recordAll, calls_bind] at h
      rcases h with h | ⟨_, t₁, t₂, rfl, hrecorded, h⟩
      · obtain ⟨rfl, hc⟩ := calls_checkAndRecord.mp h
        exact ⟨[], credential, rest, rfl, rfl, hc⟩
      · obtain ⟨earlier, credential', later, rfl, rfl, hc⟩ := ih h
        refine ⟨credential :: earlier, credential', later, rfl, ?_, hc⟩
        rw [returns_checkAndRecord.mp hrecorded]
        rfl

/-- The credentials of a plan have different keys: each kind has its own first letter, and a
plan has at most one of a kind. -/
theorem Planned.nodup_keys {mode : EffectiveExchangeMode} {request : ExchangeRequest} {plan : Plan}
    (h : Planned headers state body t mode request plan) :
    (plan.credentials.map Credential.key).Nodup := by
  have hactorClient : ∀ claims claims', (actorCredential claims).key ≠ (clientCredential claims').key := by
    intro claims claims' heq
    have hlist := congrArg String.toList heq
    simp only [actorCredential, clientCredential, toList_actorReplayKey,
      toList_clientReplayKey] at hlist
    cases hlist
  have hactorDpop : ∀ claims binding, (actorCredential claims).key ≠ (dpopCredential binding).key := by
    intro claims binding heq
    have hlist := congrArg String.toList heq
    simp only [actorCredential, dpopCredential, toList_actorReplayKey, toList_dpopReplayKey] at hlist
    cases hlist
  have hclientDpop : ∀ claims binding,
      (clientCredential claims).key ≠ (dpopCredential binding).key := by
    intro claims binding heq
    have hlist := congrArg String.toList heq
    simp only [clientCredential, dpopCredential, toList_clientReplayKey,
      toList_dpopReplayKey] at hlist
    cases hlist
  rcases h.granted with ⟨-, grant, -, hplan⟩ | ⟨-, grant, -, hplan⟩
  · rw [hplan]
    cases hclient : plan.exchange.clientClaims with
    | none =>
        cases hbinding : plan.exchange.dpopBinding <;>
          simp [delegationPlan, hclient, hbinding, hactorDpop]
    | some claims =>
        cases hbinding : plan.exchange.dpopBinding <;>
          simp [delegationPlan, hclient, hbinding, hactorClient, hactorDpop, hclientDpop]
  · rw [hplan]
    cases hbinding : plan.exchange.dpopBinding <;>
      simp [impersonationPlan, hbinding, hclientDpop]

/-- No key of `t` is recorded there. -/
def NotYetRecorded (key : String) (t : List Ev) : Prop :=
  ∀ exp now answer, recordIs key exp now answer ∉ t

omit [Crates] in
theorem notYetRecorded_of_readsClock {key : String} (h : ∀ ev ∈ t, ReadsClock ev.1) :
    NotYetRecorded key t := by
  intro exp now answer hmem
  have hclock := h _ hmem
  rw [ReadsClock] at hclock
  cases hclock

/-- A token request records a key that is not blank, and that it has not recorded before. -/
theorem notYetRecorded_of_calls_tokenInner {key : String} {exp now : Int64}
    (h : Calls (tokenInner headers state body) t (.checkAndRecord key exp now)) :
    isBlank key = false ∧ NotYetRecorded key t := by
  rw [tokenInner_eq, calls_bind] at h
  rcases h with h | ⟨plan, t₁, t₂, rfl, hplan, h⟩
  · cases only_planExchange _ _ h
  · obtain ⟨mode, request, hplanned⟩ := returns_planExchange hplan
    rw [commit, calls_bind] at h
    rcases h with h | ⟨_, t₃, t₄, rfl, -, h⟩
    · obtain ⟨earlier, credential, later, hcredentials, rfl, hcall⟩ := earlier_of_calls_recordAll h
      cases hcall
      have hmem : credential ∈ plan.credentials := by
        rw [hcredentials]
        exact List.mem_append_right _ (List.mem_cons_self ..)
      refine ⟨hplanned.key_nonblank hmem, fun exp' now' answer hrecorded => ?_⟩
      rcases List.mem_append.mp hrecorded with hrecorded | hrecorded
      · exact notYetRecorded_of_readsClock (only_planExchange.of_mem hplan) _ _ _ hrecorded
      · -- the key would be that of an earlier credential
        obtain ⟨credential', hearlier, heq⟩ := List.mem_map.mp hrecorded
        have hkey : credential'.key = credential.key := by
          have hcalls := congrArg Sigma.fst heq
          simp only [Call.checkAndRecord.injEq] at hcalls
          exact hcalls.1
        have hnodup := hplanned.nodup_keys
        rw [hcredentials, List.map_append, List.map_cons, List.nodup_append] at hnodup
        exact hnodup.2.2 _ (List.mem_map_of_mem hearlier) _ (List.mem_cons_self ..) hkey
    · rcases calls_issueToken h with hwrong | ⟨claims, hwrong⟩
      · cases hwrong
      · cases hwrong

theorem notYetRecorded_of_calls_recordOnline {endpoint key : String} {exp now : Int64}
    (h : Calls (recordOnline headers state body endpoint) t (.checkAndRecord key exp now)) :
    isBlank key = false ∧ NotYetRecorded key t := by
  rw [recordOnline, calls_bind] at h
  rcases h with h | ⟨⟨token, claims⟩, t₁, t₂, rfl, hverify, h⟩
  · cases only_verifyOnline _ _ h
  · rw [calls_unixNow_bind] at h
    rcases h with ⟨-, hwrong⟩ | ⟨recordNow, t₃, rfl, h⟩
    · cases hwrong
    · rw [calls_bind] at h
      rcases h with h | ⟨_, t₄, t₅, rfl, -, h⟩
      · rw [recordClientAssertionReplay, liftM_eq, calls_ofExcept_bind] at h
        obtain ⟨jti, -, h⟩ := h
        obtain ⟨rfl, hcall⟩ := calls_checkAndRecord.mp h
        cases hcall
        refine ⟨?_, notYetRecorded_of_readsClock fun ev hev => ?_⟩
        · rw [clientReplayKey, String.append_assoc, String.append_assoc]
          exact not_isBlank_append (c := 'c') (by decide) (by decide)
        · rcases List.mem_append.mp hev with hev | hev
          · exact only_verifyOnline.of_mem hverify ev hev
          · rw [List.mem_singleton.mp hev]
            rfl
      · rw [calls_unixNow_bind] at h
        rcases h with ⟨-, hwrong⟩ | ⟨now', t₆, -, h⟩
        · cases hwrong
        · exact absurd h calls_done

/-- **No request is in its own way.** -/
theorem notYetRecorded_of_calls_handle {request : Request} {key : String} {exp now : Int64}
    (h : Calls (handle state request) t (.checkAndRecord key exp now)) :
    isBlank key = false ∧ NotYetRecorded key t := by
  unfold handle at h
  split at h
  · rw [calls_bind] at h
    rcases h with h | ⟨_, t₁, t₂, -, -, h⟩
    · exact notYetRecorded_of_calls_tokenInner h
    · exact absurd h calls_done
  · rw [introspect_eq, bind_assoc, calls_bind] at h
    rcases h with h | ⟨out, t₁, t₂, rfl, -, h⟩
    · exact notYetRecorded_of_calls_recordOnline h
    · refine absurd rfl ((?_ : Only RecordsNothing _) _ _ h key exp now)
      exact only_bind (only_bind (only_bind only_verifiedStsAccessToken fun _ => only_done)
        fun _ => only_done) fun _ => only_done
  · rw [revoke_eq, bind_assoc, calls_bind] at h
    rcases h with h | ⟨out, t₁, t₂, rfl, -, h⟩
    · exact notYetRecorded_of_calls_recordOnline h
    · refine absurd rfl ((?_ : Only RecordsNothing _) _ _ h key exp now)
      exact only_bind (only_bind only_verifiedStsAccessToken fun _ =>
        only_bind only_revokeIfActive fun _ => only_done) fun _ => only_done

/-! ### The account -/

/-- A token that was put on the revocation list. -/
abbrev revokeIs (token : String) (exp now : Int64) (maxSeen : Nat)
    (answer : Except HttpError Unit) : Ev :=
  ⟨.revoke token exp now maxSeen, answer⟩

/-- Every entry of the two stores was made by a call of the log, and neither store has more
entries than the configured number. -/
structure Accounted (state : HttpState) (w : ServerPool) : Prop where
  recorded : ∀ key exp, w.state.replay.seen.lookup key = some exp →
    ∃ i now, (i, recordIs key exp now (.ok ())) ∈ w.log
  revoked : ∀ key exp, w.state.revoked.lookup key = some exp →
    ∃ i token now, key = revocationKey token ∧
      (i, revokeIs token exp now state.config.maxSeenJti (.ok ())) ∈ w.log
  maxSeen : w.state.replay.maxSeen = state.config.maxSeenJti
  recorded_size : ExpiryMap.size w.state.replay.seen ≤ state.config.maxSeenJti
  revoked_size : ExpiryMap.size w.state.revoked ≤ state.config.maxSeenJti

theorem accounted_initial :
    Accounted state (Pool.initial (Stores.initial state.config) : ServerPool) where
  recorded key exp h := by
    change (∅ : ExpiryMap String Int64).lookup key = some exp at h
    rw [AList.lookup_empty] at h
    cases h
  revoked key exp h := by
    change (∅ : ExpiryMap String Int64).lookup key = some exp at h
    rw [AList.lookup_empty] at h
    cases h
  maxSeen := rfl
  recorded_size := Nat.zero_le _
  revoked_size := Nat.zero_le _

/-- The keys of a list that still count, as far as the log tells. -/
def CountsIn (log : List (Nat × Ev)) (now : Int64) (key : String) : Prop :=
  ∃ i exp now', (i, recordIs key exp now' (.ok ())) ∈ log ∧ now ≤ exp

/-- The same for the revocation list. -/
def RevokedIn (state : HttpState) (log : List (Nat × Ev)) (now : Int64) (key : String) : Prop :=
  ∃ i token exp now', key = revocationKey token ∧
    (i, revokeIs token exp now' state.config.maxSeenJti (.ok ())) ∈ log ∧ now ≤ exp

/-- `n` different keys have the property: what it takes to fill a store. -/
def Fills (n : Nat) (P : String → Prop) : Prop :=
  ∃ keys : List String, keys.Nodup ∧ keys.length = n ∧ ∀ key ∈ keys, P key

/-- The replay store is full of other credentials that count. -/
def StoreFullFor (state : HttpState) (before : List (Nat × Ev)) (now : Int64) (key : String) :
    Prop :=
  Fills state.config.maxSeenJti fun other => other ≠ key ∧ CountsIn before now other

/-- The revocation list is full of other tokens that have not expired. -/
def ListFullFor (state : HttpState) (before : List (Nat × Ev)) (now : Int64) (token : String) :
    Prop :=
  Fills state.config.maxSeenJti fun other =>
    other ≠ revocationKey token ∧ RevokedIn state before now other

/-- Why a request is answered so, given the log before:

* a credential is refused as replayed only if another request has recorded it, and for lack of
  room only if the configured number of other credentials still count;
* a token is taken for revoked only if it was put on the list and its entry still counts, and
  is refused a place only if the configured number of other tokens are on it. -/
def Reason (state : HttpState) (before : List (Nat × Ev)) : Nat × Ev → Prop
  | (i, ⟨.checkAndRecord key _ now, .error err⟩) =>
      (err.kind = .replayDetected ∧
        ∃ j exp' now', j ≠ i ∧ (j, recordIs key exp' now' (.ok ())) ∈ before) ∨
      (err.kind = .storeFull ∧ StoreFullFor state before now key)
  | (_, ⟨.revoke token _ now _, .error _⟩) => ListFullFor state before now token
  | (_, ⟨.isRevokedOrUnavailable token now, true⟩) =>
      RevokedIn state before now (revocationKey token)
  | _ => True

theorem RevokedIn.of_lookup {w : ServerPool} (h : Accounted state w) {key : String}
    {exp now : Int64} (hlisted : (sweepRevoked w.state.revoked now).lookup key = some exp) :
    RevokedIn state w.log now key := by
  obtain ⟨hentry, hle⟩ := ExpiryMap.lookup_sweep.mp hlisted
  obtain ⟨j, token, now', hkey, hmem⟩ := h.revoked key exp hentry
  exact ⟨j, token, exp, now', hkey, hmem, hle⟩

/-- A refused recording has its reason. -/
theorem reason_record {w : ServerPool} (h : Accounted state w) {i : Nat} {key : String}
    {exp now : Int64} {answer : Except ReplayError Unit} (hnonblank : isBlank key = false)
    (hfirst : NotYetRecorded key (Pool.traceOf i w.log))
    (hanswer : (w.state.replay.checkAndRecord key exp now).1 = answer) :
    Reason state w.log (i, recordIs key exp now answer) := by
  obtain ⟨hblank, -⟩ | ⟨-, hmem, heq⟩ | ⟨-, hnot, hfull, heq⟩ | ⟨-, -, -, heq⟩ :=
    InMemoryReplayStore.checkAndRecord_cases w.state.replay key exp now
  · rw [hnonblank] at hblank
    cases hblank
  · rw [heq] at hanswer
    subst hanswer
    left
    rw [← AList.lookup_isSome, Option.isSome_iff_exists] at hmem
    obtain ⟨exp', hentry⟩ := hmem
    obtain ⟨j, now', hrecorded⟩ := h.recorded key exp' hentry
    refine ⟨rfl, j, exp', now', ?_, hrecorded⟩
    rintro rfl
    exact hfirst _ _ _ (Pool.mem_traceOf.mpr hrecorded)
  · rw [heq] at hanswer
    subst hanswer
    right
    obtain ⟨keys, hnodup, hlength, hkeys⟩ := ExpiryMap.exists_live_keys now w.state.replay.seen
    have hlive := ExpiryMap.live_le_size now w.state.replay.seen
    have hsize := h.recorded_size
    rw [h.maxSeen] at hfull
    refine ⟨rfl, keys, hnodup, by omega, fun other hother => ?_⟩
    obtain ⟨e, hentry, hle⟩ := hkeys other hother
    obtain ⟨j, now', hrecorded⟩ := h.recorded other e hentry
    refine ⟨?_, j, e, now', hrecorded, hle⟩
    rintro rfl
    rw [← AList.lookup_eq_none, hentry] at hnot
    cases hnot
  · rw [heq] at hanswer
    subst hanswer
    trivial

/-- A refused place on the revocation list has its reason. -/
theorem reason_revoke {w : ServerPool} (h : Accounted state w) {i : Nat} {token : String}
    {exp now : Int64} {answer : Except HttpError Unit}
    (hanswer : (Revoked.revoke w.state.revoked token exp now state.config.maxSeenJti).1 = answer) :
    Reason state w.log (i, revokeIs token exp now state.config.maxSeenJti answer) := by
  rw [Revoked.revoke] at hanswer
  split at hanswer
  · next hfull =>
      subst hanswer
      obtain ⟨hnot, hfull⟩ := hfull
      have hsize : ExpiryMap.size (sweepRevoked w.state.revoked now) ≤ state.config.maxSeenJti :=
        Nat.le_trans (ExpiryMap.live_le_size now w.state.revoked) h.revoked_size
      obtain ⟨keys, hnodup, hlength, hkeys⟩ := ExpiryMap.exists_live_keys now w.state.revoked
      have hall : keys.length = ExpiryMap.size (sweepRevoked w.state.revoked now) := hlength
      refine ⟨keys, hnodup, by omega, fun other hother => ?_⟩
      obtain ⟨e, hentry⟩ := hkeys other hother
      have hlisted := ExpiryMap.lookup_sweep.mpr hentry
      refine ⟨?_, RevokedIn.of_lookup h hlisted⟩
      rintro rfl
      rw [sweepRevoked, ← AList.lookup_eq_none, hlisted] at hnot
      cases hnot
  · subst hanswer
    trivial

/-- A token that is found on the list was put there. -/
theorem reason_lookUp {w : ServerPool} (h : Accounted state w) {i : Nat} {token : String}
    {now : Int64} {answer : Bool}
    (hanswer : (Revoked.isRevokedOrUnavailable w.state.revoked token now).1 = answer) :
    Reason state w.log (i, ⟨.isRevokedOrUnavailable token now, answer⟩) := by
  cases answer with
  | false => trivial
  | true =>
      have hmem : revocationKey token ∈ sweepRevoked w.state.revoked now :=
        of_decide_eq_true hanswer
      rw [← AList.lookup_isSome, Option.isSome_iff_exists] at hmem
      obtain ⟨e, hlisted⟩ := hmem
      exact RevokedIn.of_lookup h hlisted

/-! ### Steps and runs -/

/-- The calls that enter nothing into the revocation list. -/
def EntersNothing (c : Call) : Prop := ∀ token exp now maxSeen, c ≠ .revoke token exp now maxSeen

omit [Crates] in
theorem ReadsClock.entersNothing {c : Call} (h : ReadsClock c) : EntersNothing c := by
  rw [ReadsClock] at h
  rintro token exp now maxSeen rfl
  cases h

theorem only_tokenInner_entersNothing : Only EntersNothing (tokenInner headers state body) := by
  intro t c h
  rw [tokenInner_eq, calls_bind] at h
  rcases h with h | ⟨plan, t₁, t₂, -, -, h⟩
  · exact (only_planExchange _ _ h).entersNothing
  · rw [commit, calls_bind] at h
    rcases h with h | ⟨_, t₃, t₄, -, -, h⟩
    · obtain ⟨credential, -, rfl⟩ := calls_recordAll h
      exact fun _ _ _ _ heq => by cases heq
    · rcases calls_issueToken h with rfl | ⟨claims, rfl⟩
      · exact fun _ _ _ _ heq => by cases heq
      · exact fun _ _ _ _ heq => by cases heq

theorem only_recordOnline_entersNothing {endpoint : String} :
    Only EntersNothing (recordOnline headers state body endpoint) := by
  have hclock : Only EntersNothing (unixNow : Handler HttpError Int64) :=
    only_perform (ReadsClock.entersNothing rfl)
  have hrecord : ∀ claims now,
      Only EntersNothing (recordClientAssertionReplay claims now : Handler HttpError Unit) := by
    intro claims now
    refine only_bind only_ofExcept fun _ => only_bind (only_perform ?_) fun _ => only_ofExcept
    exact fun _ _ _ _ heq => by cases heq
  refine only_bind (fun t c hcalls => (only_verifyOnline t c hcalls).entersNothing)
    fun _ => only_bind hclock fun _ => only_bind (hrecord _ _) fun _ => only_bind hclock fun _ =>
      only_done

/-- What stands behind a call for a place on the revocation list: a revocation request whose
client is authenticated, for a token that was active when the request looked at it. -/
structure Revoking (state : HttpState) (request : Request) (t : List Ev) (token : String)
    (exp : Int64) (maxSeen : Nat) : Prop where
  endpoint : request.endpoint = .revoke
  admitted : ∃ t₁ t₂ claims moment, t = t₁ ++ t₂ ∧
    Returns (recordOnline request.headers state request.body state.revocationEndpoint) t₁
      (token, claims, moment) ∧
    ∃ tokenClaims, stsTokenClaims state token moment = some tokenClaims ∧ exp = tokenClaims.exp
  maxSeen_eq : maxSeen = state.config.maxSeenJti

theorem revoking_of_calls_handle {request : Request} {token : String} {exp now : Int64}
    {maxSeen : Nat} (h : Calls (handle state request) t (.revoke token exp now maxSeen)) :
    Revoking state request t token exp maxSeen := by
  unfold handle at h
  split at h
  · rw [calls_bind] at h
    rcases h with h | ⟨_, t₁, t₂, -, -, h⟩
    · exact absurd rfl (only_tokenInner_entersNothing _ _ h token exp now maxSeen)
    · exact absurd h calls_done
  · rw [introspect_eq, bind_assoc, calls_bind] at h
    rcases h with h | ⟨out, t₁, t₂, -, -, h⟩
    · exact absurd rfl (only_recordOnline_entersNothing _ _ h token exp now maxSeen)
    · rw [bind_assoc, calls_bind] at h
      rcases h with h | ⟨_, t₃, t₄, -, -, h⟩
      · cases calls_introspectionResponseForToken h
      · exact absurd h calls_done
  · next hendpoint =>
      rw [revoke_eq, bind_assoc, calls_bind] at h
      rcases h with h | ⟨⟨token', claims, moment⟩, t₁, t₂, rfl, hrecord, h⟩
      · exact absurd rfl (only_recordOnline_entersNothing _ _ h token exp now maxSeen)
      · simp only [verifiedStsAccessToken_unchecked, pure_bind, bind_assoc] at h
        rw [calls_bind] at h
        rcases h with h | ⟨_, t₃, t₄, -, -, h⟩
        · cases hclaims : stsTokenClaims state token' moment with
          | none =>
              rw [hclaims] at h
              exact absurd h calls_done
          | some tokenClaims =>
              rw [hclaims] at h
              rcases calls_revokeIfActive h with hclock | ⟨later, -, heq⟩
              · exact absurd rfl (hclock.entersNothing token exp now maxSeen)
              · cases heq
                exact ⟨hendpoint, ⟨t₁, t₂, claims, moment, rfl, hrecord, tokenClaims, hclaims, rfl⟩,
                  rfl⟩
        · exact absurd h calls_done

/-- Every answer to a running request has its reason in the log. -/
theorem reason_answer {w : ServerPool} (hthreaded : Pool.Threaded (handle state) w)
    (h : Accounted state w) {i : Nat} {request : Request} {c : Call}
    {k : Call.Answer c → Handler HttpError Reply} {tick : Tick} {answer : Call.Answer c}
    (hi : w.threads[i]? = some (request, Prog.call (σ := sts) c k))
    (hanswer : ((machine state).answer c tick w.state).1 = answer) :
    Reason state w.log (i, ⟨c, answer⟩) := by
  have hcalls : Calls (handle state request) (Pool.traceOf i w.log) c :=
    ⟨k, hthreaded.steps i request _ hi⟩
  cases c with
  | unixNow => trivial
  | checkAndRecord key exp now =>
      obtain ⟨hnonblank, hfirst⟩ := notYetRecorded_of_calls_handle hcalls
      rw [machine_checkAndRecord] at hanswer
      exact reason_record h hnonblank hfirst hanswer
  | newJti => trivial
  | signClaims claims => trivial
  | revoke token exp now maxSeen =>
      obtain rfl := (revoking_of_calls_handle hcalls).maxSeen_eq
      rw [machine_revoke] at hanswer
      exact reason_revoke h hanswer
  | isRevokedOrUnavailable token now => exact reason_lookUp h hanswer

/-- The account after one answer: what has to be shown is that the new entries are in the
log, and that the bounds still hold. -/
theorem Accounted.answered {w w' : ServerPool} (h : Accounted state w) {entry : Nat × Ev}
    (hlog : w'.log = w.log ++ [entry])
    (hrecorded : ∀ key exp, w'.state.replay.seen.lookup key = some exp →
      w.state.replay.seen.lookup key = some exp ∨
        ∃ i now, entry = (i, recordIs key exp now (.ok ())))
    (hrevoked : ∀ key exp, w'.state.revoked.lookup key = some exp →
      w.state.revoked.lookup key = some exp ∨ ∃ i token now, key = revocationKey token ∧
        entry = (i, revokeIs token exp now state.config.maxSeenJti (.ok ())))
    (hmax : w'.state.replay.maxSeen = w.state.replay.maxSeen)
    (hrecordedSize : ExpiryMap.size w'.state.replay.seen ≤ state.config.maxSeenJti)
    (hrevokedSize : ExpiryMap.size w'.state.revoked ≤ state.config.maxSeenJti) :
    Accounted state w' := by
  refine ⟨fun key exp hentry => ?_, fun key exp hentry => ?_, hmax.trans h.maxSeen, hrecordedSize,
    hrevokedSize⟩
  · rw [hlog]
    rcases hrecorded key exp hentry with hold | ⟨i, now, rfl⟩
    · obtain ⟨i, now, hmem⟩ := h.recorded key exp hold
      exact ⟨i, now, List.mem_append_left _ hmem⟩
    · exact ⟨i, now, List.mem_append_right _ (List.mem_singleton.mpr rfl)⟩
  · rw [hlog]
    rcases hrevoked key exp hentry with hold | ⟨i, token, now, hkey, rfl⟩
    · obtain ⟨i, token, now, hkey, hmem⟩ := h.revoked key exp hold
      exact ⟨i, token, now, hkey, List.mem_append_left _ hmem⟩
    · exact ⟨i, token, now, hkey, List.mem_append_right _ (List.mem_singleton.mpr rfl)⟩

/-- One answer keeps the account. -/
theorem accounted_answer {w w' : ServerPool} (hthreaded : Pool.Threaded (handle state) w)
    (h : Accounted state w) {i : Nat} {request : Request} {c : Call}
    {k : Call.Answer c → Handler HttpError Reply} {tick : Tick} {answer : Call.Answer c}
    (hi : w.threads[i]? = some (request, Prog.call (σ := sts) c k))
    (hanswer : (machine state).answer c tick w.state = (answer, w'.state))
    (hlog : w'.log = w.log ++ [(i, ⟨c, answer⟩)]) : Accounted state w' := by
  have hcalls : Calls (handle state request) (Pool.traceOf i w.log) c :=
    ⟨k, hthreaded.steps i request _ hi⟩
  have hsame : w'.state = w.state → Accounted state w' := by
    intro hstate
    exact h.answered hlog (fun _ _ => by rw [hstate]; exact Or.inl)
      (fun _ _ => by rw [hstate]; exact Or.inl) (by rw [hstate])
      (by rw [hstate]; exact h.recorded_size) (by rw [hstate]; exact h.revoked_size)
  cases c with
  | unixNow => exact hsame (Prod.mk.inj hanswer).2.symm
  | checkAndRecord key exp now =>
      rw [machine_checkAndRecord, Prod.mk.injEq] at hanswer
      obtain ⟨hanswer, hstate⟩ := hanswer
      have hreplay : w'.state.replay = (w.state.replay.checkAndRecord key exp now).2 := by
        rw [← hstate]
      have hrevoked : w'.state.revoked = w.state.revoked := by
        rw [← hstate]
      have hsize := h.recorded_size
      rw [← h.maxSeen] at hsize
      refine h.answered hlog (fun key' exp' hentry => ?_) (fun _ _ => ?_) ?_ ?_ ?_
      · rw [hreplay] at hentry
        rcases InMemoryReplayStore.lookup_of_lookup_checkAndRecord hentry with
          hold | ⟨hok, rfl, rfl⟩
        · exact Or.inl hold
        · exact Or.inr ⟨i, now, by rw [← hanswer, hok]⟩
      · rw [hrevoked]
        exact Or.inl
      · rw [hreplay, InMemoryReplayStore.checkAndRecord_maxSeen]
      · rw [hreplay, ← h.maxSeen]
        exact InMemoryReplayStore.size_checkAndRecord hsize
      · rw [hrevoked]
        exact h.revoked_size
  | newJti => exact hsame (Prod.mk.inj hanswer).2.symm
  | signClaims claims => exact hsame (Prod.mk.inj hanswer).2.symm
  | revoke token exp now maxSeen =>
      obtain rfl := (revoking_of_calls_handle hcalls).maxSeen_eq
      rw [machine_revoke, Prod.mk.injEq] at hanswer
      obtain ⟨hanswer, hstate⟩ := hanswer
      have hreplay : w'.state.replay = w.state.replay := by
        rw [← hstate]
      have hrevoked : w'.state.revoked =
          (Revoked.revoke w.state.revoked token exp now state.config.maxSeenJti).2 := by
        rw [← hstate]
      refine h.answered hlog (fun _ _ => ?_) (fun key exp' hentry => ?_) ?_ ?_ ?_
      · rw [hreplay]
        exact Or.inl
      · rw [hrevoked] at hentry
        rcases Revoked.lookup_of_lookup_revoke hentry with hold | ⟨hok, hkey, rfl⟩
        · exact Or.inl hold
        · exact Or.inr ⟨i, token, now, hkey, by rw [← hanswer, hok]⟩
      · rw [hreplay]
      · rw [hreplay]
        exact h.recorded_size
      · rw [hrevoked]
        exact Revoked.size_revoke h.revoked_size
  | isRevokedOrUnavailable token now =>
      have hstate : { w.state with revoked := sweepRevoked w.state.revoked now } = w'.state :=
        (Prod.mk.inj hanswer).2
      refine h.answered hlog (fun _ _ => ?_) (fun key exp' hentry => ?_) ?_ ?_ ?_
      · rw [← hstate]
        exact Or.inl
      · rw [← hstate] at hentry
        exact Or.inl (ExpiryMap.lookup_sweep.mp hentry).1
      · rw [← hstate]
      · rw [← hstate]
        exact h.recorded_size
      · rw [← hstate]
        exact Nat.le_trans (ExpiryMap.live_le_size now w.state.revoked) h.revoked_size

/-- What holds after every move: log and programs agree, the account holds, and every answer
of the log has its reason before it. -/
structure Explained (state : HttpState) (w : ServerPool) : Prop where
  threaded : Pool.Threaded (handle state) w
  accounted : Accounted state w
  reasons : ∀ before entry after, w.log = before ++ entry :: after → Reason state before entry

theorem explained_initial :
    Explained state (Pool.initial (Stores.initial state.config) : ServerPool) :=
  ⟨Pool.threaded_initial, accounted_initial, by simp [Pool.initial]⟩

theorem explained_move {w w' : ServerPool} {m : Move Request Tick} (h : Explained state w)
    (hm : w.move (machine state) (handle state) m = some w') : Explained state w' := by
  have hthreaded := Pool.threaded_move h.threaded hm
  obtain ⟨request, -, rfl⟩ | ⟨i, tick, request, c, k, -, hi, rfl⟩ := Pool.move_cases hm
  · have haccount := h.accounted
    exact ⟨hthreaded, ⟨haccount.recorded, haccount.revoked, haccount.maxSeen,
      haccount.recorded_size, haccount.revoked_size⟩, h.reasons⟩
  · refine ⟨hthreaded, accounted_answer h.threaded h.accounted hi rfl rfl, ?_⟩
    intro before entry after hlog
    -- the last entry is the answer just given, all others were there
    rcases List.eq_nil_or_concat after with rfl | ⟨after', last, rfl⟩
    · obtain ⟨rfl, hentry⟩ := List.append_inj' hlog rfl
      cases hentry
      exact reason_answer h.threaded h.accounted hi rfl
    · rw [List.concat_eq_append, ← List.cons_append, ← List.append_assoc] at hlog
      obtain ⟨hold, -⟩ := List.append_inj' hlog rfl
      exact h.reasons before entry after' hold

theorem explained_run {moves : List (Move Request Tick)} {w : ServerPool}
    (hrun : ServerPool.run state moves = some w) : Explained state w :=
  Pool.exec_invariant (C := fun _ _ => True) (fun _ _ _ hw _ hm => explained_move hw hm)
    explained_initial Pool.along_true hrun

/-- **No refusal without a reason.** In every run of a started process, however its requests
are interleaved:

* the two stores never hold more entries than configured;
* a credential is refused as replayed only if another request has recorded it before, and for
  lack of room only while the configured number of other credentials are recorded that have
  not expired;
* a token is looked up as revoked only if it was revoked before, and is refused a place on
  the revocation list only while the configured number of other tokens are on it that have not
  expired. -/
theorem refusals_justified {moves : List (Move Request Tick)} {w : ServerPool}
    (hrun : ServerPool.run state moves = some w) :
    ExpiryMap.size w.state.replay.seen ≤ state.config.maxSeenJti ∧
    ExpiryMap.size w.state.revoked ≤ state.config.maxSeenJti ∧
    ∀ before entry after, w.log = before ++ entry :: after → Reason state before entry := by
  have hexplained := explained_run hrun
  exact ⟨hexplained.accounted.recorded_size, hexplained.accounted.revoked_size,
    hexplained.reasons⟩

end Server

section

open Sample

/-- The log of three requests to a server that remembers two credentials, up to the refusal
that ends the last one. -/
def refusalLog : List (Nat × Ev) :=
  [(0, nowIs 90), (0, nowIs 90), (0, recordIs (clientReplayKey "app" "c1") 100 90 (.ok ())),
    (0, nowIs 90), (1, nowIs 90), (1, nowIs 90), (1, nowIs 90), (1, nowIs 90),
    (1, recordIs (actorReplayKey "agent" "a1") 200 90 (.ok ())),
    (1, recordIs proofReplayKey 100 90 (.error ⟨.storeFull, "replay store full, retry shortly"⟩)),
    (2, nowIs 101), (2, nowIs 101), (2, nowIs 101), (2, nowIs 101)]

/-- The second delegation with an actor assertion is refused, because another request has
recorded it. -/
theorem sample_refusals_justified :
    ∃ moves w, ServerPool.run twoServer moves = some w ∧
      w.log = refusalLog ++ [(2, recordIs (actorReplayKey "agent" "a1") 200 101
        (.error ⟨.replayDetected, "actor_token replay detected"⟩))] ∧
      ∃ j exp now, j ≠ 2 ∧
        (j, recordIs (actorReplayKey "agent" "a1") exp now (.ok ())) ∈ refusalLog := by
  obtain ⟨moves, hrun⟩ := run_sequential twoServer
    [(introspectRequest "x" client1, clock 90 (by decide)),
      (delegationRequest proofHeaders actor1, clock 90 (by decide)),
      (delegationRequest formHeaders actor1, clock 101 (by decide))]
  rw [Pool.initial, ← burnStores₀, sequential_cons serve_burn₀, sequential_cons serve_burn₁,
    sequential_cons serve_burn₂] at hrun
  refine ⟨moves, _, hrun, rfl, ?_⟩
  rcases (refusals_justified hrun).2.2 refusalLog _ [] rfl with ⟨-, hused⟩ | ⟨hkind, -⟩
  · exact hused
  · cases hkind

end

end StsDelegate

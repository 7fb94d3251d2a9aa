import StsDelegate.Http.Issued
import StsDelegate.SignVerify

/-!
# Which algorithm signs

The algorithm of a minted token is the signer's, and the signer was chosen at start-up from
`STS_SIGNING_ALG`: a text that is parsed twice, first into a backend and then, unless that
is the classical one, into an ML-DSA algorithm. What is not understood is refused.

Whether a token is issued at all then depends on the policy of the target and on three
options of the server (`SigningPermitted`). One of them, the permission to sign with a
classical algorithm, is looked at only under another one: `non_pqc_needs_opt_in_iff`.
-/

namespace StsDelegate

open Text Fallible Effectful Prog

/-- One of the ML-DSA algorithms. -/
def IsMlDsa (alg : String) : Prop := ∃ algorithm : MlDsaAlgorithm, alg = algorithm.joseAlg

theorem isPqcJwsAlg_iff {alg : String} : isPqcJwsAlg alg = true ↔ IsMlDsa alg := by
  rw [isPqcJwsAlg, Option.isSome_iff_exists]
  constructor
  · intro ⟨algorithm, h⟩
    exact ⟨algorithm, MlDsaAlgorithm.eq_joseAlg h⟩
  · intro ⟨algorithm, h⟩
    exact ⟨algorithm, by rw [h, MlDsaAlgorithm.fromJoseAlg_joseAlg]⟩

theorem not_isMlDsa_rs256 : ¬ IsMlDsa "RS256" := by
  intro ⟨algorithm, h⟩
  exact algorithm.joseAlg_ne_rs256 h.symm

/-! ### The selection -/

/-- `STS_SIGNING_ALG` without surrounding blanks and in lower case; empty if it is not
set. -/
def signingSelector (source : ConfigSource) : String :=
  toAsciiLowercase (trim ((source.get "STS_SIGNING_ALG").getD ""))

/-- The selectors of RS256. -/
def SelectsClassical (selector : String) : Prop := selector = "classical" ∨ selector = "rs256"

/-- The ML-DSA algorithm that a selector names, if it is not one of RS256. -/
def namedAlgorithm (selector : String) : Option MlDsaAlgorithm :=
  MlDsaAlgorithm.fromSelector (if selector = "" then "ML-DSA-65" else selector)

theorem fromSelector_congr {value value' : String}
    (h : toAsciiLowercase (trim value) = toAsciiLowercase (trim value')) :
    MlDsaAlgorithm.fromSelector value = MlDsaAlgorithm.fromSelector value' := by
  simp only [MlDsaAlgorithm.fromSelector, h]

/-- Lower-casing and trimming once more changes nothing. -/
theorem selector_idem (value : String) :
    toAsciiLowercase (trim (toAsciiLowercase (trim value))) = toAsciiLowercase (trim value) := by
  rw [trim_toAsciiLowercase, trim_trim, toAsciiLowercase_idem]

/-- Only the two selectors of RS256 are parsed as such. Any other text is kept for the
second parser, which does not mind its case and blanks. -/
theorem parse_cases (value : String) :
    (SelectsClassical (toAsciiLowercase (trim value)) ∧ BackendSelection.parse value = .classical) ∨
      (¬ SelectsClassical (toAsciiLowercase (trim value)) ∧
        ∃ requested, BackendSelection.parse value = .requestedPqc requested ∧
          MlDsaAlgorithm.fromSelector requested =
            namedAlgorithm (toAsciiLowercase (trim value))) := by
  unfold BackendSelection.parse namedAlgorithm SelectsClassical
  by_cases hempty : toAsciiLowercase (trim value) = ""
  · refine Or.inr ⟨?_, "ML-DSA-65", ?_, ?_⟩
    · rw [hempty]
      decide
    · simp only [hempty, if_true]
    · rw [if_pos hempty]
  · simp only [if_neg hempty]
    by_cases hclassical :
        toAsciiLowercase (trim value) = "classical" ∨ toAsciiLowercase (trim value) = "rs256"
    · refine Or.inl ⟨hclassical, ?_⟩
      simp only [hclassical, Bool.or_eq_true, decide_eq_true_eq, if_true]
    · refine Or.inr ⟨hclassical, ?_⟩
      have hlower : MlDsaAlgorithm.fromSelector (toAsciiLowercase (trim value)) =
          MlDsaAlgorithm.fromSelector (trim value) :=
        fromSelector_congr (by rw [selector_idem, trim_trim])
      simp only [hclassical, Bool.or_eq_true, decide_eq_true_eq, if_false]
      split
      · exact ⟨_, rfl, hlower.symm⟩
      · exact ⟨_, rfl, rfl⟩

/-- A selector that is not set or blank stands for the default. -/
theorem parse_of_fromSource {source : ConfigSource} {config : StartConfig}
    (h : config.stsSigningAlg = (source.trimmed "STS_SIGNING_ALG").getD "ML-DSA-65") :
    (SelectsClassical (signingSelector source) ∧
        BackendSelection.parse config.stsSigningAlg = .classical) ∨
      (¬ SelectsClassical (signingSelector source) ∧
        ∃ requested, BackendSelection.parse config.stsSigningAlg = .requestedPqc requested ∧
          MlDsaAlgorithm.fromSelector requested = namedAlgorithm (signingSelector source)) := by
  rw [trimmed_getD] at h
  by_cases hblank : trim ((source.get "STS_SIGNING_ALG").getD "") = ""
  · rw [if_pos hblank] at h
    have hselector : signingSelector source = "" := by
      rw [signingSelector, hblank]
      decide
    rw [h, hselector]
    exact Or.inr ⟨by simp [SelectsClassical], "ML-DSA-65", by decide, by decide⟩
  · -- the option is the selector without its blanks
    rw [if_neg hblank] at h
    have hselector : signingSelector source = toAsciiLowercase (trim config.stsSigningAlg) := by
      rw [h, trim_trim, signingSelector]
    rw [hselector]
    exact parse_cases config.stsSigningAlg

section Server

variable [Crates] [KeyCrates]

/-- The signing key file is a private JWK that names this algorithm. -/
def KeyFileNames (config : StartConfig) (disk : Disk) (alg : String) : Prop :=
  ∃ file value jwk,
    disk.read config.oboStsKeyFile "STS signing key" config.allowInsecureKeyFile = .ok file ∧
    file.text = .json value ∧ PrivateAkpJwk.fromValue value = some jwk ∧ jwk.alg = alg

/-- The algorithm is RS256 for the two selectors of it, and else the one that the selector
and the key file agree on. -/
def SelectedAlg (source : ConfigSource) (config : StartConfig) (disk : Disk) (alg : String) : Prop :=
  (SelectsClassical (signingSelector source) ∧ alg = "RS256") ∨
    (¬ SelectsClassical (signingSelector source) ∧
      ∃ algorithm, namedAlgorithm (signingSelector source) = some algorithm ∧
        alg = algorithm.joseAlg ∧ KeyFileNames config disk alg)

/-- The loaded signer has the selected algorithm. -/
theorem selectedAlg_of_loadSigner {source : ConfigSource} {config : StartConfig} {disk : Disk}
    {entropy : Bytes} {signer : JoseSigner}
    (hconfig : StartConfig.fromSource source disk = .ok config)
    (h : loadSigner config disk entropy = .ok signer) :
    SelectedAlg source config disk signer.alg := by
  have hparse := parse_of_fromSource (StartConfig.loadedFrom_of_fromSource hconfig).stsSigningAlg
  cases loadedSigner_of_loadSigner h with
  | rsa hclassical _ =>
      rcases hparse with ⟨hselector, -⟩ | ⟨-, _, hpqc, -⟩
      · exact Or.inl ⟨hselector, rfl⟩
      · rw [hclassical] at hpqc
        cases hpqc
  | external hclassical _ _ =>
      rcases hparse with ⟨hselector, -⟩ | ⟨-, _, hpqc, -⟩
      · exact Or.inl ⟨hselector, rfl⟩
      · rw [hclassical] at hpqc
        cases hpqc
  | @mlDsa s requested file hselection hread hkey =>
      rcases hparse with ⟨-, hclassical⟩ | ⟨hselector, _, hpqc, hnamed⟩
      · rw [hclassical] at hselection
        cases hselection
      · rw [hpqc] at hselection
        cases hselection
        obtain ⟨hselected, value, jwk, htext, hjwk, halg⟩ :=
          fromPrivateJwkForBackend_requested hkey
        rw [hnamed] at hselected
        exact Or.inr ⟨hselector, s.algorithm, hselected, rfl, file, value, jwk, hread, htext, hjwk,
          halg⟩

/-! ### Policies -/

omit [KeyCrates]

/-- The policy of a target and the options of the server permit the signer's algorithm. -/
structure SigningPermitted (state : HttpState) (policy : TargetPolicyEntry) : Prop where
  accepted : policy.acceptedTokenSigningAlgs.isEmpty = false →
    state.signer.alg ∈ policy.acceptedTokenSigningAlgs
  required : policy.pqcRequired = true → IsMlDsa state.signer.alg
  preferred : state.config.pqcPreferred = true →
    (IsMlDsa state.signer.alg ∧ state.signer.alg ∈ state.config.pqcPreferredAlgs) ∨
      (¬ IsMlDsa state.signer.alg ∧ state.config.allowNonPqc = true)

/-- Signing for a target is decided by its policy, and nothing of the request enters. -/
theorem signingDecisionForTarget_eq_ok {state : HttpState} {target : String}
    {decision : SigningDecision} (h : signingDecisionForTarget state target = .ok decision) :
    (∃ policy, state.config.targetPolicy.get target = some policy ∧
        SigningPermitted state policy) ∧
      decision.alg = state.signer.alg ∧
      (decision.pqcFallback = true ↔
        state.config.pqcPreferred = true ∧ ¬ IsMlDsa state.signer.alg) := by
  simp only [signingDecisionForTarget, bind_eq_ok, okOr_eq_ok, rejectIf_eq_ok, pure_eq_ok] at h
  obtain ⟨policy, hpolicy, _, haccepted, _, hrequired, _, hpreferred, _, hallowed, heq⟩ := h
  subst heq
  simp only [← isPqcJwsAlg_iff]
  refine ⟨⟨policy, hpolicy, ?_, ?_, ?_⟩, ?_, ?_⟩
  · intro hnonempty
    simpa [hnonempty] using haccepted
  · intro hpqc
    rw [← isPqcJwsAlg_iff]
    simpa [hpqc] using hrequired
  · intro hprefer
    rw [← isPqcJwsAlg_iff]
    cases hpqc : isPqcJwsAlg state.signer.alg with
    | true => exact Or.inl ⟨rfl, by simpa [hprefer, hpqc] using hpreferred⟩
    | false => exact Or.inr ⟨by simp, by simpa [hprefer, hpqc] using hallowed⟩
  · split <;> rfl
  · cases hprefer : state.config.pqcPreferred <;>
      cases hpqc : isPqcJwsAlg state.signer.alg <;> simp

theorem Planned.signing {headers : HeaderMap} {state : HttpState} {body : Bytes} {t : List Ev}
    {mode : EffectiveExchangeMode} {request : ExchangeRequest} {plan : Plan}
    (h : Planned headers state body t mode request plan) :
    signingDecisionForTarget state plan.exchange.target = .ok plan.signingDecision := by
  rcases h.granted with ⟨-, grant, hgrant, hplan⟩ | ⟨-, grant, hgrant, hplan⟩
  · rw [hplan]
    exact hgrant.signing
  · rw [hplan]
    exact hgrant.signing

/-- The header of a token is the signer's. -/
theorem decodeCompactJwsHeader_signClaims (laws : LawfulSigning) {signer : JoseSigner}
    {claims : MintedClaims} {entropy : Bytes} {token : String}
    (h : signer.signClaims claims entropy = .ok token) :
    decodeCompactJwsHeader token = .ok signer.header.read := by
  have hcompact : ∀ {sign : Bytes → Except JoseError Bytes},
      signCompact signer.header claims sign = .ok token →
        decodeCompactJwsHeader token = .ok signer.header.read := by
    intro sign hsign
    obtain ⟨header, payload, signature, rfl, hheader, -⟩ := signCompact_eq_ok hsign
    rw [decodeCompactJwsHeader_compactJws, laws.header hheader, mapError_ok]
  cases signer with
  | rsa s =>
      obtain ⟨header, payload, signature, rfl, hheader, -⟩ := laws.rs256 (mapError_eq_ok.mp h)
      rw [decodeCompactJwsHeader_compactJws, hheader, mapError_ok]
  | externalRs256 s => exact hcompact h
  | mlDsa s => exact hcompact h
  | externalMlDsa s => exact hcompact h

/-- What is true of every answer with a token, as far as its algorithm goes. -/
structure SignedUnderPolicy (state : HttpState) (response : TokenResponse) : Prop where
  target : ∃ claims entropy policy,
    state.signer.signClaims claims entropy = .ok response.accessToken ∧
    state.config.targetPolicy.get claims.aud = some policy ∧ SigningPermitted state policy
  selected : response.signingAlgSelected = state.signer.alg
  header : ∃ header, decodeCompactJwsHeader response.accessToken = .ok header ∧
    header.alg = response.signingAlgSelected
  fallback : response.pqcFallback = true ↔
    state.config.pqcPreferred = true ∧ ¬ IsMlDsa response.signingAlgSelected

theorem signedUnderPolicy_of_run (laws : LawfulSigning) {state : HttpState}
    {moves : List (Move Request Tick)} {w : ServerPool} {i : Nat} {request : Request}
    {response : TokenResponse} (hrun : ServerPool.run state moves = some w)
    (h : w.Issues i request response) : SignedUnderPolicy state response := by
  obtain ⟨plan, jti, hissued⟩ := issuedFor_of_run hrun h
  obtain ⟨t, mode, exchangeRequest, hplanned⟩ := hissued.planned
  obtain ⟨entropy, hsigned⟩ := hissued.signed
  obtain ⟨⟨policy, hpolicy, hpermitted⟩, halg, hfallback⟩ :=
    signingDecisionForTarget_eq_ok hplanned.signing
  have hselected : response.signingAlgSelected = state.signer.alg := by
    rw [hissued.response_eq]
    exact halg
  refine ⟨⟨_, entropy, policy, hsigned, hpolicy, hpermitted⟩, hselected, ?_, ?_⟩
  · exact ⟨_, decodeCompactJwsHeader_signClaims laws hsigned, hselected.symm⟩
  · rw [hselected, ← hfallback, hissued.response_eq]
    rfl

/-- **No silent downgrade.** A server signs with the algorithm that `STS_SIGNING_ALG`
selects, and with RS256 only if it is selected by name. Whatever is requested, a token is
issued only if the policy of its target and the options permit that algorithm, and the
response tells which it is and whether it is a fallback. -/
theorem no_silent_downgrade [KeyCrates] (laws : LawfulSigning) {source : ConfigSource}
    {config : StartConfig} {disk : Disk} {web : Web} {entropy : Bytes} {state : HttpState}
    {replay : ReplayPolicy} (hconfig : StartConfig.fromSource source disk = .ok config)
    (h : buildStateFromConfig config disk web entropy = .ok (state, replay)) :
    SelectedAlg source config disk state.signer.alg ∧
      ∀ (moves : List (Move Request Tick)) (w : ServerPool) (i : Nat) (request : Request)
        (response : TokenResponse), ServerPool.run state moves = some w →
        w.Issues i request response → SignedUnderPolicy state response := by
  have hstart := buildStateFromConfig_eq_ok.mp h
  exact ⟨selectedAlg_of_loadSigner hconfig hstart.signer,
    fun moves w i request response hrun hissues => signedUnderPolicy_of_run laws hrun hissues⟩

/-- **Signing with RS256 and the permission for it.** Where classical algorithms are not
permitted, a token that is issued is signed with ML-DSA exactly if ML-DSA is preferred, so
that the permission is looked at, or RS256 was not selected in the first place. -/
theorem non_pqc_needs_opt_in_iff [KeyCrates] (laws : LawfulSigning) {source : ConfigSource}
    {config : StartConfig} {disk : Disk} {web : Web} {entropy : Bytes} {state : HttpState}
    {replay : ReplayPolicy} (hconfig : StartConfig.fromSource source disk = .ok config)
    (hflag : config.allowNonPqc = false)
    (h : buildStateFromConfig config disk web entropy = .ok (state, replay))
    {moves : List (Move Request Tick)} {w : ServerPool} {i : Nat} {request : Request}
    {response : TokenResponse} (hrun : ServerPool.run state moves = some w)
    (hissues : w.Issues i request response) :
    (∃ header, decodeCompactJwsHeader response.accessToken = .ok header ∧ IsMlDsa header.alg) ↔
      config.pqcPreferred = true ∨ ¬ SelectsClassical (signingSelector source) := by
  have hstart := buildStateFromConfig_eq_ok.mp h
  have hsigned := signedUnderPolicy_of_run laws hrun hissues
  obtain ⟨header, hheader, halg⟩ := hsigned.header
  -- the header names the algorithm of the signer
  have hmlDsa : (∃ header, decodeCompactJwsHeader response.accessToken = .ok header ∧
      IsMlDsa header.alg) ↔ IsMlDsa state.signer.alg := by
    rw [← hsigned.selected, ← halg]
    constructor
    · intro ⟨header', hheader', his⟩
      rw [hheader] at hheader'
      cases hheader'
      exact his
    · intro his
      exact ⟨header, hheader, his⟩
  rw [hmlDsa]
  rcases selectedAlg_of_loadSigner hconfig hstart.signer with
      ⟨hclassical, hrs256⟩ | ⟨hnot, algorithm, -, hown, -⟩
  · -- an RS256 token is issued only where ML-DSA is not preferred
    rw [hrs256]
    refine iff_of_false not_isMlDsa_rs256 ?_
    intro hcond
    rcases hcond with hpreferred | hnot
    · obtain ⟨_, _, policy, -, -, hpermitted⟩ := hsigned.target
      have hprefer := hpermitted.preferred
      rw [hstart.config_eq, hrs256] at hprefer
      rcases hprefer hpreferred with ⟨hpqc, -⟩ | ⟨-, hallowed⟩
      · exact not_isMlDsa_rs256 hpqc
      · rw [hflag] at hallowed
        cases hallowed
    · exact hnot hclassical
  · exact iff_of_true ⟨algorithm, hown⟩ (Or.inr hnot)

end Server

namespace Sample

/-- The server that was told not to sign with classical algorithms, and the token it is
asked for. -/
abbrev strictState : HttpState := state .both 1 Nat.one_pos strictKnobs

abbrev strictResponse : TokenResponse := actorResponse "a1" none 50 mintedDelegation.token

theorem strict_issued :
    ∃ moves w, ServerPool.run strictState moves = some w ∧
      w.Issues 0 (delegationRequest formHeaders actor1) strictResponse :=
  delegation_issued (by decide) (by decide) (List.mem_cons_self ..)

theorem selectsClassical_strictSource : SelectsClassical (signingSelector strictSource) := by
  have hselector : signingSelector strictSource = "rs256" := by decide
  exact Or.inr hselector

theorem delegation_signed_under_policy :
    SelectedAlg strictSource (startConfig strictKnobs none) disk "RS256" ∧
      SignedUnderPolicy strictState strictResponse := by
  obtain ⟨hselected, hsigned⟩ := no_silent_downgrade lawfulSigning fromSource_strict
    (buildStateFromConfig_sample strictKnobs none (web idp) [])
  obtain ⟨moves, w, hrun, hissues⟩ := strict_issued
  exact ⟨hselected, hsigned moves w 0 _ _ hrun hissues⟩

theorem decodeCompactJwsHeader_minted :
    decodeCompactJwsHeader mintedDelegation.token =
      .ok ⟨"RS256", some "sts-1", some "at+jwt"⟩ := by
  show decodeCompactJwsHeader (compactJws mintedDelegation.header mintedDelegation.payload
    mintedDelegation.signature) = _
  rw [decodeCompactJwsHeader_compactJws]
  show (Crates.headerFromSlice mintedHeader).mapError _ = _
  rw [headerFromSlice_minted, mapError_ok]

/-- RS256 was selected, and nothing prefers ML-DSA. -/
theorem strict_token_is_classical :
    ¬ ∃ header, decodeCompactJwsHeader strictResponse.accessToken = .ok header ∧
      IsMlDsa header.alg := by
  obtain ⟨moves, w, hrun, hissues⟩ := strict_issued
  rw [non_pqc_needs_opt_in_iff lawfulSigning fromSource_strict rfl
    (buildStateFromConfig_sample strictKnobs none (web idp) []) hrun hissues]
  intro hcond
  rcases hcond with hpreferred | hnot
  · cases hpreferred
  · exact hnot selectsClassical_strictSource

/-- A server with `STS_ALLOW_NON_PQC=false` issues a token signed with RS256. -/
theorem strict_server_mints_rs256 :
    ∃ state replay, buildStateFromSource strictSource disk (web idp) [] = .ok (state, replay) ∧
      state.config.allowNonPqc = false ∧
      ∃ moves w i request response, ServerPool.run state moves = some w ∧
        w.Issues i request response ∧
        ∃ header, decodeCompactJwsHeader response.accessToken = .ok header ∧
          ¬ IsMlDsa header.alg := by
  obtain ⟨moves, w, hrun, hissues⟩ := strict_issued
  exact ⟨_, _, buildStateFromSource_strict (web idp) [], rfl, moves, w, 0, _, strictResponse, hrun,
    hissues, _, decodeCompactJwsHeader_minted, not_isMlDsa_rs256⟩

end Sample

end StsDelegate

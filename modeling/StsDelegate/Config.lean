import StsDelegate.Lib.OrdSet
import StsDelegate.Lib.Text
import Mathlib.Data.List.AList

/-!
# Runtime configuration

`RuntimeConfig` of `sts-config` with the fields request handling reads. The
fields at the end state what loading a configuration checks before it hands one
out: lifetimes and limits are in range, and no actor or client identity is blank.
-/

namespace StsDelegate

open Text

/-- Failure categories of configuration loading. -/
inductive ConfigErrorKind
  | missingEnv
  | invalidValue
  | invalidJson
  | invalidPolicy
  | notFound
  deriving DecidableEq

structure ConfigError where
  kind : ConfigErrorKind
  key : Option String
  message : String

/-- Exchange profile selection. -/
inductive TokenExchangeMode
  | delegation
  | impersonation
  | both
  deriving DecidableEq

/-- Client-auth policy selection. -/
inductive ClientAuthPolicy
  | auto
  | privateKeyJwtRequired
  | actorTokenAllowed
  deriving DecidableEq

/-- Policy rows for a single target audience. -/
structure TargetPolicyEntry where
  allowedScopes : OrdSet String
  defaultScopes : OrdSet String
  acceptedTokenSigningAlgs : OrdSet String
  pqcRequired : Bool

/-- Deny-by-default target policy. -/
structure TargetPolicy where
  targets : AList fun _ : String => TargetPolicyEntry

def TargetPolicy.get (policy : TargetPolicy) (audience : String) : Option TargetPolicyEntry :=
  policy.targets.lookup audience

/-- Which targets or subjects an impersonation entry covers. -/
inductive ImpersonationSelector
  | any
  | values (allowed : OrdSet String)

def ImpersonationSelector.allows (selector : ImpersonationSelector) (value : String) : Bool :=
  match selector with
  | .any => true
  | .values allowed => decide (value ∈ allowed)

structure ImpersonationPolicyEntry where
  targets : ImpersonationSelector
  subjects : ImpersonationSelector

/-- Per-client impersonation authorization policy. -/
structure ImpersonationPolicy where
  clients : AList fun _ : String => ImpersonationPolicyEntry

/-- Runtime configuration of the server. -/
structure RuntimeConfig where
  idpIssuer : String
  expectedSubjectAud : OrdSet String
  ourIssuer : String
  actorIds : OrdSet String
  clientIds : OrdSet String
  tokenExchangeMode : TokenExchangeMode
  clientAuthPolicy : ClientAuthPolicy
  impersonationPolicy : ImpersonationPolicy
  targetPolicy : TargetPolicy
  pqcPreferred : Bool
  allowNonPqc : Bool
  pqcPreferredAlgs : List String
  inboundAssertionAlgs : List String
  clockSkewLeeway : Int64
  scopedTokenTtl : Int64
  assertionMaxTtl : Int64
  maxSeenJti : Nat
  maxTokenLen : Nat
  requireSubjectBinding : Bool
  subjectScopeBoundRequired : Bool
  clockSkewLeeway_nonneg : 0 ≤ clockSkewLeeway
  scopedTokenTtl_pos : 1 ≤ scopedTokenTtl
  scopedTokenTtl_le : scopedTokenTtl ≤ 3600
  assertionMaxTtl_pos : 1 ≤ assertionMaxTtl
  maxSeenJti_pos : 1 ≤ maxSeenJti
  maxTokenLen_pos : 1 ≤ maxTokenLen
  actorIds_nonblank : ∀ id ∈ actorIds, isBlank id = false
  clientIds_nonblank : ∀ id ∈ clientIds, isBlank id = false

end StsDelegate

import StsDelegate.Config
import StsDelegate.Signer
import StsDelegate.Effects

/-!
# State and headers of the HTTP layer

What stays fixed while a process serves requests: configuration, signer and key
sets. The two stores that change are not here; handlers reach them by calls.

`publishedJwks` is how start-up assembles the published key set: the signer's own
key first, then the keys of the extra file under other ids.
-/

namespace StsDelegate

open Text

/-- `HeaderValue`: any octets. -/
abbrev HeaderValue : Type := Bytes

/-- `HeaderValue::to_str`: only visible ASCII and tabs. -/
def HeaderValue.toStr (value : HeaderValue) : Option String :=
  if value.all fun b => b == 9 || (32 ≤ b && b < 127) then
    some (String.ofList (value.map fun b => Char.ofNat b.toNat))
  else none

/-- `HeaderMap`, as the list of its fields under lower case names. -/
abbrev HeaderMap : Type := List (String × HeaderValue)

/-- `HeaderMap::get`: the first field of that name. -/
def HeaderMap.get (headers : HeaderMap) (name : String) : Option HeaderValue := headers.lookup name

/-- `HeaderMap::get_all`. -/
def HeaderMap.getAll (headers : HeaderMap) (name : String) : List HeaderValue :=
  (headers.filter fun field => field.1 == name).map Prod.snd

variable [Crates]

/-- Shared HTTP runtime state, less the stores. -/
structure HttpState where
  config : RuntimeConfig
  signer : JoseSigner
  publishedJwks : JwksDocument
  subjectJwks : JwksDocument
  actorJwks : JwksDocument
  clientJwks : JwksDocument

namespace HttpState

/-- An endpoint of this issuer. -/
def endpoint (state : HttpState) (path : String) : String :=
  trimEndMatches '/' state.config.ourIssuer ++ path

def tokenEndpoint (state : HttpState) : String := state.endpoint "/token"

def introspectionEndpoint (state : HttpState) : String := state.endpoint "/introspect"

def revocationEndpoint (state : HttpState) : String := state.endpoint "/revoke"

end HttpState

/-- Append the keys whose ids are not taken yet, one by one. -/
def addKeys (published : List PublicJwk) : List PublicJwk → List PublicJwk
  | [] => published
  | key :: rest =>
      if published.any fun existing => existing.kid == key.kid then addKeys published rest
      else addKeys (published ++ [key]) rest

/-- The key set start-up publishes, with the keys of the extra file if there is
one. -/
def publishedJwks (signer : JoseSigner) (extra : Option JwksDocument) : JwksDocument :=
  match extra with
  | some extra => ⟨addKeys signer.publicJwks.keys extra.keys⟩
  | none => signer.publicJwks

omit [Crates] in
/-- An id stands for the first key that has it. -/
theorem find?_addKeys (published extra : List PublicJwk) (kid : String) :
    (addKeys published extra).find? (fun key => key.kid == kid) =
      (published ++ extra).find? (fun key => key.kid == kid) := by
  induction extra generalizing published with
  | nil => rw [addKeys, List.append_nil]
  | cons key rest ih =>
      rw [addKeys]
      split
      · next htaken =>
          rw [ih, List.find?_append, List.find?_append, List.find?_cons]
          split
          · next hkid =>
              -- the key is left out, and its id is taken by an earlier one
              have hsome : (published.find? fun existing => existing.kid == kid).isSome = true := by
                rw [← beq_iff_eq.mp hkid, List.find?_isSome]
                simpa using htaken
              obtain ⟨existing, hexisting⟩ := Option.isSome_iff_exists.mp hsome
              rw [hexisting]
              rfl
          · rfl
      · rw [ih, List.append_assoc, List.singleton_append]

omit [Crates] in
/-- Different keys of the published set have different ids. -/
theorem nodup_addKeys (published extra : List PublicJwk)
    (h : (published.map PublicJwk.kid).Nodup) :
    ((addKeys published extra).map PublicJwk.kid).Nodup := by
  induction extra generalizing published with
  | nil => exact h
  | cons key rest ih =>
      rw [addKeys]
      split
      · exact ih published h
      · next hfree =>
          refine ih _ ?_
          rw [List.map_append, List.nodup_append]
          refine ⟨h, List.nodup_singleton _, ?_⟩
          simp only [List.any_eq_true, beq_iff_eq, not_exists, not_and] at hfree
          simpa using hfree

/-- The signer's tokens name a key id under which its own key is published. -/
theorem find?_publishedJwks (signer : JoseSigner) (extra : Option JwksDocument) :
    (publishedJwks signer extra).keys.find? (fun key => key.kid == signer.kid) =
      some signer.publicJwk := by
  have hown : signer.publicJwks.keys.find? (fun key => key.kid == signer.kid) =
      some signer.publicJwk := by
    simp [JoseSigner.publicJwks, signer.publicJwk_kid]
  cases extra with
  | none => exact hown
  | some extra =>
      rw [publishedJwks, find?_addKeys, List.find?_append, hown]
      rfl

end StsDelegate

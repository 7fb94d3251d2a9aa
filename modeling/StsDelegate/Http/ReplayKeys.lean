import StsDelegate.Http.Exchange
import StsDelegate.ReplaySpec
import StsDelegate.Sample.Documents

/-!
# Replay keys

Credentials of three kinds share one replay store, under keys that the exchange
builds by concatenation: `act:` or `ca:` with an identity and a `jti`, and `dpop:`
with a digest. Nothing is escaped, and both an identity and a `jti` may contain
the separator.

`replay_namespaces_apart_iff` says for which configured identities keys of different
credentials differ: no identity may be another one of its kind, a colon and more.
For clients, whose `jti` is trimmed first, the rest may begin with whitespace.
-/

namespace StsDelegate

open Text

/-! ### Trimmed texts -/

/-- A text that is not blank does not begin with whitespace once it is trimmed. -/
theorem head_trim {s : String} (h : isBlank s = false) :
    ∃ c rest, (trim s).toList = c :: rest ∧ isWhitespace c = false := by
  have hne : (trim s).toList ≠ [] := by
    intro hnil
    rw [String.toList_eq_nil_iff] at hnil
    rw [isBlank, hnil] at h
    cases h
  have hprefix : (trim s).toList <+: s.toList.dropWhile isWhitespace := by
    rw [trim, String.toList_ofList]
    exact List.rdropWhile_prefix _ _
  cases hs : (trim s).toList with
  | nil => exact absurd hs hne
  | cons c rest =>
      refine ⟨c, rest, rfl, ?_⟩
      rw [hs] at hprefix
      obtain ⟨tail, htail⟩ := hprefix
      have hdrop : s.toList.dropWhile isWhitespace ≠ [] := by
        rw [← htail]
        exact List.cons_ne_nil _ _
      have hhead := List.head_dropWhile_not isWhitespace hdrop
      simpa [← htail] using hhead

/-- A text without whitespace at its ends stays as it is. -/
theorem trim_eq_self {s : String} {c d : Char} {front rest : List Char}
    (hhead : s.toList = c :: rest) (hc : isWhitespace c = false)
    (hlast : s.toList = front ++ [d]) (hd : isWhitespace d = false) : trim s = s := by
  have hdrop : s.toList.dropWhile isWhitespace = s.toList := by
    rw [hhead]
    simp [hc]
  rw [trim, hdrop, hlast, List.rdropWhile_concat_neg _ _ _ (by simp [hd]), ← hlast,
    String.ofList_toList]

/-! ### Credentials and their keys -/

/-- What a request can present. -/
inductive CredentialKind
  | actor
  | client
  | proof
  deriving DecidableEq

/-- A credential, as far as its key goes: who presents it (`sub` or the thumbprint
of the holder's key) and its `jti`. -/
structure Presented where
  kind : CredentialKind
  identity : String
  jti : String

namespace Presented

variable [Crates]

/-- The key the exchange records the credential under. -/
def key (p : Presented) : String :=
  match p.kind with
  | .actor => actorReplayKey p.identity p.jti
  | .client => clientReplayKey p.identity (trim p.jti)
  | .proof => dpopReplayKey p.identity p.jti

omit [Crates] in
/-- The `jti` as it is compared: a client's is trimmed. -/
def comparedJti (p : Presented) : String :=
  match p.kind with
  | .client => trim p.jti
  | _ => p.jti

omit [Crates] in
/-- The same kind, the same identity and the same `jti`. -/
def Same (p q : Presented) : Prop :=
  p.kind = q.kind ∧ p.identity = q.identity ∧ p.comparedJti = q.comparedJti

omit [Crates] in
/-- Credentials that reach the replay store: identities are configured, a `jti` is
not blank, and a thumbprint has no NUL. -/
def Admitted (config : RuntimeConfig) (p : Presented) : Prop :=
  match p.kind with
  | .actor => p.identity ∈ config.actorIds ∧ isBlank p.jti = false
  | .client => p.identity ∈ config.clientIds ∧ isBlank p.jti = false
  | .proof => '\x00' ∉ p.identity.toList

end Presented

section Namespaces

variable [Crates]

/-- Keys are equal only for the same credential. -/
def NamespacesApart (config : RuntimeConfig) : Prop :=
  ∀ p q : Presented, p.Admitted config → q.Admitted config → p.key = q.key → p.Same q

/-- The recording of a credential. -/
def Presented.call (p : Presented) (exp now : Int64) : RecordCall := ⟨p.key, exp, now⟩

/-- A credential is a replay only if that very credential was presented before. -/
def NoInterference (config : RuntimeConfig) : Prop :=
  ∀ (maxSeen sweepEvery : Nat) (uses : List (Presented × Int64 × Int64)) (p : Presented)
    (exp now : Int64) (err : ReplayError), (∀ use ∈ uses, use.1.Admitted config) →
    p.Admitted config →
    ReplayStore.NowNondecreasing (uses.map (fun use => use.1.call use.2.1 use.2.2) ++
      [p.call exp now]) →
    (InMemoryReplayStore.replayStore.checkAndRecord
      (InMemoryReplayStore.replayStore.run (.new maxSeen sweepEvery)
        (uses.map fun use => use.1.call use.2.1 use.2.2)).2 (p.call exp now)).1 = .error err →
    err.kind = .replayDetected → ∃ use ∈ uses, use.1.Same p

/-- No actor identity is another one, a colon and more; for client identities the
rest may begin with whitespace. -/
def IdentitiesApart (config : RuntimeConfig) : Prop :=
  (∀ a ∈ config.actorIds, ∀ b ∈ config.actorIds, ∀ rest, b.toList ≠ a.toList ++ ':' :: rest) ∧
  ∀ a ∈ config.clientIds, ∀ b ∈ config.clientIds, ∀ rest,
    b.toList = a.toList ++ ':' :: rest → ∃ c tail, rest = c :: tail ∧ isWhitespace c = true

omit [Crates] in
theorem toList_actorReplayKey (sub jti : String) :
    (actorReplayKey sub jti).toList = 'a' :: 'c' :: 't' :: ':' :: (sub.toList ++ ':' :: jti.toList) := by
  simp [actorReplayKey]

omit [Crates] in
theorem toList_clientReplayKey (sub jti : String) :
    (clientReplayKey sub jti).toList = 'c' :: 'a' :: ':' :: (sub.toList ++ ':' :: jti.toList) := by
  simp [clientReplayKey]

theorem toList_dpopReplayKey (jkt jti : String) :
    (dpopReplayKey jkt jti).toList = 'd' :: 'p' :: 'o' :: 'p' :: ':' ::
      (hexLower (Crates.sha256 (asBytes jkt ++ [0] ++ asBytes jti))).toList := by
  simp [dpopReplayKey]

/-- The key of a proof determines holder and `jti`. -/
theorem dpopReplayKey_injective (hsha : Function.Injective Crates.sha256)
    {jkt jkt' jti jti' : String} (hnul : '\x00' ∉ jkt.toList) (hnul' : '\x00' ∉ jkt'.toList)
    (h : dpopReplayKey jkt jti = dpopReplayKey jkt' jti') : jkt = jkt' ∧ jti = jti' := by
  have hlist := congrArg String.toList h
  rw [toList_dpopReplayKey, toList_dpopReplayKey] at hlist
  simp only [List.cons.injEq, true_and, String.toList_inj] at hlist
  have hbytes := hsha (hexLower_injective hlist)
  have hnulBytes : asBytes "\x00" = [0] := by decide
  have htexts : jkt ++ "\x00" ++ jti = jkt' ++ "\x00" ++ jti' := by
    apply asBytes_injective
    simp only [asBytes_append, hnulBytes]
    exact hbytes
  have hchars := congrArg String.toList htexts
  have hcut : ∀ s t : String, (s ++ "\x00" ++ t).toList = s.toList ++ '\x00' :: t.toList := by
    intro s t
    simp
  rw [hcut, hcut] at hchars
  -- neither holder has the separator in it
  rcases append_cons_eq hchars with ⟨hjkt, -, hjti⟩ | ⟨rest, hlonger, -⟩ | ⟨rest, hlonger, -⟩
  · exact ⟨String.toList_inj.mp hjkt, String.toList_inj.mp hjti⟩
  · rw [hlonger] at hnul'
    exact absurd (List.mem_append_right _ (List.mem_cons_self ..)) hnul'
  · rw [hlonger] at hnul
    exact absurd (List.mem_append_right _ (List.mem_cons_self ..)) hnul

/-- Identities that are apart keep the keys apart. -/
theorem namespacesApart_of_identitiesApart (hsha : Function.Injective Crates.sha256)
    {config : RuntimeConfig} (h : IdentitiesApart config) : NamespacesApart config := by
  intro ⟨kind, a, j⟩ ⟨kind', b, k⟩ hp hq hkey
  have hlist := congrArg String.toList hkey
  cases kind with
  | actor =>
      cases kind' with
      | actor =>
          simp only [Presented.key, toList_actorReplayKey, List.cons.injEq, true_and] at hlist
          rcases append_cons_eq hlist with ⟨ha, -, hj⟩ | ⟨rest, hb, -⟩ | ⟨rest, ha, -⟩
          · exact ⟨rfl, String.toList_inj.mp ha, String.toList_inj.mp hj⟩
          · exact absurd hb (h.1 a hp.1 b hq.1 rest)
          · exact absurd ha (h.1 b hq.1 a hp.1 rest)
      | client => simp [Presented.key, toList_actorReplayKey, toList_clientReplayKey] at hlist
      | proof => simp [Presented.key, toList_actorReplayKey, toList_dpopReplayKey] at hlist
  | client =>
      cases kind' with
      | actor => simp [Presented.key, toList_actorReplayKey, toList_clientReplayKey] at hlist
      | client =>
          -- a trimmed `jti` cannot take in a rest that begins with whitespace
          have hclash : ∀ {x y : String} {l m : List Char}, x ∈ config.clientIds →
              y ∈ config.clientIds → y.toList = x.toList ++ ':' :: l → ∀ s : String,
              isBlank s = false → (trim s).toList = l ++ ':' :: m → False := by
            intro x y l m hx hy hext s hs htrim
            obtain ⟨c, tail, hl, hspace⟩ := h.2 x hx y hy l hext
            obtain ⟨d, rest, hhead, hword⟩ := head_trim hs
            rw [htrim, hl, List.cons_append, List.cons.injEq] at hhead
            rw [← hhead.1, hspace] at hword
            cases hword
          simp only [Presented.key, toList_clientReplayKey, List.cons.injEq, true_and] at hlist
          rcases append_cons_eq hlist with ⟨ha, -, hj⟩ | ⟨rest, hb, hj⟩ | ⟨rest, ha, hk⟩
          · exact ⟨rfl, String.toList_inj.mp ha, String.toList_inj.mp hj⟩
          · exact (hclash hp.1 hq.1 hb j hp.2 hj).elim
          · exact (hclash hq.1 hp.1 ha k hq.2 hk).elim
      | proof => simp [Presented.key, toList_clientReplayKey, toList_dpopReplayKey] at hlist
  | proof =>
      cases kind' with
      | actor => simp [Presented.key, toList_actorReplayKey, toList_dpopReplayKey] at hlist
      | client => simp [Presented.key, toList_clientReplayKey, toList_dpopReplayKey] at hlist
      | proof =>
          obtain ⟨hjkt, hjti⟩ := dpopReplayKey_injective hsha hp hq hkey
          exact ⟨rfl, hjkt, hjti⟩

omit [Crates] in
theorem ne_append_colon {a b : String} {rest : List Char} (h : b.toList = a.toList ++ ':' :: rest) :
    a ≠ b := by
  intro hab
  rw [hab] at h
  have hlength := congrArg List.length h
  simp at hlength

/-- Identities that are not apart let one take the other's keys. -/
theorem identitiesApart_of_namespacesApart {config : RuntimeConfig} (h : NamespacesApart config) :
    IdentitiesApart config := by
  -- a `jti` that ends in `:x` lets the shorter identity reach the key of the longer one with `x`
  have hblank : ∀ rest : List Char, isBlank (String.ofList (rest ++ [':', 'x'])) = false := by
    intro rest
    rw [Bool.eq_false_iff, Ne, isBlank_iff]
    intro hall
    have hspace : isWhitespace 'x' = true := hall 'x' (by simp)
    revert hspace
    decide
  have hx : isBlank "x" = false := by decide
  refine ⟨fun a ha b hb rest hext => ?_, fun a ha b hb rest hext => ?_⟩
  · have hkey : (⟨.actor, a, String.ofList (rest ++ [':', 'x'])⟩ : Presented).key =
        (⟨.actor, b, "x"⟩ : Presented).key := by
      rw [← String.toList_inj]
      simp [Presented.key, toList_actorReplayKey, hext]
    have hsame := h ⟨.actor, a, String.ofList (rest ++ [':', 'x'])⟩ ⟨.actor, b, "x"⟩
      ⟨ha, hblank rest⟩ ⟨hb, hx⟩ hkey
    exact ne_append_colon hext hsame.2.1
  · by_contra hword
    have hfirst : ∃ c tail, rest ++ [':', 'x'] = c :: tail ∧ isWhitespace c = false := by
      cases rest with
      | nil => exact ⟨':', ['x'], rfl, by decide⟩
      | cons c tail =>
          refine ⟨c, tail ++ [':', 'x'], rfl, ?_⟩
          rw [Bool.eq_false_iff]
          exact fun hspace => hword ⟨c, tail, rfl, hspace⟩
    obtain ⟨c, tail, hcons, hc⟩ := hfirst
    -- no whitespace at either end, so the `jti` is kept as it is
    have htrim : trim (String.ofList (rest ++ [':', 'x'])) = String.ofList (rest ++ [':', 'x']) := by
      have hhead : (String.ofList (rest ++ [':', 'x'])).toList = c :: tail := by
        rw [String.toList_ofList, hcons]
      have hlast : (String.ofList (rest ++ [':', 'x'])).toList = (rest ++ [':']) ++ ['x'] := by
        rw [String.toList_ofList, List.append_assoc]
        rfl
      exact trim_eq_self hhead hc hlast (by decide)
    have htrimx : trim "x" = "x" := by decide
    have hkey : (⟨.client, a, String.ofList (rest ++ [':', 'x'])⟩ : Presented).key =
        (⟨.client, b, "x"⟩ : Presented).key := by
      rw [← String.toList_inj]
      simp only [Presented.key, htrim, htrimx, toList_clientReplayKey, hext]
      simp
    have hsame := h ⟨.client, a, String.ofList (rest ++ [':', 'x'])⟩ ⟨.client, b, "x"⟩
      ⟨ha, hblank rest⟩ ⟨hb, hx⟩ hkey
    exact ne_append_colon hext hsame.2.1

/-- Where keys are apart, only the credential itself makes it a replay. -/
theorem noInterference_of_namespacesApart {config : RuntimeConfig} (h : NamespacesApart config) :
    NoInterference config := by
  intro maxSeen sweepEvery uses p exp now err huses hp htime herr hkind
  have hconforms := (InMemoryReplayStore.refines maxSeen sweepEvery).conforms _ _ htime
  obtain ⟨c, r, hmem, hjti, -⟩ := hconforms.replayed err herr hkind
  have hcall := List.mem_map_of_mem (f := Prod.fst) hmem
  rw [ReplayStore.run_calls, List.mem_map] at hcall
  obtain ⟨use, huse, hc⟩ := hcall
  refine ⟨use, huse, h use.1 p (huses use huse) hp ?_⟩
  have hkey : c.jti = use.1.key := congrArg RecordCall.jti hc.symm
  rw [← hkey, hjti]
  rfl

/-- **Replay namespaces are apart exactly for identities that are.** -/
theorem replay_namespaces_apart_iff (hsha : Function.Injective Crates.sha256)
    (config : RuntimeConfig) :
    (NamespacesApart config ∧ NoInterference config) ↔ IdentitiesApart config := by
  constructor
  · exact fun h => identitiesApart_of_namespacesApart h.1
  · intro h
    have hapart := namespacesApart_of_identitiesApart hsha h
    exact ⟨hapart, noInterference_of_namespacesApart hapart⟩

end Namespaces

section

open Sample

/-- The sample server with two actors, one of which extends the other. -/
def nestedConfig : RuntimeConfig :=
  { config .both 8 (by decide) with
    actorIds := .ofList ["svc", "svc:a"]
    actorIds_nonblank := by
      intro id hid
      rcases OrdSet.mem_ofList.mp hid with _ | ⟨_, _ | ⟨_, h⟩⟩
      · decide
      · decide
      · cases h }

/-- The sample identities are apart. -/
theorem sample_namespaces_apart :
    (NamespacesApart (config .both 8 (by decide)) ∧ NoInterference (config .both 8 (by decide))) ↔
      IdentitiesApart (config .both 8 (by decide)) :=
  replay_namespaces_apart_iff sha256_injective _

/-- **One actor uses up another's `jti`.** The actor `svc` presents the `jti` `a:1`;
afterwards the first credential of the actor `svc:a`, with `jti` `1`, is a replay. -/
theorem replay_keys_collide :
    ¬ NamespacesApart nestedConfig ∧ ¬ NoInterference nestedConfig := by
  have hsvc : (⟨.actor, "svc", "a:1"⟩ : Presented).Admitted nestedConfig :=
    ⟨OrdSet.mem_ofList.mpr (by simp), by decide⟩
  have hnested : (⟨.actor, "svc:a", "1"⟩ : Presented).Admitted nestedConfig :=
    ⟨OrdSet.mem_ofList.mpr (by simp), by decide⟩
  have hkey : (⟨.actor, "svc", "a:1"⟩ : Presented).key = (⟨.actor, "svc:a", "1"⟩ : Presented).key := by
    decide
  have hother : ¬ (⟨.actor, "svc", "a:1"⟩ : Presented).Same ⟨.actor, "svc:a", "1"⟩ := by
    intro h
    exact absurd h.2.1 (by decide)
  refine ⟨fun h => hother (h _ _ hsvc hnested hkey), fun h => ?_⟩
  have hreplay : (InMemoryReplayStore.replayStore.checkAndRecord
      (InMemoryReplayStore.replayStore.run (.new 8 1)
        [⟨actorReplayKey "svc" "a:1", 100, 10⟩]).2 ⟨actorReplayKey "svc:a" "1", 100, 20⟩).1 =
        .error ⟨.replayDetected, "actor_token replay detected"⟩ := by
    decide
  have htime : ReplayStore.NowNondecreasing [⟨actorReplayKey "svc" "a:1", 100, 10⟩,
      ⟨actorReplayKey "svc:a" "1", 100, 20⟩] :=
    List.pairwise_pair.mpr (by decide)
  obtain ⟨use, huse, hsame⟩ := h 8 1 [(⟨.actor, "svc", "a:1"⟩, 100, 10)] ⟨.actor, "svc:a", "1"⟩ 100
    20 _ (by simpa using hsvc) hnested htime hreplay rfl
  cases List.mem_singleton.mp huse
  exact hother hsame

end

end StsDelegate

import GatewayCompiler.Proofs.Base64
import GatewayCompiler.Proofs.Gateway.References
import GatewayCompiler.Proofs.Wire.Listener

/-!
# Certificates that reach the proxy

An HTTPS listener is planned exactly when each of its references leads to a certificate, and then
the proxy reads these certificates from the chain of the listener, byte for byte and in the order of
the references.  A Secret holds a certificate in Base64, with blanks around it or not.
-/

namespace GatewayCompiler

namespace Secret

/-- What stands under a key, without the blanks around it, is the Base64 of these bytes. -/
def Holds (secret : Secret) (key : String) (bytes : Wire.Bytes) : Prop :=
  ∃ before after : String, (∀ c ∈ before.toList, Text.isBlank c) ∧
    (∀ c ∈ after.toList, Text.isBlank c) ∧
    secret.data.get? key = some (before ++ Base64.encode bytes ++ after)

variable {secret : Secret} {key : String} {bytes : Wire.Bytes}

theorem bytes?_eq_some_ok_iff : secret.bytes? key = some (.ok bytes) ↔ secret.Holds key bytes := by
  rw [bytes?, Option.map_eq_some_iff]
  constructor
  · rintro ⟨text, htext, hdecode⟩
    obtain ⟨before, after, hbefore, hafter, rfl⟩ := Base64.decode_trim_eq_ok_iff.1 hdecode
    exact ⟨before, after, hbefore, hafter, htext⟩
  · rintro ⟨before, after, hbefore, hafter, htext⟩
    exact ⟨_, htext, Base64.decode_trim_eq_ok_iff.2 ⟨before, after, hbefore, hafter, rfl⟩⟩

theorem requiredBytes_eq_ok_iff :
    secret.requiredBytes key = .ok bytes ↔ secret.Holds key bytes ∧ bytes ≠ [] := by
  rw [← bytes?_eq_some_ok_iff, requiredBytes]
  split
  · next hempty =>
      rw [hempty]
      constructor
      · intro h
        cases h
      · rintro ⟨⟨⟩, hne⟩
        exact absurd rfl hne
  · next found hne hfound =>
      rw [hfound]
      constructor
      · rintro ⟨⟩
        exact ⟨rfl, hne⟩
      · rintro ⟨⟨⟩, -⟩
        rfl
  · next herror => simp [herror]
  · next hnone => simp [hnone]

/-- The certificate and the key of a Secret are what it holds under the keys of each. -/
structure HoldsCertificate (secret : Secret) (certificate : CertificatePlan) : Prop where
  chain : secret.Holds "tls.crt" certificate.certificateChain
  chain_ne_nil : certificate.certificateChain ≠ []
  key : secret.Holds "tls.key" certificate.privateKey
  key_ne_nil : certificate.privateKey ≠ []

theorem certificate_eq_ok_iff {certificate : CertificatePlan} :
    secret.certificate = .ok certificate ↔ secret.HoldsCertificate certificate := by
  simp only [Secret.certificate, bind_eq_ok, pure_eq_ok, requiredBytes_eq_ok_iff]
  constructor
  · rintro ⟨chain, ⟨hchain, hchainNe⟩, key, ⟨hkey, hkeyNe⟩, rfl⟩
    exact ⟨hchain, hchainNe, hkey, hkeyNe⟩
  · rintro ⟨hchain, hchainNe, hkey, hkeyNe⟩
    exact ⟨_, ⟨hchain, hchainNe⟩, _, ⟨hkey, hkeyNe⟩, rfl⟩

end Secret

namespace CertificateRef

/-- The reference is to a core Secret that the Gateway may refer to, and the Secret is there and
holds this certificate. -/
structure Provides (ref : CertificateRef) (snapshot : Snapshot) (gateway : ObjectKey)
    (certificate : CertificatePlan) : Prop where
  groupKind_eq : ref.groupKind = GroupKind.secret
  authorized : gateway.ns ≠ ref.ns.getD gateway.ns → snapshot.Grants (ref.reference gateway)
  held : ∃ secret, snapshot.secret? ⟨ref.ns.getD gateway.ns, ref.name⟩ = some secret ∧
    secret.HoldsCertificate certificate

/-- Each reference provides the certificate at its place. -/
def AllProvide (refs : List CertificateRef) (snapshot : Snapshot) (gateway : ObjectKey)
    (certificates : List CertificatePlan) : Prop :=
  List.Forall₂ (fun ref certificate => ref.Provides snapshot gateway certificate) refs certificates

theorem exists_allProvide_iff {refs : List CertificateRef} {snapshot : Snapshot}
    {gateway : ObjectKey} :
    (∃ certificates, AllProvide refs snapshot gateway certificates) ↔
      ∀ ref ∈ refs, ∃ certificate, ref.Provides snapshot gateway certificate := by
  induction refs with
  | nil => simp [AllProvide]
  | cons ref refs ih =>
      rw [List.forall_mem_cons, ← ih]
      constructor
      · rintro ⟨_, _ | ⟨hfirst, hrest⟩⟩
        exact ⟨⟨_, hfirst⟩, _, hrest⟩
      · rintro ⟨⟨certificate, hfirst⟩, certificates, hrest⟩
        exact ⟨certificate :: certificates, .cons hfirst hrest⟩

theorem resolve_eq_ok_iff {ref : CertificateRef} {snapshot : Snapshot} {gateway : ObjectRef}
    {field : String} {certificate : CertificatePlan} :
    ref.resolve snapshot gateway field = .ok certificate ↔
      ref.Provides snapshot gateway.key certificate := by
  rw [resolve]
  by_cases hkind : ref.groupKind = GroupKind.secret
  · rw [if_neg (by simp [hkind]), bind_eq_ok]
    constructor
    · rintro ⟨⟨⟩, hauthorized, h⟩
      refine ⟨hkind, Snapshot.ensureAuthorized_eq_ok_iff.1 hauthorized, ?_⟩
      split at h
      · next secret hsecret => exact ⟨secret, hsecret, Secret.certificate_eq_ok_iff.1 h⟩
      · cases h
    · rintro ⟨-, hauthorized, secret, hsecret, hholds⟩
      have hsecret : snapshot.secret? ⟨ref.ns.getD gateway.ns, ref.name⟩ = some secret := hsecret
      refine ⟨(), Snapshot.ensureAuthorized_eq_ok_iff.2 hauthorized, ?_⟩
      rw [hsecret]
      exact Secret.certificate_eq_ok_iff.2 hholds
  · rw [if_pos (by simpa using hkind)]
    constructor
    · intro h
      cases h
    · rintro ⟨hsecret, -, -⟩
      exact absurd hsecret hkind

end CertificateRef

/-- TLS is terminated with at least one certificate, and each reference provides its own. -/
theorem ListenerTls.plan_eq_ok_iff {tls : ListenerTls} (hmode : tls.mode = .terminate)
    {snapshot : Snapshot} {gateway : ObjectRef} {field : String} {plan : TlsPlan} :
    tls.plan snapshot gateway field = .ok plan ↔
      tls.certificateRefs ≠ [] ∧
      CertificateRef.AllProvide tls.certificateRefs snapshot gateway.key plan.certificates := by
  have hrefs (certificates : List CertificatePlan) :
      List.Forall₂ (fun (entry : CertificateRef × Nat) certificate =>
          entry.1.resolve snapshot gateway s!"{field}.certificateRefs[{entry.2}]" = .ok certificate)
        tls.certificateRefs.zipIdx certificates ↔
      CertificateRef.AllProvide tls.certificateRefs snapshot gateway.key certificates := by
    rw [CertificateRef.AllProvide]
    simp only [CertificateRef.resolve_eq_ok_iff]
    conv_rhs => rw [← List.zipIdx_map_fst 0 tls.certificateRefs, List.forall₂_map_left_iff]
  rw [ListenerTls.plan, if_neg (by simp [hmode])]
  by_cases hnone : tls.certificateRefs.isEmpty
  · rw [if_pos hnone]
    constructor
    · intro h
      cases h
    · rintro ⟨hne, -⟩
      exact absurd (List.isEmpty_iff.1 hnone) hne
  · rw [if_neg hnone, bind_eq_ok]
    simp only [mapM_eq_ok_iff, hrefs, pure_eq_ok]
    constructor
    · rintro ⟨certificates, hcertificates, rfl⟩
      exact ⟨mt List.isEmpty_iff.2 hnone, hcertificates⟩
    · rintro ⟨-, hcertificates⟩
      exact ⟨_, hcertificates, rfl⟩

namespace Envoy

/-- The certificates that the transport socket of a chain is read as. -/
def FilterChain.certificates? (chain : FilterChain) : Option (List TlsCertificate) := do
  let socket ← chain.transportSocket
  let config ← socket.config
  if config.typeUrl = tlsContextType then
    let context ← TlsContext.decode? config.value
    return context.certificates
  else none

end Envoy

/-- The listener that the plan becomes has one chain, which is read with these certificates, inline
and in this order. -/
def ListenerPlan.Delivers (plan : ListenerPlan) (certificates : List CertificatePlan) : Prop :=
  ∃ emitted chain, plan.toListener = .ok emitted ∧
    Envoy.Listener.decode? emitted.encode = some emitted ∧ emitted.filterChains = [chain] ∧
    chain.certificates? = some (certificates.map fun certificate =>
      ⟨some (.bytes certificate.certificateChain), some (.bytes certificate.privateKey)⟩)

theorem ListenerPlan.delivers_of_chain {plan : ListenerPlan} {chain : ChainPlan} {tls : TlsPlan}
    (hchains : plan.chains = [chain]) (htls : chain.tls = some tls) :
    plan.Delivers tls.certificates := by
  refine ⟨_, chain.toFilterChain, by rw [toListener, hchains]; rfl,
    Envoy.Listener.decode?_encode _, rfl, ?_⟩
  simp [Envoy.FilterChain.certificates?, ChainPlan.toFilterChain, htls, TlsPlan.toTransportSocket,
    Envoy.TlsContext.decode?_encode, TlsPlan.toContext, CertificatePlan.toCertificate]

namespace Listener

/-- An HTTPS listener carries the certificates of its references to the proxy. -/
structure CarriesCertificates (listener : Listener) (refs : List CertificateRef)
    (snapshot : Snapshot) (settings : Settings) (gateway : Gateway) (index : Nat) : Prop where
  /-- It is planned exactly when there is a reference and each of them provides a certificate. -/
  planned_iff : (∃ plan, listener.plan snapshot settings gateway index = .ok plan) ↔
    refs ≠ [] ∧ ∀ ref ∈ refs, ∃ certificate, ref.Provides snapshot gateway.key certificate
  /-- The proxy reads one certificate for each reference, which is the one it provides. -/
  received : ∀ plan, listener.plan snapshot settings gateway index = .ok plan →
    ∃ certificates, CertificateRef.AllProvide refs snapshot gateway.key certificates ∧
      plan.Delivers certificates
  /-- Whatever certificates are provided are those that the proxy reads. -/
  stored : ∀ certificates, refs ≠ [] →
    CertificateRef.AllProvide refs snapshot gateway.key certificates →
    ∃ plan, listener.plan snapshot settings gateway index = .ok plan ∧ plan.Delivers certificates

variable {listener : Listener} {snapshot : Snapshot} {settings : Settings} {gateway : Gateway}
  {index : Nat} {tls : ListenerTls}

theorem tlsPlan_eq_of_https (hprotocol : listener.protocol = "HTTPS")
    (htls : listener.tls = some tls) (gateway : ObjectRef) (field : String) :
    listener.tlsPlan snapshot gateway field =
      (tls.plan snapshot gateway s!"{field}.tls").map some := by
  rw [tlsPlan, hprotocol, htls]
  rfl

/-- A planned HTTPS listener has one chain, with the TLS that is planned for it. -/
theorem exists_chain_of_plan (hprotocol : listener.protocol = "HTTPS")
    (htls : listener.tls = some tls) {plan : ListenerPlan}
    (h : listener.plan snapshot settings gateway index = .ok plan) :
    ∃ field terminated chain, tls.plan snapshot gateway.ref field = .ok terminated ∧
      plan.chains = [chain] ∧ chain.tls = some terminated := by
  rw [Listener.plan, tlsPlan_eq_of_https hprotocol htls, bind_eq_ok] at h
  obtain ⟨planned, hplanned, h⟩ := h
  obtain ⟨terminated, hterminated, rfl⟩ := map_eq_ok.1 hplanned
  cases h
  exact ⟨_, terminated, _, hterminated, rfl, rfl⟩

theorem exists_plan_of_tls (hprotocol : listener.protocol = "HTTPS")
    (htls : listener.tls = some tls) {terminated : TlsPlan}
    (h : ∀ field, tls.plan snapshot gateway.ref field = .ok terminated) :
    ∃ plan, listener.plan snapshot settings gateway index = .ok plan := by
  rw [Listener.plan, tlsPlan_eq_of_https hprotocol htls, h]
  exact ⟨_, rfl⟩

theorem delivers_of_plan (hprotocol : listener.protocol = "HTTPS") (htls : listener.tls = some tls)
    (hmode : tls.mode = .terminate) {plan : ListenerPlan}
    (h : listener.plan snapshot settings gateway index = .ok plan) :
    tls.certificateRefs ≠ [] ∧ ∃ certificates,
      CertificateRef.AllProvide tls.certificateRefs snapshot gateway.key certificates ∧
      plan.Delivers certificates := by
  obtain ⟨field, terminated, chain, hterminated, hchains, hchain⟩ :=
    exists_chain_of_plan hprotocol htls h
  obtain ⟨hne, hprovide⟩ := (ListenerTls.plan_eq_ok_iff hmode).1 hterminated
  exact ⟨hne, _, hprovide, ListenerPlan.delivers_of_chain hchains hchain⟩

theorem exists_plan_of_allProvide (hprotocol : listener.protocol = "HTTPS")
    (htls : listener.tls = some tls) (hmode : tls.mode = .terminate)
    (hne : tls.certificateRefs ≠ []) {certificates : List CertificatePlan}
    (hprovide : CertificateRef.AllProvide tls.certificateRefs snapshot gateway.key certificates) :
    ∃ plan, listener.plan snapshot settings gateway index = .ok plan ∧
      plan.Delivers certificates := by
  have hplanned : ∀ field, tls.plan snapshot gateway.ref field = .ok ⟨certificates⟩ :=
    fun _ => (ListenerTls.plan_eq_ok_iff hmode).2 ⟨hne, hprovide⟩
  obtain ⟨plan, hplan⟩ := exists_plan_of_tls hprotocol htls hplanned
  obtain ⟨field, terminated, chain, hterminated, hchains, hchain⟩ :=
    exists_chain_of_plan hprotocol htls hplan
  obtain rfl : terminated = ⟨certificates⟩ :=
    Except.ok.inj (hterminated.symm.trans (hplanned field))
  exact ⟨plan, hplan, ListenerPlan.delivers_of_chain hchains hchain⟩

/-- For every snapshot, settings and Gateway, an HTTPS listener that terminates TLS carries to the
proxy what is stored for its references. -/
theorem carriesCertificates_of_terminate (hprotocol : listener.protocol = "HTTPS")
    (htls : listener.tls = some tls) (hmode : tls.mode = .terminate) (snapshot : Snapshot)
    (settings : Settings) (gateway : Gateway) (index : Nat) :
    listener.CarriesCertificates tls.certificateRefs snapshot settings gateway index where
  planned_iff := by
    constructor
    · rintro ⟨plan, hplan⟩
      obtain ⟨hne, certificates, hprovide, _⟩ := delivers_of_plan hprotocol htls hmode hplan
      exact ⟨hne, CertificateRef.exists_allProvide_iff.1 ⟨certificates, hprovide⟩⟩
    · rintro ⟨hne, heach⟩
      obtain ⟨certificates, hprovide⟩ := CertificateRef.exists_allProvide_iff.2 heach
      obtain ⟨plan, hplan, _⟩ := exists_plan_of_allProvide hprotocol htls hmode hne hprovide
      exact ⟨plan, hplan⟩
  received plan hplan := (delivers_of_plan hprotocol htls hmode hplan).2
  stored _ hne hprovide := exists_plan_of_allProvide hprotocol htls hmode hne hprovide

end Listener

namespace Sample

/-- A Secret of the Gateway's own namespace, with blanks around its values. -/
def spaced : Secret :=
  ⟨metadata "infra" "spaced", none,
    Table.ofList [("tls.crt", "\n  AAEC\t"), ("tls.key", "/w==\u3000")]⟩

def twofold : ListenerTls :=
  ⟨.terminate, [⟨none, none, "wildcard", some "certs"⟩, ⟨none, none, "spaced", none⟩]⟩

/-- An HTTPS listener with certificates of two namespaces. -/
def secure : Listener :=
  listener "secure" 8443 "HTTPS" none (some twofold)

def secrets : Snapshot :=
  snapshot.insert (.secret spaced)

end Sample

theorem Listener.carriesCertificates_of_sample :
    Sample.secure.protocol = "HTTPS" ∧ Sample.secure.tls = some Sample.twofold ∧
    Sample.twofold.mode = .terminate ∧
    (Sample.secure.plan Sample.secrets .default Sample.gateway 2).map (fun plan =>
      plan.chains.map fun chain => chain.tls.map (·.certificates)) =
        .ok [some [⟨[99, 101, 114, 116], [107, 101, 121]⟩, ⟨[0, 1, 2], [255]⟩]] ∧
    Sample.secure.CarriesCertificates Sample.twofold.certificateRefs Sample.secrets .default
      Sample.gateway 2 :=
  ⟨rfl, rfl, rfl, by decide +kernel, carriesCertificates_of_terminate rfl rfl rfl _ _ _ _⟩

end GatewayCompiler

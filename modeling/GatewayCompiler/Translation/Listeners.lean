import GatewayCompiler.Naming
import GatewayCompiler.Plan.Listener
import GatewayCompiler.Settings
import GatewayCompiler.Snapshot

/-!
# Planned listeners

An HTTP listener has no certificates; an HTTPS listener terminates TLS with the certificates of the
Secrets it refers to.  Every listener becomes one planned listener with one chain.
-/

namespace GatewayCompiler

namespace Secret

/-- The bytes under a key that a certificate needs. -/
def requiredBytes (secret : Secret) (key : String) : Except Fault Wire.Bytes :=
  let invalid (detail : String) : Except Fault Wire.Bytes :=
    .error (.invalid secret.ref s!"data.{key}" detail)
  match secret.bytes? key with
  | some (.ok []) => invalid "value is empty"
  | some (.ok bytes) => .ok bytes
  | some (.error e) => invalid s!"value is not valid base64: {e.message}"
  | none => invalid "TLS Secret is missing this key"

/-- The certificate and key that a Secret holds. -/
def certificate (secret : Secret) : Except Fault CertificatePlan := do
  let certificateChain ← secret.requiredBytes "tls.crt"
  let privateKey ← secret.requiredBytes "tls.key"
  return ⟨certificateChain, privateKey⟩

end Secret

namespace CertificateRef

/-- The certificate that a Gateway refers to.  The reference is authorized before anything of its
target is looked at. -/
def resolve (ref : CertificateRef) (snapshot : Snapshot) (gateway : ObjectRef) (field : String) :
    Except Fault CertificatePlan := do
  if ref.groupKind != GroupKind.secret then
    throw (.unsupported gateway field
      s!"certificate reference kind {ref.groupKind.display} is not supported, only core Secret")
  let target : ObjectKey := ⟨ref.ns.getD gateway.ns, ref.name⟩
  snapshot.ensureAuthorized gateway GroupKind.gateway GroupKind.secret target field
  let some secret := snapshot.secret? target
    | throw (.notFound ⟨"Secret", target.ns, target.name⟩ (some s!"{gateway.display} {field}"))
  secret.certificate

end CertificateRef

namespace ListenerTls

def plan (tls : ListenerTls) (snapshot : Snapshot) (gateway : ObjectRef) (field : String) :
    Except Fault TlsPlan := do
  if tls.mode = .passthrough then
    throw (.unsupported gateway s!"{field}.mode" "TLS passthrough is not supported")
  if tls.certificateRefs.isEmpty then
    throw (.invalid gateway s!"{field}.certificateRefs"
      "TLS termination requires at least one certificate reference")
  let certificates ← tls.certificateRefs.zipIdx.mapM fun (ref, index) =>
    ref.resolve snapshot gateway s!"{field}.certificateRefs[{index}]"
  return ⟨certificates⟩

end ListenerTls

namespace Listener

/-- What the listener terminates TLS with, by its protocol. -/
def tlsPlan (listener : Listener) (snapshot : Snapshot) (gateway : ObjectRef) (field : String) :
    Except Fault (Option TlsPlan) :=
  match listener.protocol, listener.tls with
  | "HTTP", none => .ok none
  | "HTTP", some _ =>
    .error (.invalid gateway s!"{field}.tls" "tls must not be set on an HTTP listener")
  | "HTTPS", none =>
    .error (.invalid gateway s!"{field}.tls" "HTTPS listener requires tls configuration")
  | "HTTPS", some tls => (tls.plan snapshot gateway s!"{field}.tls").map some
  | other, _ => .error <| .unsupported gateway s!"{field}.protocol"
      s!"protocol '{other}' is not supported (HTTP and HTTPS are)"

/-- The hosts that a chain with TLS is chosen for; none stands for every host. -/
def serverNames (listener : Listener) (tls : Option TlsPlan) : List String :=
  if tls.isSome then (listener.hostname.filter (· ≠ "")).toList else []

/-- The planned listener of the listener at a place in its Gateway. -/
def plan (listener : Listener) (snapshot : Snapshot) (settings : Settings) (gateway : Gateway)
    (index : Nat) : Except Fault ListenerPlan := do
  let tls ← listener.tlsPlan snapshot gateway.ref s!"spec.listeners[{index}]"
  let name := Naming.listener gateway.key listener.name
  return {
    name
    address := settings.listenerAddress
    port := listener.port.toUInt32
    chains := [{
      name := some name
      serverNames := listener.serverNames tls
      routeConfigName := Naming.routeConfiguration gateway.key listener.name
      statPrefix := Naming.statistics name
      tls }]
    metadata := Table.ofList [
      ("gateway", gateway.key.display),
      ("listener", listener.name),
      ("protocol", listener.protocol)]
    inspectsTls := tls.isSome }

end Listener

end GatewayCompiler

import GatewayCompiler.Proofs.Schema.Records
import GatewayCompiler.Schema.Gateway

/-!
# Parts of Gateways read back

Every part of a Gateway is read back from its JSON form, field by field: certificates, label
selectors, the routes that a listener admits, and listeners.
-/

namespace GatewayCompiler

open Schema

theorem SelectorOperator.roundTrips : RoundTrips (Writer.enumeration SelectorOperator.words)
    (Reader.enumeration SelectorOperator.words) :=
  .enumeration fun operator => by cases operator <;> exact ⟨_, rfl, rfl⟩

theorem SelectorExpression.roundTrips :
    RoundTrips SelectorExpression.toJson SelectorExpression.reader :=
  .record fun _ =>
    (Reads.required .string (by simp)).map SelectorExpression.mk
      |>.seq (.required SelectorOperator.roundTrips (by simp))
      |>.seq (.list .string (by simp))

theorem LabelSelector.roundTrips : RoundTrips LabelSelector.toJson LabelSelector.reader :=
  .record fun _ =>
    (Reads.withDefault .stringTable (by simp)).map LabelSelector.mk
      |>.seq (.list SelectorExpression.roundTrips (by simp))

theorem CertificateRef.roundTrips : RoundTrips CertificateRef.toJson CertificateRef.reader :=
  .record fun _ =>
    (Reads.nullable .string (by simp)).map CertificateRef.mk
      |>.seq (.nullable .string (by simp))
      |>.seq (.required .string (by simp))
      |>.seq (.nullable .string (by simp))

theorem TlsMode.roundTrips :
    RoundTrips (Writer.enumeration TlsMode.words) (Reader.enumeration TlsMode.words) :=
  .enumeration fun mode => by cases mode <;> exact ⟨_, rfl, rfl⟩

theorem ListenerTls.roundTrips : RoundTrips ListenerTls.toJson ListenerTls.reader :=
  .record fun _ =>
    (Reads.withDefault TlsMode.roundTrips (by simp)).map ListenerTls.mk
      |>.seq (.list CertificateRef.roundTrips (by simp))

theorem NamespaceScope.roundTrips : RoundTrips (Writer.enumeration NamespaceScope.words)
    (Reader.enumeration NamespaceScope.words) :=
  .enumeration fun scope => by cases scope <;> exact ⟨_, rfl, rfl⟩

theorem RouteNamespaces.roundTrips : RoundTrips RouteNamespaces.toJson RouteNamespaces.reader :=
  .record fun _ =>
    (Reads.withDefault NamespaceScope.roundTrips (by simp)).map RouteNamespaces.mk
      |>.seq (.nullable LabelSelector.roundTrips (by simp))

theorem RouteKind.roundTrips : RoundTrips RouteKind.toJson RouteKind.reader :=
  .record fun _ =>
    (Reads.nullable .string (by simp)).map RouteKind.mk
      |>.seq (.required .string (by simp))

theorem AllowedRoutes.roundTrips : RoundTrips AllowedRoutes.toJson AllowedRoutes.reader :=
  .record fun _ =>
    (Reads.nullable RouteNamespaces.roundTrips (by simp)).map AllowedRoutes.mk
      |>.seq (.list RouteKind.roundTrips (by simp))

theorem Listener.roundTrips : RoundTrips Listener.toJson Listener.reader :=
  .record fun _ =>
    (Reads.required .string (by simp)).map Listener.mk
      |>.seq (.required .uint16 (by simp))
      |>.seq (.required .string (by simp))
      |>.seq (.ifSome .string (by simp))
      |>.seq (.ifSome ListenerTls.roundTrips (by simp))
      |>.seq (.ifSome AllowedRoutes.roundTrips (by simp))

end GatewayCompiler

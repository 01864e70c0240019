import GatewayCompiler.Proofs.Schema.Records
import GatewayCompiler.Schema.HttpRoute

/-!
# Parts of HTTP routes read back

Every part of a route is read back from its JSON form, field by field: parents, matches, filters of
every kind, backends with ports by number or by name, and rules.
-/

namespace GatewayCompiler

open Schema

theorem ParentRef.roundTrips : RoundTrips ParentRef.toJson ParentRef.reader :=
  .record fun _ =>
    (Reads.nullable .string (by simp)).map ParentRef.mk
      |>.seq (.nullable .string (by simp))
      |>.seq (.nullable .string (by simp))
      |>.seq (.required .string (by simp))
      |>.seq (.nullable .string (by simp))
      |>.seq (.nullable .uint16 (by simp))

theorem PathMatchKind.roundTrips : RoundTrips (Writer.enumeration PathMatchKind.words)
    (Reader.enumeration PathMatchKind.words) :=
  .enumeration fun kind => by cases kind <;> exact ⟨_, rfl, rfl⟩

theorem PathMatch.roundTrips : RoundTrips PathMatch.toJson PathMatch.reader :=
  .record fun _ =>
    (Reads.withDefault PathMatchKind.roundTrips (by simp)).map PathMatch.mk
      |>.seq (.withDefault .string (by simp))

theorem ValueMatchKind.roundTrips : RoundTrips (Writer.enumeration ValueMatchKind.words)
    (Reader.enumeration ValueMatchKind.words) :=
  .enumeration fun kind => by cases kind <;> exact ⟨_, rfl, rfl⟩

theorem ValueMatch.roundTrips (typeName : String) :
    RoundTrips ValueMatch.toJson (ValueMatch.reader typeName) :=
  .record fun _ =>
    (Reads.withDefault ValueMatchKind.roundTrips (by simp)).map ValueMatch.mk
      |>.seq (.required .string (by simp))
      |>.seq (.required .string (by simp))

theorem RouteMatch.roundTrips : RoundTrips RouteMatch.toJson RouteMatch.reader :=
  .record fun _ =>
    (Reads.nullable PathMatch.roundTrips (by simp)).map RouteMatch.mk
      |>.seq (.list (ValueMatch.roundTrips "HttpHeaderMatch") (by simp))
      |>.seq (.list (ValueMatch.roundTrips "HttpQueryParamMatch") (by simp))
      |>.seq (.nullable .string (by simp))

theorem HttpHeader.roundTrips : RoundTrips HttpHeader.toJson HttpHeader.reader :=
  .record fun _ =>
    (Reads.required .string (by simp)).map HttpHeader.mk
      |>.seq (.required .string (by simp))

theorem HeaderModifier.roundTrips : RoundTrips HeaderModifier.toJson HeaderModifier.reader :=
  .record fun _ =>
    (Reads.list HttpHeader.roundTrips (by simp)).map HeaderModifier.mk
      |>.seq (.list HttpHeader.roundTrips (by simp))
      |>.seq (.list .string (by simp))

theorem PathModifier.roundTrips : RoundTrips PathModifier.toJson PathModifier.reader :=
  .record fun _ =>
    (Reads.required .string (by simp)).map PathModifier.mk
      |>.seq (.nullable .string (by simp))
      |>.seq (.nullable .string (by simp))

theorem RequestRedirect.roundTrips : RoundTrips RequestRedirect.toJson RequestRedirect.reader :=
  .record fun _ =>
    (Reads.nullable .string (by simp)).map RequestRedirect.mk
      |>.seq (.nullable .string (by simp))
      |>.seq (.nullable PathModifier.roundTrips (by simp))
      |>.seq (.nullable .uint16 (by simp))
      |>.seq (.nullable .uint16 (by simp))

theorem UrlRewrite.roundTrips : RoundTrips UrlRewrite.toJson UrlRewrite.reader :=
  .record fun _ =>
    (Reads.nullable .string (by simp)).map UrlRewrite.mk
      |>.seq (.nullable PathModifier.roundTrips (by simp))

theorem RouteFilter.roundTrips : RoundTrips RouteFilter.toJson RouteFilter.reader :=
  .record fun _ =>
    (Reads.required .string (by simp)).map RouteFilter.mk
      |>.seq (.ifSome HeaderModifier.roundTrips (by simp))
      |>.seq (.ifSome HeaderModifier.roundTrips (by simp))
      |>.seq (.ifSome RequestRedirect.roundTrips (by simp))
      |>.seq (.ifSome UrlRewrite.roundTrips (by simp))

theorem BackendPort.reader_of_number {json : Json} {port : UInt16}
    (h : Reader.uint16 json = .ok port) : BackendPort.reader json = .ok (.number port) := by
  simp only [BackendPort.reader, h]

/-- A name of digits is written as a string, so it is not read as a number. -/
theorem BackendPort.roundTrips : RoundTrips BackendPort.toJson BackendPort.reader where
  read_write port := by
    cases port with
    | number port => exact reader_of_number (RoundTrips.uint16.read_write port)
    | name value => rfl
  write_ne_null port := by
    cases port with
    | number port => exact RoundTrips.uint16.write_ne_null port
    | name value => exact RoundTrips.string.write_ne_null value

theorem BackendRef.roundTrips : RoundTrips BackendRef.toJson BackendRef.reader :=
  .record fun _ =>
    (Reads.nullable .string (by simp)).map BackendRef.mk
      |>.seq (.nullable .string (by simp))
      |>.seq (.required .string (by simp))
      |>.seq (.nullable .string (by simp))
      |>.seq (.nullable BackendPort.roundTrips (by simp))
      |>.seq (.nullable .uint32 (by simp))
      |>.seq (.list RouteFilter.roundTrips (by simp))

theorem RouteRule.roundTrips : RoundTrips RouteRule.toJson RouteRule.reader :=
  .record fun _ =>
    (Reads.list RouteMatch.roundTrips (by simp)).map RouteRule.mk
      |>.seq (.list RouteFilter.roundTrips (by simp))
      |>.seq (.list BackendRef.roundTrips (by simp))

end GatewayCompiler

import GatewayCompiler.Proofs.Schema.Records
import GatewayCompiler.Schema.Core
import GatewayCompiler.Schema.ReferenceGrant

/-!
# Metadata, ports and grants read back

These parts stand in objects of several kinds.  Labels are left out when there are none, so the
labels that are read when nothing is written must be none as well.
-/

namespace GatewayCompiler

open Schema

theorem Metadata.roundTrips : RoundTrips Metadata.toJson Metadata.reader :=
  .record fun metadata => by
    refine (Reads.required .string (by simp)).map Metadata.mk
      |>.seq (.ifSome .string (by simp))
      |>.seq ?_
    by_cases hempty : metadata.labels.isEmpty = true
    · have hnone : metadata.labels = ∅ := Table.ext (List.isEmpty_iff.1 hempty)
      rw [hnone] at hempty ⊢
      exact .withDefault_of_none (by simp [hempty])
    · exact .withDefault .stringTable (by simp [hempty])

theorem ServicePort.roundTrips : RoundTrips ServicePort.toJson ServicePort.reader :=
  .record fun _ =>
    (Reads.ifSome .string (by simp)).map ServicePort.mk
      |>.seq (.required .uint16 (by simp))
      |>.seq (.ifSome .string (by simp))

theorem GrantSource.roundTrips : RoundTrips GrantSource.toJson GrantSource.reader :=
  .record fun _ =>
    (Reads.withDefault .string (by simp)).map GrantSource.mk
      |>.seq (.required .string (by simp))
      |>.seq (.required .string (by simp))

theorem GrantTarget.roundTrips : RoundTrips GrantTarget.toJson GrantTarget.reader :=
  .record fun _ =>
    (Reads.withDefault .string (by simp)).map GrantTarget.mk
      |>.seq (.required .string (by simp))
      |>.seq (.ifSome .string (by simp))

end GatewayCompiler

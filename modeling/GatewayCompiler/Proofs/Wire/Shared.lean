import GatewayCompiler.Envoy.Wire.Common
import GatewayCompiler.Proofs.Wire.Message

/-!
# Shared parts read back

Each of the parts that other messages are made of is read from its fields just as it was written,
for any texts, bytes and numbers in it.
-/

namespace GatewayCompiler.Envoy

open Wire

theorem Any.reads (any : Any) : Reads Any.ofFields? any.fields any := by
  apply ((IsPart.string 1 any.typeUrl).append (IsPart.bytes 2 any.value)).reads (by decide)
  intro fields ⟨hurl, hvalue⟩
  simp [Any.ofFields?, hurl, hvalue]

theorem Extension.reads {n : Nat} (hnumbers : AreNumbers [1, n]) (extension : Extension) :
    Reads (Extension.ofFields? n) (extension.fields n) extension := by
  apply ((IsPart.string 1 extension.name).append
    (IsPart.optional n extension.config Any.reads)).reads hnumbers
  intro fields ⟨hname, hconfig⟩
  simp [Extension.ofFields?, hname, hconfig]

theorem SocketAddress.reads (socket : SocketAddress) :
    Reads SocketAddress.ofFields? socket.fields (some socket) := by
  have hport (port : UInt32) :
      Chooses SocketAddress.portMembers (Write.presentNumber 3 port.toNat) (some port) :=
    .uint32 port rfl
  have hsocket : Reads SocketAddress.ofSocketFields?
      (Write.string 2 socket.address ++
        Write.optional (fun port => Write.presentNumber 3 port.toNat) socket.port) socket := by
    apply ((IsPart.string 2 socket.address).append
      (IsPart.choice socket.port hport)).reads (by decide)
    intro fields ⟨haddress, hport⟩
    simp [SocketAddress.ofSocketFields?, haddress, hport]
  exact (IsPart.message 1 hsocket).reads (by decide) fun _ => id

theorem ConfigSource.reads (source : ConfigSource) :
    Reads ConfigSource.ofFields? source.fields source := by
  have hfields : source.fields =
      Write.optional (fun _ => Write.message 3 []) (if source.aggregated then some () else none) ++
        Write.number 6 source.apiVersion.toNat := by
    cases h : source.aggregated <;> simp [ConfigSource.fields, h, Write.optional]
  rw [hfields]
  apply ((IsPart.optional 3 _ fun _ => Reads.empty).append
    (IsPart.uint32 6 source.apiVersion)).reads (by decide)
  intro fields hparts
  obtain ⟨haggregated, hversion⟩ := hparts
  have hsome : (if source.aggregated then some () else none).isSome = source.aggregated := by
    cases source.aggregated <;> rfl
  simp [ConfigSource.ofFields?, haggregated, hversion, hsome]

theorem DataSource.reads (data : DataSource) :
    Reads DataSource.ofFields? data.fields (some data) := by
  have hdata : Chooses DataSource.members data.fields data := by
    cases data with
    | bytes value => exact .bytes value rfl
    | text value => exact .string value rfl
  exact (IsPart.chosen hdata).reads (by decide) fun _ => id

theorem regex_reads (regex : String) : Reads regexOfFields? (regexFields regex) regex :=
  (IsPart.string 2 regex).reads (by decide) fun _ => id

theorem RegexRewrite.reads (rewrite : RegexRewrite) :
    Reads RegexRewrite.ofFields? rewrite.fields rewrite := by
  apply ((IsPart.optional 1 rewrite.pattern regex_reads).append
    (IsPart.string 2 rewrite.substitution)).reads (by decide)
  intro fields ⟨hpattern, hsubstitution⟩
  simp [RegexRewrite.ofFields?, hpattern, hsubstitution]

theorem wrappedNumber_reads (value : UInt32) :
    Reads wrappedNumberOfFields? (wrappedNumber value) value :=
  (IsPart.uint32 1 value).reads (by decide) fun _ => id

end GatewayCompiler.Envoy

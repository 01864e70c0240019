import GatewayCompiler.Base64
import GatewayCompiler.Model.Identity
import GatewayCompiler.Text.Blank

/-!
# Namespaces, Services and Secrets

The core objects that gateways and routes refer to.
-/

namespace GatewayCompiler

structure Namespace where
  metadata : Metadata
  deriving DecidableEq, Repr

/-- Namespaces are known by name alone. -/
def Namespace.name (object : Namespace) : String :=
  object.metadata.name

structure ServicePort where
  name : Option String
  port : UInt16
  protocol : Option String
  deriving DecidableEq, Repr

structure Service where
  metadata : Metadata
  clusterIP : Option String
  ports : List ServicePort
  deriving DecidableEq, Repr

/-- Equality of texts up to the case of ASCII letters. -/
def equalsIgnoringCase (a b : String) : Bool :=
  a.toList.map Char.toLower == b.toList.map Char.toLower

namespace Service

def key (service : Service) : ObjectKey :=
  service.metadata.key

def ref (service : Service) : ObjectRef :=
  service.metadata.ref "Service"

/-- The address inside the cluster; a headless Service, which says `None`, has none. -/
def address? (service : Service) : Option String :=
  (service.clusterIP.map Text.trim).filter fun ip =>
    !ip.isEmpty && !equalsIgnoringCase ip "None"

def portByNumber? (service : Service) (number : UInt16) : Option ServicePort :=
  service.ports.find? (·.port == number)

def portByName? (service : Service) (name : String) : Option ServicePort :=
  service.ports.find? (·.name == some name)

end Service

/-- The values of a Secret are kept as they came, in Base64. -/
structure Secret where
  metadata : Metadata
  type : Option String
  data : Table String String
  deriving DecidableEq, Repr

namespace Secret

def key (secret : Secret) : ObjectKey :=
  secret.metadata.key

def ref (secret : Secret) : ObjectRef :=
  secret.metadata.ref "Secret"

/-- The bytes under a key, or `none` when the key is absent.  Blanks around a value do not count. -/
def bytes? (secret : Secret) (key : String) : Option (Except Base64.DecodeError (List UInt8)) :=
  (secret.data.get? key).map fun text => Base64.decode (Text.trim text)

end Secret

end GatewayCompiler

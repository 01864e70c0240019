/-!
# Text as bytes
-/

namespace GatewayCompiler.Text

def utf8 (s : String) : List UInt8 :=
  s.toUTF8.data.toList

/-- The text of bytes that are UTF-8. -/
def ofUtf8? (bytes : List UInt8) : Option String :=
  String.fromUTF8? ⟨bytes.toArray⟩

end GatewayCompiler.Text

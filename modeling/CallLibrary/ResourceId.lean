import CallLibrary.Text.Hex

/-!
# Resource ids

A system is registered under an id of 32 bytes: two for the kind of resource, fourteen for the
namespace and sixteen for the name. Each part is filled up with zero bytes at its end, and what does
not fit is cut off.
-/

namespace CallLibrary.ResourceId

def namespaceBytes : Nat := 14

def nameBytes : Nat := 16

/-- The kind of resource that systems are. -/
def systemKind : List UInt8 := [0x73, 0x79]

def utf8 (s : String) : List UInt8 := s.toUTF8.data.toList

/-- Bytes cut or filled up to a given number. -/
def slot (size : Nat) (bytes : List UInt8) : List UInt8 :=
  bytes.take size ++ List.replicate (size - bytes.length) 0

def systemBytes (namespaceName name : String) : List UInt8 :=
  systemKind ++ slot namespaceBytes (utf8 namespaceName) ++ slot nameBytes (utf8 name)

/-- A system's id in base sixteen. -/
def encode (namespaceName name : String) : String :=
  String.ofList ('0' :: 'x' :: Text.hexBytes (systemBytes namespaceName name))

/-- Whether what follows the mark of base sixteen spells as many bytes as an id has. -/
def isValid (id : String) : Bool :=
  match id.toList with
  | '0' :: 'x' :: digits => (Text.bytesOfHex? digits).any (·.length == 32)
  | _ => false

end CallLibrary.ResourceId

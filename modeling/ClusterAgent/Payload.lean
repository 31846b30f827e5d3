import ClusterAgent.Json.Writer
import ClusterAgent.Name

/-!
Contract: the one-line texts that sections carry.

A payload is JSON in printable ASCII with a blank after each comma and colon.
Unlimited and undefined amounts are written as bare words, so that readers of a
section can tell them from missing ones. A key that is no text stands there as
the JSON that it is, without blanks.

Owns: the format of payloads.
Does not own: which values a section carries.
-/

namespace ClusterAgent.Payload

/-- Characters from DEL upwards are escaped. -/
def format : Json.Format where
  comma := [',', ' ']
  colon := [':', ' ']
  plain := fun c => c.toNat < 0x7f
  number := Number.chars

def chars (value : Value) : List Char := format.write value

def encode (value : Value) : String := String.ofList (chars value)

/-- Keys are escaped like payloads and written without blanks. -/
def keyFormat : Json.Format where
  comma := [',']
  colon := [':']
  plain := format.plain
  number := Json.finiteNumber

def memberChars (key : Name) (value : Value) : List Char :=
  keyFormat.write key.shown ++ format.colon ++ chars value

/-- The payload of keyed values, in the order in which they are given. -/
def encodeMembers (members : List (Name × Value)) : String :=
  let written := members.map fun (key, value) => memberChars key value
  String.ofList ('{' :: (format.comma.intercalate written ++ ['}']))

end ClusterAgent.Payload

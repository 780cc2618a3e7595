import Reshape.Digest.Blake3
import Reshape.Json.Writer

/-!
# Digests of values

A value is hashed through an encoding in bytes that leaves out what `structuralEq` leaves out: the
order of fields, the spelling of a number, the sign of zero. Every part is led by its kind or its
length, so that no encoding is the beginning of another.

* `encode`: the bytes of a value that may be absent.
* `hashValue`: the digest of the encoding, `hashJson`: the digest of the JSON text.
* `GroupKey`: the digest by which records are grouped.
-/

namespace Reshape

structure Digest where
  bytes : List UInt8
deriving DecidableEq

namespace Digest

def ofBytes (bytes : List UInt8) : Digest :=
  ⟨Blake3.hash bytes⟩

def hex (d : Digest) : String :=
  String.ofList (d.bytes.flatMap fun b =>
    [Json.hexDigit (b.toNat / 16), Json.hexDigit (b.toNat % 16)])

/-- The low `count` bytes of a number, the lowest first. -/
def littleEndian : Nat → Nat → List UInt8
  | 0, _ => []
  | count + 1, n => UInt8.ofNat n :: littleEndian count (n / 256)

def encodeLength (n : Nat) : List UInt8 :=
  littleEndian 8 n

def encodeString (s : String) : List UInt8 :=
  encodeLength s.utf8ByteSize ++ s.toUTF8.toList

/-- The bits of a float; both zeros have those of the positive one. -/
def encodeFloat (x : Float) : List UInt8 :=
  littleEndian 8 (if x == 0 then 0 else x.toBits.toNat)

/-- The encoded fields in the order of their names. -/
def encodeSorted (fields : List (String × List UInt8)) : List UInt8 :=
  encodeLength fields.length ++
    (fields.mergeSort fun a b => decide (a.1 ≤ b.1)).flatMap fun field =>
      encodeString field.1 ++ field.2

mutual

def encodeValue : Value → List UInt8
  | .null => [1]
  | .bool b => [2, if b then 1 else 0]
  | .number n => 3 :: encodeFloat n.toFloat
  | .string s => 4 :: encodeString s
  | .array items => 5 :: encodeLength items.length ++ encodeItems items
  | .object fields => 6 :: encodeSorted (encodeFields fields)

def encodeItems : List Value → List UInt8
  | [] => []
  | item :: rest => encodeValue item ++ encodeItems rest

def encodeFields : List (String × Value) → List (String × List UInt8)
  | [] => []
  | (key, value) :: rest => (key, encodeValue value) :: encodeFields rest

end

/-- An absent value has a kind of its own. -/
def encode : Option Value → List UInt8
  | none => [0]
  | some v => encodeValue v

def hashValue (v : Value) : Digest :=
  ofBytes (encodeValue v)

def hashJson (v : Value) : Digest :=
  ofBytes (Json.compact v).toUTF8.toList

end Digest

/-- The key of a record among those it is grouped with or told apart from. -/
structure GroupKey where
  digest : Digest
deriving DecidableEq

namespace GroupKey

def encodeValues (values : List (Option Value)) : List UInt8 :=
  Digest.encodeLength values.length ++ values.flatMap Digest.encode

def encodeRecord (r : Record) : List UInt8 :=
  Digest.encodeValue (.object r)

def ofValues (values : List (Option Value)) : GroupKey :=
  ⟨Digest.ofBytes (encodeValues values)⟩

def ofRecord (r : Record) : GroupKey :=
  ⟨Digest.ofBytes (encodeRecord r)⟩

end GroupKey

end Reshape

/-
EditorAnalysis.Text.Octets — bytes as characters below 256.

Programs handle texts byte by byte. An octet text has one character for each
byte, so that it can be taken apart like any other text.
-/
import EditorAnalysis.Text.Utf8

namespace EditorAnalysis.Text

/-- A text with one character for each byte. -/
abbrev Octets := List Char

namespace Octets

/-- The octets of bytes. -/
def ofBytes (bytes : Utf8.Bytes) : Octets := bytes.map fun b => Char.ofNat b.toNat

/-- The bytes of octets. -/
def toBytes (octets : Octets) : Utf8.Bytes := octets.map fun c => c.toNat.toUInt8

/-- The octets of a text. -/
def ofString (s : String) : Octets := ofBytes (Utf8.encode s.toList)

/-- The text of octets, invalid ones replaced. -/
def toString (octets : Octets) : String :=
  String.ofList (Utf8.decodeReplacing (toBytes octets))

/-- Whether a text comes before another or is equal to it, by the first octet that differs. -/
def precedes : Octets → Octets → Bool
  | [], _ => true
  | _ :: _, [] => false
  | a :: as, b :: bs => if a == b then precedes as bs else a.toNat < b.toNat

end Octets

end EditorAnalysis.Text

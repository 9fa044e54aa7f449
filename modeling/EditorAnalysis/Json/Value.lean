/-
EditorAnalysis.Json.Value — JSON documents.

A JSON string is a sequence of 16-bit units: an escape may name half of a
surrogate pair without the other half, and such a string is kept as it is. A
number is kept as it is written. The entries of an object keep their order, and
a name that comes again takes its last value in its first place.
-/
import EditorAnalysis.Number.Binary64

namespace EditorAnalysis.Json

/-- The text of a JSON string, as 16-bit units. -/
abbrev Units := List UInt16

namespace Units

/-- The units of one character: itself, or a surrogate pair. -/
def ofChar (c : Char) : Units :=
  if c.toNat < 0x10000 then [c.toNat.toUInt16]
  else
    let n := c.toNat - 0x10000
    [(0xD800 + n / 0x400).toUInt16, (0xDC00 + n % 0x400).toUInt16]

/-- The units of a text. -/
def ofString (s : String) : Units := s.toList.flatMap ofChar

/-- The first half of a surrogate pair. -/
def isHigh (u : UInt16) : Bool := 0xD800 ≤ u.toNat && u.toNat < 0xDC00

/-- The second half of a surrogate pair. -/
def isLow (u : UInt16) : Bool := 0xDC00 ≤ u.toNat && u.toNat < 0xE000

/-- The character of a surrogate pair. -/
def joinPair (high low : UInt16) : Char :=
  Char.ofNat (0x10000 + (high.toNat - 0xD800) * 0x400 + (low.toNat - 0xDC00))

/-- Half of a surrogate pair stands for no character. -/
def replacement : Char := Char.ofNat 0xFFFD

/-- The characters that the units spell, a lone half of a pair reading as the
replacement character. -/
def toChars : Units → List Char
  | [] => []
  | [u] => [if isHigh u || isLow u then replacement else Char.ofNat u.toNat]
  | u :: v :: rest =>
    if isHigh u && isLow v then joinPair u v :: toChars rest
    else (if isHigh u || isLow u then replacement else Char.ofNat u.toNat)
      :: toChars (v :: rest)

/-- The text that the units spell. -/
def toString (u : Units) : String := String.ofList (toChars u)

end Units

/-- A JSON document. -/
inductive Value where
  /-- The literal `null`. -/
  | null
  /-- The literals `true` and `false`. -/
  | boolean (value : Bool)
  /-- A number as it is written; `NaN` and the infinities are numbers here. -/
  | number (written : List Char)
  /-- A string. -/
  | string (units : Units)
  /-- Values in order. -/
  | array (items : List Value)
  /-- Values under names. -/
  | object (entries : List (Units × Value))
deriving Inhabited

namespace Value

/-- The text of a string value. -/
def text (s : String) : Value := .string (Units.ofString s)

/-- A text or `null`. -/
def optionalText (s : Option String) : Value := (s.map text).getD .null

/-- Texts in order. -/
def texts (ss : List String) : Value := .array (ss.map text)

/-- An integer. -/
def integer (n : Int) : Value := .number n.repr.toList

/-- The floating-point number nearest to a number as it is written. -/
def nearest (written : List Char) : Number.Binary64 :=
  if written == "NaN".toList then .nan
  else if written == "Infinity".toList then .infinity false
  else if written == "-Infinity".toList then .infinity true
  else .ofNumeral written

end Value

end EditorAnalysis.Json

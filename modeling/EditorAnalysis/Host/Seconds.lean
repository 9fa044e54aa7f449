/-
EditorAnalysis.Host.Seconds — time limits.

A limit is a number of seconds, whole or not. `isAfter` compares it with a time,
`excess?` says whether the clock can wait so long.
-/
import EditorAnalysis.Number.Binary64

namespace EditorAnalysis.Host

/-- A number of seconds as a caller writes it. -/
inductive Seconds where
  /-- A whole number. -/
  | whole (n : Int)
  /-- A floating-point number. -/
  | real (x : Number.Binary64)
deriving DecidableEq, Repr

namespace Seconds

/-- Nanoseconds in a second. -/
def nanoseconds : Nat := 1000000000

/-- A time in nanoseconds lies strictly below the limit. -/
def isAfter (limit : Seconds) (time : Nat) : Bool :=
  match limit with
  | whole n => (time : Int) < n * nanoseconds
  | real .nan => false
  | real (.infinity negative) => !negative
  | real (.finite true _ _) => false
  | real (.finite false mantissa exponent) =>
    if 0 ≤ exponent then time < mantissa * Number.twoTo exponent.toNat * nanoseconds
    else time * Number.twoTo (-exponent).toNat < mantissa * nanoseconds

/-! ## Waiting -/

/-- Why a limit cannot be waited for. -/
inductive Excess where
  /-- It is greater than every floating-point number. -/
  | beyondNumbers
  /-- It has no end. -/
  | endless
  /-- It is no number. -/
  | notNumber
  /-- It is beyond the clock's range. -/
  | beyondClock
  /-- It is longer than a single wait may be. -/
  | beyondWait
deriving DecidableEq, Repr

/-- Microseconds in a second. -/
def microseconds : Nat := 1000000

/-- Nanoseconds on the clock stay below this bound. -/
def clockBound : Nat := Number.twoTo 63

/-- A single wait takes fewer milliseconds than this bound. -/
def waitBound : Nat := Number.twoTo 31

/-- Microseconds, and a thousand times as many nanoseconds, in a millisecond. -/
def thousand : Nat := 1000

/-- The milliseconds to wait for a time in microseconds: rounded up, when the first
microsecond has passed. -/
def milliseconds (time : Nat) : Nat := (time - 1 + (thousand - 1)) / thousand

/-- What is wrong with waiting for so many microseconds. -/
def excessOf (time : Nat) : Option Excess :=
  if clockBound ≤ milliseconds time * thousand * thousand then some .beyondClock
  else if waitBound ≤ milliseconds time then some .beyondWait
  else none

/-- The integer is too great, or too small, to be rounded to a floating-point number. -/
def isBeyondNumbers (n : Int) : Bool :=
  !(Number.Binary64.ofRatio (n < 0) n.natAbs 1).isFinite

/-- What is wrong with waiting for a program until the limit. When its streams are
watched, the wait is measured by the clock. -/
def excess? (limit : Seconds) (watched : Bool) : Option Excess :=
  match limit with
  | whole n =>
    if isBeyondNumbers n then some .beyondNumbers
    else if watched then excessOf (n.toNat * microseconds) else none
  | real x =>
    if !watched then none
    else match x with
      | .nan => some .notNumber
      | .infinity negative => if negative then none else some .endless
      | .finite negative mantissa exponent =>
        let (n, d) := Number.Binary64.ratio mantissa exponent
        if negative then none else excessOf ((n * microseconds + d - 1) / d)

/-- The number of seconds with some decimal places. -/
def fixed (places : Nat) : Seconds → String
  | whole n => Number.Binary64.fixed places (Number.Binary64.ofRatio (n < 0) n.natAbs 1)
  | real x => Number.Binary64.fixed places x

end Seconds

end EditorAnalysis.Host

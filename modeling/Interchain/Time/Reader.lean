import Interchain.Time.Instant

/-
  Reading written instants.

  Years are four digits, or any number of digits after a sign;
  the other fields take one or two.  Blanks may stand around
  the fields.  Digits of a fraction past the ninth are
  dropped.  The time zone is the letter Z, the letters UTC, or
  an offset of hours and minutes, and second 60 is a leap
  second.

  Main declarations:
    * `Instant.ofText?`
-/

------------------------------------------------------------
-- Fields
------------------------------------------------------------

namespace Interchain

namespace Instant

/- The number that digits spell. -/
def numberOf (ds : List Char) : Nat :=
  ds.foldl (fun n c => n * 10 + (c.toNat - '0'.toNat)) 0

/- Read digits at the front: at least one, and at most so
   many. -/
def numberFront?
    (most : Nat)
    (cs : List Char) :
    Option (Nat × List Char) :=
  match (cs.take most).takeWhile Char.isDigit with
  | [] => none
  | d :: ds =>
      some (numberOf (d :: ds), cs.drop (d :: ds).length)

/- Read all the digits at the front; at least one. -/
def longNumberFront?
    (cs : List Char) :
    Option (Nat × List Char) :=
  numberFront? cs.length cs

/- Read a year at the front. -/
def yearFront? (cs : List Char) : Option (Int × List Char) :=
  match Text.dropBlanks cs with
  | '-' :: rest =>
      (longNumberFront? rest).map fun (n, left) =>
        (-(n : Int), left)
  | '+' :: rest =>
      (longNumberFront? rest).map fun (n, left) =>
        ((n : Int), left)
  | rest =>
      (numberFront? 4 rest).map fun (n, left) =>
        ((n : Int), left)

/- Read a field of one or two digits at the front. -/
def fieldFront? (cs : List Char) : Option (Nat × List Char) :=
  numberFront? 2 (Text.dropBlanks cs)

/- Skip blanks and a mark. -/
def skipMark?
    (mark : Char)
    (cs : List Char) :
    Option (List Char) :=
  match Text.dropBlanks cs with
  | c :: rest => if c = mark then some rest else none
  | [] => none

/- Read a fraction of a second, in nanoseconds. -/
def fractionFront? :
    List Char → Option (Nat × List Char)
  | '.' :: rest =>
      match rest.takeWhile Char.isDigit with
      | [] => none
      | d :: ds =>
          let nine := (d :: ds).take 9
          some
            (numberOf nine * Nat.pow 10 (9 - nine.length),
              rest.dropWhile Char.isDigit)
  | cs => some (0, cs)

end Instant

end Interchain

------------------------------------------------------------
-- Time Zones
------------------------------------------------------------

namespace Interchain

namespace Instant

/- Read exactly two digits at the front. -/
def twoDigits? : List Char → Option (Nat × List Char)
  | a :: b :: rest =>
      if a.isDigit && b.isDigit then
        some (numberOf [a, b], rest)
      else
        none
  | _ => none

/- Read hours and minutes, as seconds. -/
def offsetFront?
    (cs : List Char) :
    Option (Nat × List Char) := do
  let (hours, rest) ← twoDigits? cs
  let rest :=
    rest.dropWhile fun c => c == ':' || Text.isBlank c
  let (minutes, rest) ← twoDigits? rest
  if minutes < 60 ∧ hours < 24 then
    return (hours * 3600 + minutes * 60, rest)
  else
    none

/- Read a time zone, as seconds ahead of universal time. -/
def zoneFront? : List Char → Option (Int × List Char)
  | 'Z' :: rest => some (0, rest)
  | 'z' :: rest => some (0, rest)
  | '+' :: rest =>
      (offsetFront? rest).map fun (n, left) =>
        ((n : Int), left)
  | '-' :: rest =>
      (offsetFront? rest).map fun (n, left) =>
        (-(n : Int), left)
  | '\u2212' :: rest =>
      (offsetFront? rest).map fun (n, left) =>
        (-(n : Int), left)
  | a :: b :: c :: rest =>
      if [a, b, c].map Char.toLower = ['u', 't', 'c'] then
        some (0, rest)
      else
        none
  | _ => none

end Instant

end Interchain

------------------------------------------------------------
-- Instants
------------------------------------------------------------

namespace Interchain

namespace Instant

/- Read a date at the front. -/
def dateFront?
    (cs : List Char) :
    Option (Date × List Char) := do
  let (year, cs) ← yearFront? cs
  let cs ← skipMark? '-' cs
  let (month, cs) ← fieldFront? cs
  let cs ← skipMark? '-' cs
  let (day, cs) ← fieldFront? cs
  let date : Date := ⟨year, month, day⟩
  if date.isValid then return (date, cs) else none

/- Skip the mark between date and time. -/
def skipTimeMark? : List Char → Option (List Char)
  | 'T' :: rest => some rest
  | 't' :: rest => some rest
  | ' ' :: rest => some rest
  | _ => none

/- Read a time of day at the front: seconds, nanoseconds. -/
def timeFront?
    (cs : List Char) :
    Option ((Nat × Nat) × List Char) := do
  let (hour, cs) ← fieldFront? cs
  let cs ← skipMark? ':' cs
  let (minute, cs) ← fieldFront? cs
  let cs ← skipMark? ':' cs
  let (second, cs) ← fieldFront? cs
  let (nanos, cs) ← fractionFront? cs
  if hour < 24 ∧ minute < 60 ∧ second ≤ 60 then
    let start := (hour * 60 + minute) * 60
    if second = 60 then
      return ((start + 59, nanos + Span.nanosPerSecond), cs)
    else
      return ((start + second, nanos), cs)
  else
    none

/- The instant that a text spells. -/
def ofText? (text : String) : Option Instant := do
  let (date, cs) ← dateFront? text.toList
  let cs ← skipTimeMark? cs
  let ((seconds, nanos), cs) ← timeFront? cs
  let (offset, cs) ← zoneFront? (Text.dropBlanks cs)
  let instant : Instant :=
    ⟨date.day * 86400 + seconds - offset, nanos⟩
  if Text.dropBlanks cs = [] ∧
      instant.isWithinCalendar = true then
    return instant
  else
    none

end Instant

end Interchain

import PackageRegistry.Time.Date

/-!
Points in time and their texts after RFC 3339. A text gives a local date and time and an offset
from UTC; only the offset's effect on the calendar date and the time of day is kept.
-/

namespace PackageRegistry.Time

/-- A date and a time of day in UTC. The second 60 is a leap second. -/
structure Moment where
  date : Date
  hour : Nat
  minute : Nat
  second : Nat
  nanos : Nat
deriving DecidableEq, Repr

namespace Moment

/-- The same moment when the date and time given are ahead of UTC by so many minutes, less than a
day. -/
def shiftBack (m : Moment) (offset : Int) : Moment :=
  let total : Int := m.hour * 60 + m.minute - offset
  let onDay (date : Date) (minutes : Int) : Moment :=
    { m with date, hour := minutes.toNat / 60, minute := minutes.toNat % 60 }
  if total < 0 then onDay m.date.previous (total + 1440)
  else if 1440 ≤ total then onDay m.date.next (total - 1440)
  else onDay m.date total

/-- The part of a second in three, six or nine digits, as few as show it all. -/
def fractionText (nanos : Nat) : String :=
  if nanos = 0 then ""
  else if nanos % 1000000 = 0 then "." ++ padded 3 (nanos / 1000000)
  else if nanos % 1000 = 0 then "." ++ padded 6 (nanos / 1000)
  else "." ++ padded 9 nanos

def text (m : Moment) : String :=
  m.date.text ++ "T" ++ padded 2 m.hour ++ ":" ++ padded 2 m.minute ++ ":" ++
    padded 2 m.second ++ fractionText m.nanos ++ "+00:00"

end Moment

namespace Rfc3339

def isDigit (c : Char) : Bool := '0' ≤ c && c ≤ '9'

/-- The number that digits write. -/
def number (ds : List Char) : Nat := ds.foldl (fun n c => n * 10 + (c.toNat - 48)) 0

/-- Exactly so many digits, and what follows them. -/
def fixed (count : Nat) (cs : List Char) : Option (Nat × List Char) :=
  let ds := cs.take count
  if ds.length = count ∧ ds.all isDigit then some (number ds, cs.drop count) else none

/-- One of some characters. -/
def oneOf (allowed : List Char) : List Char → Option (List Char)
  | c :: rest => if allowed.contains c then some rest else none
  | [] => none

def date (cs : List Char) : Option (Date × List Char) := do
  let (year, cs) ← fixed 4 cs
  let cs ← oneOf ['-'] cs
  let (month, cs) ← fixed 2 cs
  let cs ← oneOf ['-'] cs
  let (day, cs) ← fixed 2 cs
  let d : Date := ⟨year, month, day⟩
  if d.Valid then some (d, cs) else none

/-- An optional part of a second; digits past the ninth are dropped. -/
def fraction (cs : List Char) : Option (Nat × List Char) :=
  match cs with
  | '.' :: rest =>
    let ds := rest.takeWhile isDigit
    if ds.isEmpty then none
    else
      let kept := ds.take 9
      some (number kept * Nat.pow 10 (9 - kept.length), rest.dropWhile isDigit)
  | _ => some (0, cs)

/-- Hour, minute, second and nanoseconds. -/
def time (cs : List Char) : Option ((Nat × Nat × Nat × Nat) × List Char) := do
  let (hour, cs) ← fixed 2 cs
  let cs ← oneOf [':'] cs
  let (minute, cs) ← fixed 2 cs
  let cs ← oneOf [':'] cs
  let (second, cs) ← fixed 2 cs
  let (nanos, cs) ← fraction cs
  if hour ≤ 23 ∧ minute ≤ 59 ∧ second ≤ 60 then some ((hour, minute, second, nanos), cs) else none

/-- The minutes of an offset of at most 23:59. -/
def offsetMinutes (cs : List Char) : Option (Int × List Char) := do
  let (hours, cs) ← fixed 2 cs
  let cs ← oneOf [':'] cs
  let (minutes, cs) ← fixed 2 cs
  if hours ≤ 23 ∧ minutes ≤ 59 then some ((hours * 60 + minutes : Nat), cs) else none

/-- How far the text is ahead of UTC; the minus sign may also be the typographic one. -/
def offset (cs : List Char) : Option (Int × List Char) :=
  match cs with
  | 'Z' :: rest | 'z' :: rest => some (0, rest)
  | '+' :: rest => offsetMinutes rest
  | '-' :: rest | '−' :: rest => (offsetMinutes rest).map fun (m, cs) => (-m, cs)
  | _ => none

/-- The moment that a text denotes. -/
def parse? (s : String) : Option Moment := do
  let (d, cs) ← date s.toList
  let cs ← oneOf ['T', 't', ' '] cs
  let ((hour, minute, second, nanos), cs) ← time cs
  let (ahead, cs) ← offset cs
  if cs.isEmpty then some (Moment.shiftBack ⟨d, hour, minute, second, nanos⟩ ahead) else none

end Rfc3339

end PackageRegistry.Time

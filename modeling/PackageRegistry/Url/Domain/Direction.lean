import PackageRegistry.Unicode.Shape

/-!
The direction in which characters are written, and the rule for names that hold letters written
from right to left: each label has one direction and does not begin or end in a way that would let
it run into its neighbours. Runs in the tables go over characters that no name has.
-/

namespace PackageRegistry.Url.Domain

open Unicode (Run)

inductive Direction where
  | leftToRight
  | rightToLeft
  | europeanDigit
  | arabicDigit
  /-- A mark that takes the direction of what stands before it. -/
  | mark
  | neutral
deriving DecidableEq, Repr

def rightToLeftRuns : List Run := Run.ofLines [
  "5BE-5F4 608 60B 60D 61B-64A 66D-6D5 6E5-6E6 6EE-6EF 6FA-7F5 7FA-8C9 FBB2-FBC2 FE73 10800-1091B",
  "10920-10B35 10B40-10D23 10D40-10D4F 10D6F-10D8F 10E80-10EC7 10F00-10FF6 1E800-1ED3D"]

def arabicDigitRuns : List Run := Run.ofLines ["660-669 66B-66C 10D30-10D39 10E60-10E7E"]

def europeanDigitRuns : List Run := Run.ofLines ["6F0-6F9 102E1-102FB"]

def neutralRuns : List Run := Run.ofLines [
  "A1-D7 F7 2B9-2BA 2C2-2CF 2D2-2ED 2EF-2FF 375 3F6 58A-58F 606-607 609-60A 60C 60E-60F 66A 6DE",
  "6E9 7F6-7F9 9F2-9F3 9FB AF1 BF3-BFA C78-C7E E3F F3A-F3D 1390-1399 1400 169B-169C 17DB",
  "17F0-180A 1940-1945 19DE-19FF 200C-214D 218A-2335 237B-2394 2396-26AB 26AD-27FF 2900-2BFF",
  "2CE5-2CEA 2CF9-2CFF 2E00-3004 3008-3020 3030 3037 303D-303F 30A0 30FB 31C0-31E5 4DC0-4DFF",
  "A490-A4C6 A60D-A60F A673-A67F A700-A721 A788 A828-A82B A838-A839 A874-A877 AB6A-AB6B FBC3-FE46",
  "10101 10140-1018C 10190-101A0 1091F 10B39-10B3F 10D6E 10ED0-10ED8 11052-11065 11660-1166C",
  "11FD5-11FF1 16FE2 1CC00-1CEF0 1D1E9-1D245 1D300-1D356 1E2FF 1EEF0-1F12F 1F16D-1F16F 1F1AD",
  "1F260-1FBFA"]

/-- Nonspacing marks that are written from left to right all the same. -/
def steadyMarkRuns : List Run := Run.ofLines ["CBF CC6 11A07-11A08 11C3F"]

namespace Direction

def ofAscii (c : Char) : Direction :=
  if c.isDigit then .europeanDigit
  else if c.isAlpha then .leftToRight
  else .neutral

/-- The direction of a character that a name can have. -/
def of (c : Char) : Direction :=
  if c.toNat < 0x80 then ofAscii c
  else if Unicode.isNonspacing c then
    if Run.holds steadyMarkRuns c then .leftToRight else .mark
  else if Run.holds rightToLeftRuns c then .rightToLeft
  else if Run.holds arabicDigitRuns c then .arabicDigit
  else if Run.holds europeanDigitRuns c then .europeanDigit
  else if Run.holds neutralRuns c then .neutral
  else .leftToRight

end Direction

/-- A name to which the rule for direction applies. -/
def isBidirectional (labels : List (List Char)) : Bool :=
  labels.any fun l => l.any fun c =>
    0x590 ≤ c.toNat &&
      (Direction.of c == .rightToLeft || Direction.of c == .arabicDigit)

/-- Whether a label written from left to right keeps to its direction; the marks at its end do not
count. -/
def runsRight (ds : List Direction) : Bool :=
  let body := (ds.reverse.dropWhile (· == .mark)).reverse
  body.all (fun d => d != .rightToLeft && d != .arabicDigit) &&
    (body.getLast? == some .leftToRight || body.getLast? == some .europeanDigit)

/-- Whether a label written from right to left keeps to its direction; it has digits of one kind
only. -/
def runsLeft (ds : List Direction) : Bool :=
  let body := (ds.reverse.dropWhile (· == .mark)).reverse
  body.all (· != .leftToRight) &&
    !(body.contains .europeanDigit && body.contains .arabicDigit) &&
    body.getLast? != some .neutral

/-- Whether a label of a name with letters of both directions can be told from its neighbours. -/
def keepsDirection (label : List Char) : Bool :=
  match label.map Direction.of with
  | [] => true
  | .leftToRight :: ds => runsRight (.leftToRight :: ds)
  | .rightToLeft :: ds => runsLeft (.rightToLeft :: ds)
  | _ => false

end PackageRegistry.Url.Domain

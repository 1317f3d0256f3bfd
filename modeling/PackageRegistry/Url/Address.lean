import PackageRegistry.Text.Blank
import PackageRegistry.Url.Percent

/-!
Numeric addresses. An address of 32 bits is written in one to four numbers, each in base eight, ten
or sixteen, where the last number fills the places left; one of 128 bits in eight pieces of base
sixteen, of which one run of zeros may be left out.
-/

namespace PackageRegistry.Url.Address

def isDigit (c : Char) : Bool := '0' ≤ c && c ≤ '9'

/-- The number that digits of a base write, if all are digits of it. -/
def numberOf? (base : Nat) (cs : List Char) : Option Nat :=
  cs.foldlM (fun n c => do
    let d ← Text.hexValue? c
    if d < base then some (n * base + d) else none) 0

/-- A number with its base told by how it begins. -/
def number? (cs : List Char) : Option Nat :=
  match cs with
  | [] => none
  | '0' :: 'x' :: rest | '0' :: 'X' :: rest => numberOf? 16 rest
  | '0' :: c :: rest => numberOf? 8 (c :: rest)
  | cs => numberOf? 10 cs

/-- The parts between dots, without the empty one behind a dot at the end. -/
def parts (name : List Char) : List (List Char) :=
  let ps := Text.pieces '.' name
  if 1 < ps.length ∧ ps.getLast? = some [] then ps.dropLast else ps

/-- Whether a name can only be meant as an address: its last part is a number. -/
def endsInNumber (name : List Char) : Bool :=
  match (parts name).getLast? with
  | some p => (!p.isEmpty && p.all isDigit) || (number? p).isSome
  | none => false

/-- The address of 32 bits that a name writes. -/
def parseFour? (name : List Char) : Option Nat := do
  let ps := parts name
  if 4 < ps.length then none
  let numbers ← ps.mapM number?
  let last ← numbers.getLast?
  let leading := numbers.dropLast
  if leading.any (255 < ·) ∨ Nat.pow 256 (4 - leading.length) ≤ last then none
  return leading.zipIdx.foldl (fun acc (n, i) => acc + n * Nat.pow 256 (3 - i)) last

/-- The four numbers of an address with dots between them. -/
def fourText (n : Nat) : String :=
  String.intercalate "." ([n / 16777216 % 256, n / 65536 % 256, n / 256 % 256, n % 256].map toString)

/-- One piece of one to four digits of base sixteen. -/
def piece? (cs : List Char) : Option Nat :=
  if 1 ≤ cs.length ∧ cs.length ≤ 4 then numberOf? 16 cs else none

/-- A number below 256 in base ten without leading zeros. -/
def octet? (cs : List Char) : Option Nat := do
  if cs.length = 0 ∨ 3 < cs.length ∨ (1 < cs.length ∧ cs.head? = some '0') then none
  let n ← numberOf? 10 cs
  if n ≤ 255 then some n else none

/-- Four numbers with dots between them as two pieces. -/
def dottedPieces? (cs : List Char) : Option (List Nat) := do
  match ← (Text.pieces '.' cs).mapM octet? with
  | [a, b, c, d] => some [a * 256 + b, c * 256 + d]
  | _ => none

/-- Pieces with colons between them; the last two may be written with dots. -/
def pieceList? : List (List Char) → Option (List Nat)
  | [] => some []
  | [p] => ((piece? p).map fun n => [n]).or (dottedPieces? p)
  | p :: ps => do
    let n ← piece? p
    let ns ← pieceList? ps
    return n :: ns

/-- The text before the first double colon and the text after it. -/
def cutDouble : List Char → Option (List Char × List Char)
  | ':' :: ':' :: rest => some ([], rest)
  | c :: rest => (cutDouble rest).map fun (a, b) => (c :: a, b)
  | [] => none

/-- The pieces of a text that may be empty. -/
def side? (cs : List Char) : Option (List Nat) :=
  if cs.isEmpty then some [] else pieceList? (Text.pieces ':' cs)

/-- The eight pieces of an address of 128 bits. -/
def parseSix? (cs : List Char) : Option (List Nat) :=
  match cutDouble cs with
  | none => do
    let ns ← pieceList? (Text.pieces ':' cs)
    if ns.length = 8 then some ns else none
  | some (before, after) => do
    let left ← side? before
    if before.contains '.' then none
    let right ← side? after
    if left.length + right.length ≤ 7 then
      some (left ++ List.replicate (8 - left.length - right.length) 0 ++ right)
    else none

/-- The number of zeros at the front. -/
def zeros (ns : List Nat) : Nat := (ns.takeWhile (· = 0)).length

/-- Place and length of the first of the longest runs of zeros. -/
def longestZeros : Nat → List Nat → Nat × Nat
  | _, [] => (0, 0)
  | i, n :: ns =>
    let (place, length) := longestZeros (i + 1) ns
    if length ≤ zeros (n :: ns) then (i, zeros (n :: ns)) else (place, length)

def pieceText (n : Nat) : String := String.ofList (Nat.toDigits 16 n)

/-- The pieces of an address, with the longest run of at least two zeros left out. -/
def sixText (ns : List Nat) : String :=
  let (place, length) := longestZeros 0 ns
  let join (ns : List Nat) : String := String.intercalate ":" (ns.map pieceText)
  if 2 ≤ length then join (ns.take place) ++ "::" ++ join (ns.drop (place + length)) else join ns

end PackageRegistry.Url.Address

import PackageRegistry.Text.Blank
import PackageRegistry.Text.Hexadecimal

/-!
Tables of characters. A table is written in lines of words; a word names code points in base
sixteen as `first`, `first-last` or `first-last/step`, and a word of a table of changes goes on with
what these code points become: `=` and the characters, with dots between them, for all of them
alike, or `>` and the character for the first, after which the others follow in step.
-/

namespace PackageRegistry.Unicode

/-- The words of a table. -/
def words (lines : List String) : List (List Char) :=
  lines.flatMap fun l => Text.pieces ' ' l.toList

def number (digits : List Char) : Nat := (Text.hexNumber? digits).getD 0

/-- Code points from the first to the last in equal steps. -/
structure Run where
  first : Nat
  last : Nat
  step : Nat
deriving DecidableEq, Repr

namespace Run

def contains (r : Run) (c : Char) : Bool :=
  r.first ≤ c.toNat && c.toNat ≤ r.last && (c.toNat - r.first) % r.step == 0

def ofWord (w : List Char) : Run :=
  let (ends, step) :=
    match Text.cutAt (· == '/') w with
    | some (ends, step) => (ends, number step)
    | none => (w, 1)
  match Text.cutAt (· == '-') ends with
  | some (first, last) => ⟨number first, number last, step⟩
  | none => ⟨number ends, number ends, step⟩

def ofLines (lines : List String) : List Run := (words lines).map ofWord

/-- Whether a character is in one of the runs. -/
def holds (runs : List Run) (c : Char) : Bool := runs.any fun r => r.contains c

end Run

/-- What the characters of a run become. -/
structure Rule where
  run : Run
  /-- Whether the target moves along with the run. -/
  moves : Bool
  target : List Char
deriving DecidableEq, Repr

namespace Rule

def ofWord (w : List Char) : Rule :=
  let targets (cs : List Char) : List Char :=
    (Text.pieces '.' cs).map fun d => Char.ofNat (number d)
  match Text.cutAt (· == '=') w, Text.cutAt (· == '>') w with
  | some (run, cs), _ => ⟨Run.ofWord run, false, targets cs⟩
  | none, some (run, cs) => ⟨Run.ofWord run, true, targets cs⟩
  | none, none => ⟨Run.ofWord w, false, []⟩

def ofLines (lines : List String) : List Rule := (words lines).map ofWord

/-- What a character of the run becomes. -/
def change (r : Rule) (c : Char) : List Char :=
  if r.moves then r.target.map fun t => Char.ofNat (t.toNat + (c.toNat - r.run.first))
  else r.target

/-- What a character becomes by the first rule for it. -/
def find? (rules : List Rule) (c : Char) : Option (List Char) :=
  (rules.find? fun r => r.run.contains c).map fun r => r.change c

end Rule

end PackageRegistry.Unicode

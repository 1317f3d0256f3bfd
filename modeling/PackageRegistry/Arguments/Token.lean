import PackageRegistry.Text.Blank

/-!
The words of a command line. A word becomes an option, a value tied to the option before it, or a
plain word; behind a double dash every word is plain. A taken word leaves its place empty, so that
the value of an option is only ever the word right behind it.
-/

namespace PackageRegistry.Arguments

inductive Token where
  | short (name : Char)
  | long (name : String)
  /-- The text tied to the option before it. -/
  | value (text : String)
  | word (text : String)
  /-- A word behind a double dash, which is never a command. -/
  | operand (text : String)
deriving DecidableEq, Repr

/-- The places of a command line; an empty one has been taken. -/
abbrev Slots := List (Option Token)

/-- One-letter options without a value. -/
def shortFlags : List Char := ['v', 'q', 'h', 'V']

/-- One-letter options with a value. -/
def shortOptions : List Char := ['c', 'l', 's']

/-- Several one-letter options in one word: flags, and then at most one option that takes the rest
as its value. Any other word is plain. -/
def cluster : List Char → Option (List Token)
  | [] => some []
  | c :: rest =>
    if shortFlags.contains c then (cluster rest).map (.short c :: ·)
    else if shortOptions.contains c then
      some (if rest.isEmpty then [.short c] else [.short c, .value (String.ofList rest)])
    else none

/-- The value of a one-letter option in a word with an equals sign: all that stands behind the
letter, without the sign if that is first. -/
def tied : List Char → String
  | '=' :: text => String.ofList text
  | text => String.ofList text

/-- The tokens of a word. With an equals sign in it, only the first letter of a word of one-letter
options is an option, and it has to be a letter of ASCII. -/
def tokens (w : String) : List Token :=
  match w.toList with
  | '-' :: '-' :: rest =>
    match Text.cutAt (· == '=') rest with
    | some (name, text) => [.long (String.ofList name), .value (String.ofList text)]
    | none => [.long (String.ofList rest)]
  | ['-', c] => [.short c]
  | '-' :: c :: rest =>
    if rest.contains '=' then if c.toNat < 128 then [.short c, .value (tied rest)] else [.word w]
    else (cluster (c :: rest)).getD [.word w]
  | _ => [.word w]

/-- The places of a command line. -/
def slots : List String → Slots
  | [] => []
  | w :: ws =>
    if w = "--" then none :: ws.map fun o => some (.operand o)
    else (tokens w).map some ++ slots ws

/-- A flag or option by its names. -/
structure Name where
  short : Option Char
  long : String

namespace Name

def isToken (n : Name) : Token → Bool
  | .short c => n.short = some c
  | .long s => n.long = s
  | _ => false

end Name

namespace Slots

/-- Takes every occurrence of a flag and counts them. -/
def takeAll (n : Name) : Slots → Nat × Slots
  | [] => (0, [])
  | s :: rest =>
    let (count, rest) := takeAll n rest
    match s with
    | some t => if n.isToken t then (count + 1, none :: rest) else (count, s :: rest)
    | none => (count, none :: rest)

/-- Takes the first occurrence of a flag. -/
def takeFlag (n : Name) : Slots → Bool × Slots
  | [] => (false, [])
  | some t :: rest =>
    if n.isToken t then (true, none :: rest)
    else
      let (found, rest) := takeFlag n rest
      (found, some t :: rest)
  | none :: rest =>
    let (found, rest) := takeFlag n rest
    (found, none :: rest)

/-- An option whose value is missing. -/
structure NoValue where

/-- Takes the first occurrence of an option with its value. -/
def takeOption (n : Name) : Slots → Except NoValue (Option String × Slots)
  | [] => .ok (none, [])
  | none :: rest => (takeOption n rest).map fun (v, rest) => (v, none :: rest)
  | some t :: rest =>
    if n.isToken t then
      match rest with
      | some (.word v) :: rest | some (.value v) :: rest => .ok (some v, none :: none :: rest)
      | _ => .error {}
    else (takeOption n rest).map fun (v, rest) => (v, some t :: rest)

/-- Takes the first plain word. -/
def takeWord : Slots → Option (String × Slots)
  | [] => none
  | some (.word w) :: rest | some (.operand w) :: rest => some (w, none :: rest)
  | s :: rest => (takeWord rest).map fun (w, rest) => (w, s :: rest)

/-- Takes a command: the first word that is left, with all before it taken already. -/
def takeCommand : Slots → Option (String × Slots)
  | none :: rest => takeCommand rest
  | some (.word w) :: rest => some (w, rest)
  | _ => none

/-- Whether every word has been taken. -/
def isEmpty (s : Slots) : Bool := s.all Option.isNone

/-- Whether a flag is among the words that are left. -/
def contains (n : Name) (s : Slots) : Bool := s.any fun t => t.any n.isToken

end Slots

end PackageRegistry.Arguments

import PackageRegistry.Toml.Literal
import PackageRegistry.Toml.Tree

/-!
Reading a configuration document: headers that open tables, and keys with their values.
-/

namespace PackageRegistry.Toml

namespace Document

def skipSpace (cs : List Char) : List Char := cs.dropWhile isSpace

/-- The text behind a comment, if one is next. -/
def skipComment (cs : List Char) : List Char :=
  match cs with
  | '#' :: rest => rest.dropWhile isPlain
  | cs => cs

/-- A part of a key. -/
def keyPart? (cs : List Char) : Option (String × List Char) :=
  match cs with
  | '"' :: rest => (basic rest).map fun (k, rest) => (String.ofList k, rest)
  | '\'' :: rest => (literal rest).map fun (k, rest) => (String.ofList k, rest)
  | cs =>
    let k := cs.takeWhile isBareChar
    if k.isEmpty then none else some (String.ofList k, cs.drop k.length)

/-- The parts of a key between dots; the fuel bounds their number. -/
def key? : Nat → List Char → Option (List String × List Char)
  | 0, _ => none
  | fuel + 1, cs => do
    let (k, rest) ← keyPart? (skipSpace cs)
    match skipSpace rest with
    | '.' :: rest =>
      let (ks, rest) ← key? fuel rest
      return (k :: ks, rest)
    | rest => return ([k], rest)

/-- Blanks, comments and line ends between the items of an array; the fuel bounds the lines. -/
def skipLines : Nat → List Char → List Char
  | 0, cs => cs
  | fuel + 1, cs =>
    let rest := skipComment (skipSpace cs)
    match newline? rest with
    | some rest => skipLines fuel rest
    | none => rest

/-- How deep arrays and inline tables may stand in each other, and how many parts a key may have. -/
def maxDepth : Nat := 80

/-- The parts of a key. -/
def path? (cs : List Char) : Option (List String × List Char) := key? maxDepth cs

/-- Blanks, comments and line ends between the parts of an array or inline table. -/
def skipGap (cs : List Char) : List Char := skipLines cs.length cs

mutual

/-- Any value, with `depth` levels left for arrays and inline tables; the fuel bounds the length of
the text. -/
def value? : Nat → Nat → List Char → Option (Value × List Char)
  | 0, _, _ => none
  | fuel + 1, depth, cs =>
    match depth, cs with
    | _, '"' :: _ | _, '\'' :: _ =>
      (string? cs).map fun (s, rest) => (.text (String.ofList s), rest)
    | 0, '[' :: _ | 0, '\x7b' :: _ => none
    | depth + 1, '[' :: rest => do
      let (items, rest) ← items? fuel depth (skipGap rest)
      return (.array items, rest)
    | depth + 1, '\x7b' :: rest => do
      let (entries, rest) ← pairs? fuel depth [] (skipGap rest)
      return (Node.toValue (.table .header entries), rest)
    | _, cs => scalar? cs

/-- The items of an array up to its end. -/
def items? : Nat → Nat → List Char → Option (List Value × List Char)
  | 0, _, _ => none
  | fuel + 1, depth, cs =>
    match cs with
    | ']' :: rest => some ([], rest)
    | cs => do
      let (v, rest) ← value? fuel depth cs
      match skipGap rest with
      | ',' :: rest =>
        let (vs, rest) ← items? fuel depth (skipGap rest)
        return (v :: vs, rest)
      | ']' :: rest => return ([v], rest)
      | _ => none

/-- The pairs of an inline table up to its end, behind those read so far. -/
def pairs? : Nat → Nat → Entries → List Char → Option (Entries × List Char)
  | 0, _, _, _ => none
  | fuel + 1, depth, entries, cs =>
    match cs with
    | '\x7d' :: rest => some (entries, rest)
    | cs => do
      let (keys, rest) ← path? cs
      match skipGap rest with
      | '=' :: rest =>
        let (v, rest) ← value? fuel depth (skipGap rest)
        let entries ← Entries.assign v true keys entries
        match skipGap rest with
        | ',' :: rest => pairs? fuel depth entries (skipGap rest)
        | '\x7d' :: rest => return (entries, rest)
        | _ => none
      | _ => none

end

/-- What has been read: the tree, and the table that was opened last. -/
structure State where
  entries : Entries := []
  path : List String := []

/-- A header, or a key with its value. -/
def statement? (s : State) (cs : List Char) : Option (State × List Char) :=
  match cs with
  | '[' :: '[' :: rest => do
    let (path, rest) ← path? rest
    match rest with
    | ']' :: ']' :: rest => return (⟨← s.entries.appendTable path, path⟩, rest)
    | _ => none
  | '[' :: rest => do
    let (path, rest) ← path? rest
    match rest with
    | ']' :: rest => return (⟨← s.entries.openTable path, path⟩, rest)
    | _ => none
  | cs => do
    let (keys, rest) ← path? cs
    match rest with
    | '=' :: rest =>
      let (v, rest) ← value? (2 * rest.length) maxDepth (skipSpace rest)
      return ({ s with entries := ← s.entries.assignIn v s.path keys }, rest)
    | _ => none

/-- The lines of a document; the fuel bounds their number. -/
def lines? : Nat → State → List Char → Option State
  | 0, _, _ => none
  | fuel + 1, s, cs => do
    let cs := skipSpace cs
    let (s, rest) ←
      match cs with
      | [] | '#' :: _ | '\n' :: _ | '\r' :: _ => some (s, cs)
      | cs => statement? s cs
    match skipComment (skipSpace rest) with
    | [] => return s
    | rest => lines? fuel s (← newline? rest)

end Document

/-- The table that a document writes. A mark of the byte order in front does not count. -/
def parse? (text : String) : Option (List (String × Value)) :=
  let cs :=
    match text.toList with
    | c :: rest => if c.toNat = 0xFEFF then rest else c :: rest
    | [] => []
  (Document.lines? (cs.length + 1) {} cs).map fun s => Node.entryValues s.entries

end PackageRegistry.Toml

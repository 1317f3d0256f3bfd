/-!
Blank characters, trimming and the pieces of a separated text. A text counts as blank when
nothing is left of it after trimming.
-/

namespace PackageRegistry.Text

/-- The twenty-five characters with the Unicode property `White_Space`. -/
def isBlankChar (c : Char) : Bool :=
  let n := c.toNat
  (9 ≤ n && n ≤ 13) || n == 0x20 || n == 0x85 || n == 0xA0 || n == 0x1680 ||
    (0x2000 ≤ n && n ≤ 0x200A) || n == 0x2028 || n == 0x2029 || n == 0x202F ||
    n == 0x205F || n == 0x3000

/-- Drops the characters of a class from the end of a list. -/
def dropTail (p : Char → Bool) (cs : List Char) : List Char :=
  (cs.reverse.dropWhile p).reverse

def trimChars (cs : List Char) : List Char :=
  dropTail isBlankChar (cs.dropWhile isBlankChar)

/-- The text without the blank characters at its two ends. -/
def trim (s : String) : String :=
  String.ofList (trimChars s.toList)

def isBlank (s : String) : Bool :=
  s.toList.all isBlankChar

/-- The trimmed text, or nothing when the text is blank. -/
def trimmed? (s : String) : Option String :=
  if isBlank s then none else some (trim s)

/-- The pieces between the occurrences of a separator: one more than there are separators. -/
def pieces (sep : Char) : List Char → List (List Char)
  | [] => [[]]
  | c :: cs =>
    if c = sep then [] :: pieces sep cs
    else
      match pieces sep cs with
      | [] => [[c]]
      | p :: ps => (c :: p) :: ps

/-- The pieces of a text between the occurrences of a separator. -/
def split (sep : Char) (s : String) : List String :=
  (pieces sep s.toList).map String.ofList

/-- The text before the first character of a class and the text after it. -/
def cutAt (p : Char → Bool) (cs : List Char) : Option (List Char × List Char) :=
  match cs.dropWhile (fun c => !p c) with
  | [] => none
  | _ :: rest => some (cs.takeWhile (fun c => !p c), rest)

/-- The lines of a text; a line ends at a line feed, and a carriage return before it belongs
to the line end. A last line without a line feed counts when it is not empty. -/
def lines (s : String) : List String :=
  let ps := pieces '\n' s.toList
  let ended := ps.dropLast.map fun p =>
    if p.getLast? = some '\r' then p.dropLast else p
  let rest := ps.getLast?.getD []
  (ended ++ if rest.isEmpty then [] else [rest]).map String.ofList

end PackageRegistry.Text

import PackageRegistry.Listing

/-!
What a reader sees of packages and listings: compact counters, a table with aligned descriptions,
and the details of one package line by line.
-/

namespace PackageRegistry.Display

open Numeric (Magnitude)

/-- A quotient of two numbers as doubles, with one decimal; a half goes to the even digit. -/
def tenths (n unit : Nat) : String :=
  match (Magnitude.ofNat n).div (Magnitude.ofNat unit) with
  | .finite m e =>
    let (num, den) := Magnitude.toRatio m e
    Numeric.oneDecimal num den
  | .infinite => "inf"

/-- A counter as it is below a thousand, in thousands below a million, and else in millions. -/
def count (n : Nat) : String :=
  if n < 1000 then toString n
  else if n < 1000000 then tenths n 1000 ++ "k"
  else tenths n 1000000 ++ "M"

/-- The date of the last update in UTC; text that is no moment is shown as it is. -/
def updated (s : Package.Statistics) : String :=
  match s.updatedAt, s.lastUpdated with
  | some m, _ => m.date.text
  | none, some raw => raw
  | none, none => "unknown"

/-- The description on one line. -/
def summaryLine (p : Package) : String :=
  match Text.trimmed? p.description with
  | none => "<no description provided>"
  | some d => d.map fun c => if c = '\n' then ' ' else c

/-- A text filled up with spaces to a number of characters. -/
def padRight (width : Nat) (s : String) : String :=
  s ++ String.ofList (List.replicate (width - s.length) ' ')

/-- The width of the name column: enough for the bytes of the longest name. -/
def nameWidth (items : List Package) : Nat :=
  items.foldl (fun w p => max w p.name.utf8ByteSize) 0

def row (width : Nat) (p : Package) : String :=
  padRight width p.name ++ "  " ++ summaryLine p ++
    "  (⬇ " ++ count p.stats.downloads ++ ", ★ " ++ count p.stats.stars ++ ")"

/-- One row for each package of a page. -/
def table (l : Listing) : String :=
  String.intercalate "\n" (l.items.map (row (nameWidth l.items)))

/-- The most characters that a column can be filled up to. -/
def greatestWidth : Nat := 65535

/-- The table as it is printed. There is none where the column of names is too wide. -/
def printed? (l : Listing) : Option String :=
  if nameWidth l.items ≤ greatestWidth then some (table l) else none

/-- How many packages were found, for what query, with how many filters. -/
def listingSummary (f : Filters) (l : Listing) : String :=
  toString l.total ++ " packages found" ++
    (match f.query with
      | some q => " for '" ++ q ++ "'"
      | none => "") ++
    match f.activeCount with
    | 0 => ""
    | 1 => " (1 filter active)"
    | n => " (" ++ toString n ++ " filters active)"

def noResults (f : Filters) : String :=
  match f.query with
  | some q => "No packages matched '" ++ q ++ "'. Try different keywords or filters."
  | none => "No packages matched the selected filters."

/-- Lines, each with its line feed. -/
def block (lines : List String) : String :=
  String.join (lines.map (· ++ "\n"))

def statisticsLines (p : Package) : List String := [
  "Downloads:   " ++ toString p.stats.downloads,
  "Stars:       " ++ toString p.stats.stars,
  "Updated:     " ++ updated p.stats,
  "Install:     rstar install " ++ p.name]

/-- The numbers of a package. -/
def statistics (p : Package) : String := block (statisticsLines p)

/-- A labelled line for a text that is there and not empty. -/
def labelled (label : String) (text : String) : List String :=
  if text = "" then [] else [label ++ text]

def releaseLine (r : Package.Release) : String :=
  match r.releaseDate with
  | some date => "  " ++ r.version ++ "  (" ++ date ++ ")"
  | none => "  " ++ r.version

def detailLines (p : Package) : List String :=
  [p.name ++ " - " ++ p.title] ++
    (Text.trimmed? p.description).toList ++
    ["", "Version:     " ++ p.latestVersion.getD p.version] ++
    labelled "Author:      " p.author ++
    (p.license.map ("License:     " ++ ·)).toList ++
    (p.category.map ("Category:    " ++ ·)).toList ++
    labelled "Repository:  " p.repository ++
    labelled "Homepage:    " (p.homepage.getD "") ++
    (if p.keywords.isEmpty then []
      else ["Keywords:    " ++ String.intercalate ", " p.keywords]) ++
    statisticsLines p ++
    if p.versions.isEmpty then [] else "" :: "Versions:" :: p.versions.map releaseLine

/-- Everything there is to say about a package. -/
def details (p : Package) : String := block (detailLines p)

end PackageRegistry.Display

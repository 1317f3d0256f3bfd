import PackageRegistry.Client
import PackageRegistry.Display
import PackageRegistry.Search.Run

/-!
Refining a search line by line. A line that begins with a slash is a command; any other line is the
text to search for, and results come once the typing stops.
-/

namespace PackageRegistry.Browse

open Search (Action Millis Plan)

/-- What a line means. -/
inductive Input where
  | edit (p : Patch)
  | submit
  | quit
deriving DecidableEq, Repr

/-- A word of a vocabulary turned into an edit. -/
def choose {α : Type} [Vocabulary α] (edit : α → Patch) (argument : String) :
    Except String Input :=
  match (Vocabulary.parse argument : Except UnknownWord α) with
  | .ok w => .ok (.edit (edit w))
  | .error e => .error e.message

/-- The name of a command and its argument. -/
def splitCommand (cs : List Char) : String × String :=
  match Text.cutAt Text.isBlankChar cs with
  | some (name, argument) => (String.ofList name, Text.trim (String.ofList argument))
  | none => (String.ofList cs, "")

/-- What a line means, or what to tell the user about it. -/
def read (line : String) : Except String Input :=
  match (Text.trim line).toList with
  | '/' :: cs =>
    let (name, argument) := splitCommand cs
    match name with
    | "category" => choose Patch.toggleCategory argument
    | "license" => choose Patch.toggleLicense argument
    | "sort" => choose Patch.setSort argument
    | "clear" => .ok (.edit .clearAll)
    | "search" => .ok .submit
    | "quit" | "q" => .ok .quit
    | other => .error ("unknown command '/" ++ other ++ "'")
  | _ => .ok (.edit (.setQuery line))

def help : List String := [
  "Type to search; results refresh once you stop typing.",
  "  /category <name>   toggle a category filter",
  "  /license <name>    toggle a license filter",
  "  /sort <key>        relevance, downloads, stars or updated",
  "  /clear             clear all filters",
  "  /search            search now",
  "  /quit              exit"]

/-- A line that a user types, and how long that takes. -/
structure Line where
  pause : Millis := 0
  text : String
deriving DecidableEq, Repr

/-- What the typed lines do up to the first one that quits. A line that means nothing is remarked
on as it comes. -/
def script : List Line → List Action
  | [] => []
  | l :: ls =>
    .sleep l.pause ::
      match read l.text with
      | .error complaint => .note complaint :: script ls
      | .ok .quit => []
      | .ok (.edit p) => .send (.edit p) :: script ls
      | .ok .submit => .send (.submit .empty) :: script ls

end PackageRegistry.Browse

import PackageRegistry.Toml.Value

/-!
The tables of a document while it is read. A table can be told apart by how it came about, because
that decides who may still add to it: a header opens a table once and does not open one that dotted
keys made, and dotted keys do not reach into a table that a header opened.
-/

namespace PackageRegistry.Toml

/-- How a table came about. -/
inductive Origin where
  /-- As a place on the way to another table. -/
  | implied
  /-- By dotted keys. -/
  | dotted
  /-- By a header of its own. -/
  | header
deriving DecidableEq, Repr

inductive Node where
  | leaf (v : Value)
  | table (origin : Origin) (entries : List (String × Node))
  /-- Tables under one name: those before, and the last one. -/
  | tables (earlier : List (List (String × Node))) (last : List (String × Node))

abbrev Entries := List (String × Node)

namespace Node

mutual

/-- The value that a node stands for. -/
def toValue : Node → Value
  | .leaf v => v
  | .table _ entries => .table (entryValues entries)
  | .tables earlier last => .array (tableValues earlier ++ [.table (entryValues last)])

def entryValues : List (String × Node) → List (String × Value)
  | [] => []
  | (k, n) :: rest => (k, toValue n) :: entryValues rest

def tableValues : List (List (String × Node)) → List Value
  | [] => []
  | t :: rest => .table (entryValues t) :: tableValues rest

end

end Node

namespace Entries

/-- Changes what stands under a key, which may be nothing. -/
def alter (key : String) (f : Option Node → Option Node) : Entries → Option Entries
  | [] => (f none).map fun n => [(key, n)]
  | (k, n) :: rest =>
    if k = key then (f (some n)).map fun m => (k, m) :: rest
    else (alter key f rest).map ((k, n) :: ·)

/-- Goes down to the table under a key, making one on the way if need be, and changes it. -/
def within (key : String) (f : Entries → Option Entries) : Entries → Option Entries :=
  alter key fun
    | none => (f []).map (.table .implied)
    | some (.table origin entries) => (f entries).map (.table origin)
    | some (.tables earlier last) => (f last).map (.tables earlier)
    | some (.leaf _) => none

/-- Opens a table by its header; one that was only implied so far can still be opened. -/
def openTable : List String → Entries → Option Entries
  | [] => fun _ => none
  | [key] => alter key fun
    | none => some (.table .header [])
    | some (.table .implied entries) => some (.table .header entries)
    | some _ => none
  | key :: keys => within key (openTable keys)

/-- Begins one more of the tables under a name. -/
def appendTable : List String → Entries → Option Entries
  | [] => fun _ => none
  | [key] => alter key fun
    | none => some (.tables [] [])
    | some (.tables earlier last) => some (.tables (earlier ++ [last]) [])
    | some _ => none
  | key :: keys => within key (appendTable keys)

/-- Sets a value under a dotted key, in a table that takes values of its own or does not. A table
on the way is one that no header opened; the last of some tables under one name lies on the way only
to tables in it. -/
def assign (v : Value) (takes : Bool) : List String → Entries → Option Entries
  | [] => fun _ => none
  | [key] => fun entries =>
    if takes then
      alter key (fun
        | none => some (.leaf v)
        | some _ => none) entries
    else none
  | key :: keys => alter key fun
    | none => (assign v true keys []).map (.table .dotted)
    | some (.table .header _) => none
    | some (.table o entries) => (assign v true keys entries).map (.table o)
    | some (.tables earlier last) => (assign v false keys last).map (.tables earlier)
    | some (.leaf _) => none

/-- Sets a value in the table that was opened last. -/
def assignIn (v : Value) (path keys : List String) : Entries → Option Entries :=
  match path with
  | [] => assign v true keys
  | key :: path => within key (assignIn v path keys)

end Entries

end PackageRegistry.Toml

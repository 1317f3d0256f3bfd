import PackageRegistry.Text.Blank
import PackageRegistry.Text.Utf8

/-!
A tree of directories and files. Every entry is known by its real path from the root; a location is
a path as written, which may go up again and may start from the current directory.
-/

namespace PackageRegistry

inductive Entry where
  | file (content : List UInt8)
  | directory
deriving DecidableEq, Repr

/-- A path as written. -/
abbrev Location := String

/-- The entries by their real paths, the real path of the current directory, and the home directory
that the list of users names for who runs the program. The root is always there. -/
structure Disk where
  entries : List (List String × Entry) := []
  current : List String := []
  home : Option Location := none
deriving DecidableEq, Repr, Inhabited

/-- Why an access to a disk failed. -/
inductive DiskFault where
  | notFound
  | alreadyExists
  | notADirectory
  | isADirectory
  | nameTooLong
  | zeroInName
  | notText
deriving DecidableEq, Repr

namespace DiskFault

def message : DiskFault → String
  | .notFound => "No such file or directory (os error 2)"
  | .alreadyExists => "File exists (os error 17)"
  | .notADirectory => "Not a directory (os error 20)"
  | .isADirectory => "Is a directory (os error 21)"
  | .nameTooLong => "File name too long (os error 36)"
  | .zeroInName => "file name contained an unexpected NUL byte"
  | .notText => "stream did not contain valid UTF-8"

end DiskFault

namespace Location

def isAbsolute (l : Location) : Bool := l.toList.head? = some '/'

/-- The names between the slashes. -/
def names (l : Location) : List String := (Text.split '/' l).filter (· ≠ "")

/-- The names to what is at a location. A slash at the end asks for a directory, as a dot would. -/
def target (l : Location) : List String :=
  if l.toList.getLast? = some '/' then l.names ++ ["."] else l.names

/-- Why nothing can be at a location, whatever is on the disk: names have no zero character, and all
of them together take less than 4096 bytes. -/
def fault? (l : Location) : Option DiskFault :=
  if l.toList.contains '\x00' then some .zeroInName
  else if 4096 ≤ l.utf8ByteSize then some .nameTooLong
  else none

/-- A location below another one; an absolute location stays as it is. -/
def join (base : Location) (l : Location) : Location :=
  if isAbsolute l then l
  else if base = "" then l
  else if base.toList.getLast? = some '/' then base ++ l
  else base ++ "/" ++ l

/-- Drops the slashes and the single dots behind slashes from the end of a text, which is given in
reverse. The first character stays. -/
def dropBack : List Char → List Char
  | '/' :: c :: cs => dropBack (c :: cs)
  | '.' :: '/' :: cs => dropBack ('/' :: cs)
  | cs => cs

/-- The location without its last name. Dots around that name are no names here. -/
def parent (l : Location) : Location :=
  let front := (dropBack l.toList.reverse).dropWhile fun c => c ≠ '/'
  String.ofList (dropBack front).reverse

end Location

/-- What an access to a disk gives, and the disk after it. -/
abbrev Access (α : Type) := Except DiskFault α × Disk

namespace Disk

/-- The entry at a real path. -/
def get? (d : Disk) (path : List String) : Option Entry :=
  if path = [] then some .directory
  else (d.entries.find? fun e => e.1 = path).map Prod.snd

/-- The disk without the entry at a real path. -/
def erase (d : Disk) (path : List String) : Disk :=
  { d with entries := d.entries.filter fun e => e.1 ≠ path }

/-- The disk with an entry at a real path. -/
def put (d : Disk) (path : List String) (e : Entry) : Disk :=
  { d with entries := (path, e) :: (d.erase path).entries }

/-- The root cannot be taken away. -/
@[simp]
theorem get?_nil (d : Disk) : d.get? [] = some .directory := by simp [get?]

theorem get?_erase_self (d : Disk) {path : List String} (h : path ≠ []) :
    (d.erase path).get? path = none := by
  simp [get?, erase, h]

theorem get?_erase_of_ne (d : Disk) {path other : List String} (h : other ≠ path) :
    (d.erase path).get? other = d.get? other := by
  unfold get? erase
  split
  · rfl
  · rw [List.find?_filter]
    congr 1
    congr 1
    funext e
    by_cases he : e.1 = other
    · simp [he, h]
    · simp [he]

theorem get?_put_self (d : Disk) {path : List String} (e : Entry) (h : path ≠ []) :
    (d.put path e).get? path = some e := by
  simp [get?, put, h]

theorem get?_put_of_ne (d : Disk) {path other : List String} (e : Entry) (h : other ≠ path) :
    (d.put path e).get? other = d.get? other := by
  rw [← get?_erase_of_ne d h]
  simp [get?, put, Ne.symm h]

/-- Where a location starts. -/
def origin (d : Disk) (l : Location) : List String :=
  if l.isAbsolute then [] else d.current

/-- Whether a name has more than the 255 bytes that a directory can hold. -/
def isTooLong (name : String) : Bool := 255 < name.utf8ByteSize

/-- The real path that names lead to; every name but the last has to be a directory. -/
def follow (d : Disk) (path : List String) : List String → Except DiskFault (List String)
  | [] => .ok path
  | name :: names =>
    match d.get? path with
    | none => .error .notFound
    | some (.file _) => .error .notADirectory
    | some .directory =>
      if name = "." then follow d path names
      else if name = ".." then follow d path.dropLast names
      else if isTooLong name then .error .nameTooLong
      else follow d (path ++ [name]) names

/-- The real path of a location, whether something is there or not. -/
def resolve (d : Disk) (l : Location) : Except DiskFault (List String) :=
  match l.fault? with
  | some fault => .error fault
  | none => if l = "" then .error .notFound else d.follow (d.origin l) l.target

/-- What is at a location. -/
def entry? (d : Disk) (l : Location) : Option Entry :=
  match d.resolve l with
  | .ok path => d.get? path
  | .error _ => none

/-- The bytes of a file. -/
def read (d : Disk) (l : Location) : Except DiskFault (List UInt8) := do
  match d.get? (← d.resolve l) with
  | none => .error .notFound
  | some .directory => .error .isADirectory
  | some (.file content) => .ok content

/-- The text of a file. -/
def readText (d : Disk) (l : Location) : Except DiskFault String := do
  match Text.Utf8.text? (← d.read l) with
  | some text => .ok text
  | none => .error .notText

/-- Makes the directories that names lead to, where they are missing. What was made before a failure
stays. -/
def makeAlong (d : Disk) (path : List String) : List String → Access Unit
  | [] => (.ok (), d)
  | name :: names =>
    if name = "." then makeAlong d path names
    else if name = ".." then makeAlong d path.dropLast names
    else if isTooLong name then (.error .nameTooLong, d)
    else
      let next := path ++ [name]
      match d.get? next with
      | none => makeAlong (d.put next .directory) next names
      | some .directory => makeAlong d next names
      | some (.file _) => (.error (if names.isEmpty then .alreadyExists else .notADirectory), d)

/-- The names in front of the last one that is more than a dot. -/
def aboveLast (names : List String) : List String :=
  (names.reverse.dropWhile (· = ".")).tail.reverse

/-- Goes along names that end in a dot, to a directory that has to be there. Where something is
missing on the way, the directories above the last one are made, but not the last one. -/
def makeAbove (d : Disk) (path names : List String) : Access Unit :=
  match d.follow path names with
  | .ok _ => (.ok (), d)
  | .error .notFound =>
    match d.makeAlong path (aboveLast names) with
    | (.ok (), d) => ((d.follow path names).map fun _ => (), d)
    | (.error fault, d) => (.error fault, d)
  | .error fault => (.error fault, d)

/-- Makes a directory and those above it, where they are missing. -/
def makeDirectory (d : Disk) (l : Location) : Access Unit :=
  match l.fault? with
  | some fault => (.error fault, d)
  | none =>
    if l.names.getLast? = some "." then d.makeAbove (d.origin l) l.names
    else d.makeAlong (d.origin l) l.names

/-- Makes the directories above a location. -/
def makeParent (d : Disk) (l : Location) : Access Unit := d.makeDirectory l.parent

/-- Puts a file at a location in place of another one. -/
def write (d : Disk) (l : Location) (content : List UInt8) : Access Unit :=
  match d.resolve l with
  | .error fault => (.error fault, d)
  | .ok path =>
    match d.get? path with
    | some .directory => (.error .isADirectory, d)
    | _ => (.ok (), d.put path (.file content))

/-- Takes a file away. -/
def remove (d : Disk) (l : Location) : Access Unit :=
  match d.resolve l with
  | .error fault => (.error fault, d)
  | .ok path =>
    match d.get? path with
    | none => (.error .notFound, d)
    | some .directory => (.error .isADirectory, d)
    | some (.file _) => (.ok (), d.erase path)

end Disk

end PackageRegistry

import PackageRegistry.Account
import PackageRegistry.Disk
import PackageRegistry.Json.Printer

/-!
Where an account is kept between runs: as a JSON document in a file, or in memory.
-/

namespace PackageRegistry

/-- Why an account could not be loaded or kept. -/
inductive StoreFault where
  | read (location : Location) (fault : DiskFault)
  | parse (location : Location) (fault : Json.Fault)
  | write (fault : DiskFault)
  /-- The new file could not take the place of the old one. -/
  | replace (fault : DiskFault)
deriving DecidableEq, Repr

namespace StoreFault

/-- The texts of a fault, from the outermost cause to the innermost. -/
def chain : StoreFault → List String
  | .read location fault => ["could not read session file '" ++ location ++ "'", fault.message]
  | .parse location fault => ["could not parse session file '" ++ location ++ "'", fault.message]
  | .write fault => ["could not write session file", fault.message]
  | .replace fault => ["failed to persist temporary file: " ++ fault.message, fault.message]

def message (f : StoreFault) : String := f.chain.headD ""

end StoreFault

namespace AccountFile

/-- The file in a data directory. -/
def location (directory : Location) : Location := directory.join "session.json"

/-- The account in a file; a missing file is an empty account. -/
def load (l : Location) (d : Disk) : Except StoreFault Account :=
  match d.readText l with
  | .error .notFound => .ok {}
  | .error fault => .error (.read l fault)
  | .ok text =>
    let input := Text.Glyph.ofString text
    (Json.parseAs Account.ofJson input).mapError fun fault =>
      .parse l ((Account.schema.fault? input).getD fault)

def content (a : Account) : List UInt8 := Text.Utf8.encode a.toJson.pretty

/-- Keeps an account in a file, in place of whatever file was there. -/
def save (l : Location) (a : Account) (d : Disk) : Except StoreFault Unit × Disk :=
  match d.makeParent l with
  | (.error fault, d) => (.error (.write fault), d)
  | (.ok (), d) =>
    match d.write l (content a) with
    | (.error fault, d) => (.error (.replace fault), d)
    | (.ok (), d) => (.ok (), d)

/-- Takes the file away; a missing file is fine. -/
def clear (l : Location) (d : Disk) : Except StoreFault Unit × Disk :=
  match d.remove l with
  | (.ok (), d) => (.ok (), d)
  | (.error .notFound, d) => (.ok (), d)
  | (.error fault, d) => (.error (.write fault), d)

end AccountFile

/-- A place for one account. -/
inductive Store where
  | memory (account : Account)
  | file (location : Location) (disk : Disk)
deriving Repr

namespace Store

def load : Store → Except StoreFault Account
  | .memory a => .ok a
  | .file l d => AccountFile.load l d

/-- Keeps an account; the store afterwards comes back also when that fails. -/
def save (a : Account) : Store → Except StoreFault Unit × Store
  | .memory _ => (.ok (), .memory a)
  | .file l d =>
    let (result, d) := AccountFile.save l a d
    (result, .file l d)

/-- Forgets the account. -/
def clear : Store → Except StoreFault Unit × Store
  | .memory _ => (.ok (), .memory {})
  | .file l d =>
    let (result, d) := AccountFile.clear l d
    (result, .file l d)

/-- The disk of a store that has one. -/
def diskOr (other : Disk) : Store → Disk
  | .memory _ => other
  | .file _ d => d

end Store

end PackageRegistry

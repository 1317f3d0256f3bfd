import PackageRegistry.Disk
import PackageRegistry.Keyed
import PackageRegistry.Login
import PackageRegistry.Toml.Document

/-!
The settings of a run. They come in layers, each of which goes over the one before: the defaults,
the configuration file, and the variables of the environment whose names begin with `RADS_`. The
name of a setting leads through tables and arrays to the part that it sets.
-/

namespace PackageRegistry

open Toml (Value)

/-- Variables by name. -/
abbrev Environment := List (String × String)

namespace Environment

def get? (env : Environment) (name : String) : Option String := Keyed.find? name env

end Environment

structure Settings where
  dispatchUrl : String
  dataDir : Location
  configDir : Location
  userAgent : Option String
  debounce : Nat
  provider : Provider
deriving DecidableEq, Repr

/-- Why the settings could not be read; of a document or a value that is out of place it is the
library that says what is wrong. -/
inductive SettingsFault where
  | noConfigHome
  | noDataHome
  | directory (location : Location) (fault : DiskFault)
  | document (causes : List String)
  | value (causes : List String)
deriving DecidableEq, Repr

namespace SettingsFault

/-- The texts of a fault, from the outermost cause to the innermost. -/
def chain : SettingsFault → List String
  | .noConfigHome => ["Could not determine the user config directory"]
  | .noDataHome => ["Could not determine the user data directory"]
  | .directory location fault =>
    ["Could not create config directory: " ++ Text.quoted location, fault.message]
  | .document causes => causes
  | .value causes => "Could not parse config" :: causes

end SettingsFault

namespace Settings

/-! ### Layers -/

abbrev Table := List (String × Value)

/-- What is left to the library that puts layers together: the order in which it takes the entries
of a layer, and its words for a file that is no document and for settings that cannot be read. -/
structure Library where
  arrange : Table → Table
  perm : ∀ es, (arrange es).Perm es
  ofDocument : Location → List UInt8 → List String
  ofValue : Table → List String

/-- A library that takes entries as they come and has few words. -/
def Library.plain : Library where
  arrange := id
  perm es := .refl es
  ofDocument l _ := ["could not parse '" ++ l ++ "'"]
  ofValue _ := ["invalid value"]

/-- The entries of a value, which has none unless it is a table. -/
def entriesOf : Option Value → Table
  | some (.table es) => es
  | _ => []

/-- The items of a value, which has none unless it is an array. -/
def itemsOf : Option Value → List Value
  | some (.array items) => items
  | _ => []

mutual

/-- A value laid over what was there: tables are merged entry by entry, all else is replaced. -/
def overlay (old : Option Value) : Value → Value
  | .table es => .table (overlayEntries (entriesOf old) es)
  | v => v

def overlayEntries (old : Table) : Table → Table
  | [] => old
  | (k, v) :: es => overlayEntries (Keyed.insert k (overlay (Keyed.find? k old) v) old) es

end

/-- A step from a value to a part of it. -/
inductive Step where
  | key (name : String)
  /-- A place in an array, counted from its end if below zero. -/
  | place (n : Int)
deriving DecidableEq, Repr

/-- Room in an array that nothing was laid into. No setting can be read from it. -/
def hole : Value := .table []

/-- An array with room at a place, and where that place then is. Places before the first item move
the items back. -/
def makeRoom (items : List Value) (n : Int) : List Value × Nat :=
  if 0 ≤ n then (items ++ List.replicate (n.toNat + 1 - items.length) hole, n.toNat)
  else if n.natAbs ≤ items.length then (items, items.length - n.natAbs)
  else (List.replicate (n.natAbs - items.length) hole ++ items, 0)

/-- A value laid over what stands at the end of some steps. What is in the way gives way. -/
def overlayAt (v : Value) : List Step → Option Value → Value
  | [], old => overlay old v
  | .key k :: steps, old =>
    .table (Keyed.insert k (overlayAt v steps (Keyed.find? k (entriesOf old))) (entriesOf old))
  | .place n :: steps, old =>
    let (items, i) := makeRoom (itemsOf old) n
    .array (items.set i (overlayAt v steps items[i]?))

/-- The steps of a name behind its first key: keys behind dots, places in brackets. The fuel bounds
their number. -/
def moreSteps? : Nat → List Char → Option (List Step)
  | _, [] => some []
  | 0, _ => none
  | fuel + 1, '.' :: rest =>
    let k := rest.takeWhile Toml.isBareChar
    if k.isEmpty then none
    else (moreSteps? fuel (rest.drop k.length)).map (.key (String.ofList k) :: ·)
  | fuel + 1, '[' :: rest =>
    match Text.cutAt (· == ']') rest with
    | none => none
    | some (inner, after) =>
      let digits := Text.dropTail Toml.isSpace (inner.dropWhile Toml.isSpace)
      let (negative, digits) :=
        match digits with
        | '-' :: digits => (true, digits)
        | digits => (false, digits)
      if digits.isEmpty ∨ !digits.all Toml.isDecimal then none
      else
        let n : Int := Toml.valueOf 10 digits
        let n := if negative then -n else n
        if Toml.fits n then (moreSteps? fuel after).map (.place n :: ·) else none
  | _, _ => none

/-- The steps that a name goes through; a name of any other form is one key. -/
def steps (name : String) : List Step :=
  let cs := name.toList
  let k := cs.takeWhile Toml.isBareChar
  match k, moreSteps? cs.length (cs.drop k.length) with
  | _ :: _, some more => .key (String.ofList k) :: more
  | _, _ => [.key name]

/-- A layer of named values laid over a table. -/
def overlayLayer (base layer : Table) : Table :=
  layer.foldl (fun acc e => entriesOf (some (overlayAt e.2 (steps e.1) (some (.table acc))))) base

/-! ### The environment -/

/-- The text with capital letters of ASCII made small. -/
def lower (s : String) : String := String.ofList (s.toList.map Char.toLower)

/-- Every double underscore becomes a dot. -/
def dotted : List Char → List Char
  | '_' :: '_' :: rest => '.' :: dotted rest
  | c :: rest => c :: dotted rest
  | [] => []

/-- The name of the setting that a variable gives. -/
def settingName? (var : String) : Option String :=
  match (lower var).toList with
  | 'r' :: 'a' :: 'd' :: 's' :: '_' :: rest => some (String.ofList (dotted rest))
  | _ => none

/-- An integer of 64 bits with an optional sign. -/
def integer? (s : String) : Option Int :=
  let (negative, digits) := Toml.sign s.toList
  if digits.isEmpty ∨ !digits.all Toml.isDecimal then none
  else
    let n : Int := Toml.valueOf 10 digits
    let n := if negative then -n else n
    if Toml.fits n then some n else none

/-- What a variable says: a truth value or a number where it reads as one, a list of words where
the setting is a list, and else text. -/
def variableValue (name text : String) : Value :=
  match lower text with
  | "true" => .boolean true
  | "false" => .boolean false
  | _ =>
    match integer? text, Numeric.Binary64.parse? text with
    | some n, _ => .integer n
    | none, some x => .float x
    | none, none =>
      if name = "oauth.scopes" then .array ((Text.split ' ' text).map .text) else .text text

/-- The settings in an environment; of variables that differ in case only, the last one counts. -/
def environmentLayer (lib : Library) (env : Environment) : Table :=
  lib.arrange (Keyed.sort (env.filterMap fun (var, text) =>
    (settingName? var).map fun name => (name, variableValue name text)))

/-! ### Reading settings out of a table -/

/-- A single value as text. -/
def text? : Value → Option String
  | .text s => some s
  | .integer n => some (toString n)
  | .float x => some x.display
  | .boolean b => some (if b then "true" else "false")
  | _ => none

/-- The number below `2 ^ 64` that a text means. -/
def countOfText? (s : String) : Option Nat :=
  match lower s with
  | "true" | "on" | "yes" => some 1
  | "false" | "off" | "no" => some 0
  | _ =>
    let digits :=
      match s.toList with
      | '+' :: rest => rest
      | cs => cs
    if digits.isEmpty ∨ !digits.all Toml.isDecimal then none
    else
      let n := Toml.valueOf 10 digits
      if n < Nat.pow 2 64 then some n else none

/-- A single value as a number below `2 ^ 64`; a fraction is rounded, a half away from zero. -/
def count? : Value → Option Nat
  | .text s => countOfText? s
  | .integer n => if 0 ≤ n then some n.toNat else none
  | .float x => some x.toNatSaturating
  | .boolean b => some (if b then 1 else 0)
  | _ => none

/-- A list of texts. -/
def texts? : Value → Option (List String)
  | .array items => items.mapM text?
  | _ => none

/-- Reads a value, or takes a default where there is none. -/
def field {α : Type} (es : Table) (name : String) (default : α) (read : Value → Option α) :
    Option α :=
  match Keyed.find? name es with
  | none => some default
  | some v => read v

def providerFields : List String := ["client_id", "authorize_url", "redirect_uri", "scopes"]

/-- The provider in a table, or in an array of its fields. -/
def providerOf (v : Value) : Option Provider := do
  let es ←
    match v with
    | .table es => some es
    | .array items => some (providerFields.zip items)
    | _ => none
  let defaults : Provider := {}
  let clientId ← field es "client_id" defaults.clientId text?
  let authorizeUrl ← field es "authorize_url" defaults.authorizeUrl text?
  let redirectUri ← field es "redirect_uri" defaults.redirectUri text?
  let scopes ← field es "scopes" defaults.scopes texts?
  return { clientId, authorizeUrl, redirectUri, scopes }

/-! ### Putting the layers together -/

/-- The layer under all others. -/
def defaultLayer (dataDir : Location) : Table :=
  let p : Provider := {}
  [("data_dir", .text dataDir),
    ("debounce_ms", .integer 300),
    ("dispatch_url", .text ({} : ClientOptions).baseUrl),
    ("oauth", .table [
      ("authorize_url", .text p.authorizeUrl),
      ("redirect_uri", .text p.redirectUri),
      ("scopes", .array (p.scopes.map .text))])]

/-- The settings in a table, if all that is there can be read. -/
def ofTable (configDir : Location) (es : Table) : Option Settings := do
  let dispatchUrl ← field es "dispatch_url" "" text?
  let dataDir ← field es "data_dir" "" text?
  let userAgent ← field es "user_agent" none fun v => (text? v).map some
  let debounce ← field es "debounce_ms" 0 count?
  let provider ← providerOf ((Keyed.find? "oauth" es).getD (.table []))
  return { dispatchUrl, dataDir, configDir, userAgent, debounce, provider }

/-- The home directory: the variable unless it is empty, else the one on record. -/
def homeDir? (env : Environment) (d : Disk) : Option Location :=
  ((env.get? "HOME").filter (· ≠ "")).or d.home

/-- A base directory: the variable if it holds an absolute location, else one below the home. -/
def baseDir? (env : Environment) (d : Disk) (var : String) (below : Location) : Option Location :=
  ((env.get? var).filter Location.isAbsolute).or
    ((homeDir? env d).map fun home => Location.join home below)

/-- The directory of the configuration file. -/
def configDirOf (env : Environment) (d : Disk) : Except SettingsFault Location :=
  match env.get? "RADS_CONFIG_DIR", baseDir? env d "XDG_CONFIG_HOME" ".config" with
  | some l, _ => .ok l
  | none, some l => .ok (l.join "rads")
  | none, none => .error .noConfigHome

/-- The directory of the stored account, unless a setting moves it. -/
def dataDirOf (env : Environment) (d : Disk) : Except SettingsFault Location :=
  match baseDir? env d "XDG_DATA_HOME" ".local/share" with
  | some l => .ok (l.join "rads")
  | none => .error .noDataHome

/-- The configuration file, if there is one; another ending may be added to its name. -/
def configFile? (configDir : Location) (d : Disk) : Option (Location × List UInt8) :=
  [configDir.join "registry.toml", configDir.join "registry.toml.toml"].findSome? fun l =>
    match d.entry? l with
    | some (.file content) => some (l, content)
    | _ => none

/-- The bytes of a file without a mark of the byte order in front. -/
def unmarked : List UInt8 → List UInt8
  | 0xEF :: 0xBB :: 0xBF :: rest => rest
  | bytes => bytes

/-- What is written in the configuration file. -/
def written (lib : Library) (configDir : Location) (d : Disk) : Except SettingsFault Table :=
  match configFile? configDir d with
  | none => .ok []
  | some (l, content) =>
    match Toml.parse? (Text.Utf8.lossy (unmarked content)) with
    | some es => .ok es
    | none => .error (.document (lib.ofDocument l content))

def fileLayer (lib : Library) (configDir : Location) (d : Disk) : Except SettingsFault Table :=
  (written lib configDir d).map lib.arrange

/-- All layers over each other. What is given is put together before it goes over the defaults, so
that a place in an array is counted in the given array. -/
def layered (lib : Library) (dataDir : Location) (file : Table) (env : Environment) : Table :=
  overlayLayer (defaultLayer dataDir)
    (lib.arrange (overlayLayer (overlayLayer [] file) (environmentLayer lib env)))

/-- The settings in all layers, with the directories known. -/
def read (lib : Library) (configDir dataDir : Location) (env : Environment) (d : Disk) :
    Except SettingsFault Settings := do
  let es := layered lib dataDir (← fileLayer lib configDir d) env
  match ofTable configDir es with
  | some s => .ok s
  | none => .error (.value (lib.ofValue es))

/-- Makes the configuration directory and reads the settings. -/
def load (lib : Library) (env : Environment) (d : Disk) : Except SettingsFault Settings × Disk :=
  match configDirOf env d, dataDirOf env d with
  | .error fault, _ => (.error fault, d)
  | _, .error fault => (.error fault, d)
  | .ok configDir, .ok dataDir =>
    match d.makeDirectory configDir with
    | (.error fault, d) => (.error (.directory configDir fault), d)
    | (.ok (), d) => (read lib configDir dataDir env d, d)

end Settings

end PackageRegistry

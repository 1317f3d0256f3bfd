import PackageRegistry.Arguments.Token
import PackageRegistry.Filter

/-!
What a command line asks for: how much to log, and one command with its options.
-/

namespace PackageRegistry

namespace Arguments

inductive Verbosity where
  | verbose (level : Nat)
  | quiet
deriving DecidableEq, Repr

/-- The filter options of a search. -/
structure FilterOptions where
  category : Option Category := none
  license : Option License := none
  sort : Option SortKey := none
deriving DecidableEq, Repr

namespace FilterOptions

/-- The filters that the options choose, with a text to search for. -/
def filters (o : FilterOptions) (term : Option String) : Filters :=
  Filters.merge {} (Patch.overlayAll (
    (term.map Patch.setQuery).toList ++
    (o.category.map Patch.toggleCategory).toList ++
    (o.license.map Patch.toggleLicense).toList ++
    (o.sort.map Patch.setSort).toList))

end FilterOptions

/-- The options of a publication. -/
structure PublishOptions where
  displayName : Option String
  description : String
  version : String
  repository : String
  homepage : Option String
  category : Option Category
  license : Option License
  keywords : Option String
  readme : String
  name : String
deriving DecidableEq, Repr

inductive Command where
  | search (json : Bool) (options : FilterOptions) (term : Option String)
  | browse (options : FilterOptions) (term : Option String)
  | show (json : Bool) (name : String)
  | stats (name : String)
  | publish (options : PublishOptions)
  | login
  | logout
  | status
deriving DecidableEq, Repr

/-- Why a command line does not give a command. -/
inductive Refusal where
  | usage
  /-- Help was asked for. -/
  | help
deriving DecidableEq, Repr

def verboseFlag : Name := ⟨some 'v', "verbose"⟩
def quietFlag : Name := ⟨some 'q', "quiet"⟩
def helpFlag : Name := ⟨some 'h', "help"⟩
def jsonFlag : Name := ⟨none, "json"⟩

/-- How much to log: any number of one flag, or the other one once. -/
def verbosity (s : Slots) : Option (Verbosity × Slots) :=
  let (level, s) := s.takeAll verboseFlag
  let (quiets, s) := s.takeAll quietFlag
  match level, quiets with
  | n, 0 => some (.verbose n, s)
  | 0, 1 => some (.quiet, s)
  | _, _ => none

/-- An option that may be given once. -/
def optional (n : Name) (s : Slots) : Option (Option String × Slots) := (s.takeOption n).toOption

/-- An option that has to be given. -/
def required (n : Name) (s : Slots) : Option (String × Slots) := do
  let (v, s) ← optional n s
  return (← v, s)

/-- An option whose value is a word of a vocabulary. -/
def optionalWord {α : Type} [Vocabulary α] (n : Name) (s : Slots) : Option (Option α × Slots) := do
  let (v, s) ← optional n s
  match v with
  | none => return (none, s)
  | some text => return (some (← Vocabulary.parse? text), s)

def filterOptions (s : Slots) : Option (FilterOptions × Slots) := do
  let (category, s) ← optionalWord ⟨some 'c', "category"⟩ s
  let (license, s) ← optionalWord ⟨some 'l', "license"⟩ s
  let (sort, s) ← optionalWord ⟨some 's', "sort"⟩ s
  return ({ category, license, sort }, s)

/-- A plain word that may be given. -/
def operand (s : Slots) : Option String × Slots :=
  match s.takeWord with
  | some (w, s) => (some w, s)
  | none => (none, s)

def publishOptions (s : Slots) : Option (PublishOptions × Slots) := do
  let (displayName, s) ← optional ⟨none, "display-name"⟩ s
  let (description, s) ← required ⟨none, "description"⟩ s
  let (version, s) ← required ⟨none, "version"⟩ s
  let (repository, s) ← required ⟨none, "repository"⟩ s
  let (homepage, s) ← optional ⟨none, "homepage"⟩ s
  let (category, s) ← optionalWord ⟨none, "category"⟩ s
  let (license, s) ← optionalWord ⟨none, "license"⟩ s
  let (keywords, s) ← optional ⟨none, "keywords"⟩ s
  let (readme, s) ← required ⟨none, "readme"⟩ s
  let (name, s) ← s.takeWord
  return ({
    displayName, description, version, repository, homepage, category, license, keywords, readme,
    name }, s)

/-- The command of a name with its options, and the words left over. -/
def command (name : String) (s : Slots) : Option (Command × Slots) :=
  match name with
  | "search" => do
    let (json, s) := s.takeFlag jsonFlag
    let (options, s) ← filterOptions s
    let (term, s) := operand s
    return (.search json options term, s)
  | "browse" => do
    let (options, s) ← filterOptions s
    let (term, s) := operand s
    return (.browse options term, s)
  | "show" => do
    let (json, s) := s.takeFlag jsonFlag
    let (name, s) ← s.takeWord
    return (.show json name, s)
  | "stats" => do
    let (name, s) ← s.takeWord
    return (.stats name, s)
  | "publish" => do
    let (options, s) ← publishOptions s
    return (.publish options, s)
  | "auth" => do
    let (name, s) ← s.takeCommand
    match name with
    | "login" => return (.login, s)
    | "logout" => return (.logout, s)
    | "status" => return (.status, s)
    | _ => none
  | _ => none

/-- The command that the words ask for, if they ask for one and nothing else. -/
def read (s : Slots) : Option (Verbosity × Command) := do
  let (level, s) ← verbosity s
  let (name, s) ← s.takeCommand
  let (c, s) ← command name s
  if s.isEmpty then some (level, c) else none

/-- What a command line asks for. Nothing takes the help flag, so it wins over all else. -/
def parse (words : List String) : Except Refusal (Verbosity × Command) :=
  let s := slots words
  if s.contains helpFlag then .error .help
  else
    match read s with
    | some r => .ok r
    | none => .error .usage

end Arguments

namespace Arguments.Verbosity

/-- Which log lines are kept at a level. -/
def logFilter : Verbosity → String
  | .quiet => "off,rads_registry=error"
  | .verbose 0 => "off,rads_registry=warn,rads_sdk=warn,rads_catalog=warn"
  | .verbose 1 => "off,rads_registry=info,rads_sdk=info,rads_catalog=info"
  | .verbose 2 => "off,rads_registry=debug,rads_sdk=debug,rads_catalog=debug"
  | .verbose 3 => "off,rads_registry=trace,rads_sdk=trace,rads_catalog=trace"
  | .verbose 4 => "debug,rads_registry=trace,rads_sdk=trace,rads_catalog=trace"
  | .verbose _ => "trace"

def describe : Verbosity → String
  | .verbose level => "Verbose(" ++ toString level ++ ")"
  | .quiet => "Quiet"

end Arguments.Verbosity

end PackageRegistry

import PackageRegistry.Arguments.Parser
import PackageRegistry.Browse
import PackageRegistry.Publication
import PackageRegistry.Settings

/-!
The commands of the program. A command gets its settings and the world around it, and gives what is
printed, what is asked of the registry, and what the disk is like afterwards.
-/

namespace PackageRegistry

open Http (Reply Request Traffic)

/-- What surrounds a run: variables and files, the library that puts settings together, what the
user types, what the registry answers to each request, how long that takes, and the secret state for
a login. -/
structure World where
  environment : Environment
  disk : Disk
  library : Settings.Library := .plain
  input : List Browse.Line
  replies : Nat → Reply
  latency : Search.Millis := 0
  commandFirst : Nat → Bool := fun _ => true
  loginState : String

/-- What a command does: the text it prints, its messages to the user, the requests it makes, the
disk it leaves, the causes of its failure from the outermost to the innermost, and whether it is
aborted where a text cannot be formatted. What the runtime says of an abort is left out. -/
structure Effect where
  output : String := ""
  messages : List String := []
  exchanges : List (Request × Reply) := []
  disk : Disk
  failure : Option (List String) := none
  aborted : Bool := false

namespace Message

def warning (text : String) : String := "⚠️  " ++ text
def error (text : String) : String := "❌ ERROR: " ++ text
def updated (text : String) : String := "✅ " ++ text
def created (text : String) : String := "✨ " ++ text

end Message

namespace Effect

/-- Fails and leaves the disk as it is. -/
def fail (d : Disk) (causes : List String) : Effect := { disk := d, failure := some causes }

/-- The exit code of the program. -/
def exitCode (e : Effect) : Nat :=
  if e.aborted then 101 else if e.failure.isSome then 1 else 0

/-- Every message, and at the end the causes of a failure in one line. -/
def allMessages (e : Effect) : List String :=
  e.messages ++ (e.failure.map fun causes =>
    Message.error (String.intercalate ": " causes)).toList

/-- The requests that got as far as the registry. -/
def delivered (e : Effect) : List Request :=
  (Traffic.mk e.exchanges ()).delivered

end Effect

namespace Program

/-- The location of the stored account. -/
def accountLocation (s : Settings) : Location := AccountFile.location s.dataDir

/-- How to reach the registry of the settings as a user. -/
def clientOptions (s : Settings) (env : Environment) (a : Account) : ClientOptions where
  baseUrl := s.dispatchUrl
  account := a
  extraHeaders := if (env.get? "CI").isSome then [("rads-ci", "true")] else []
  userAgent := some (s.userAgent.getD "rads-registry/0.1.0")

/-- The causes of a failure under a heading. -/
def under (heading : String) (causes : List String) : List String := heading :: causes

def loadAccount (s : Settings) (d : Disk) : Except (List String) Account :=
  (AccountFile.load (accountLocation s) d).mapError fun f =>
    under "Could not read stored session" f.chain

def makeClient (s : Settings) (w : World) (a : Account) : Except (List String) Client :=
  (Client.make (clientOptions s w.environment a)).mapError fun f =>
    under "Could not create registry client" f.chain

/-- Goes on with the stored account and a client for it. -/
def withClient (s : Settings) (w : World) (go : Account → Client → Effect) : Effect :=
  match loadAccount s w.disk with
  | .error causes => .fail w.disk causes
  | .ok a =>
    match makeClient s w a with
    | .error causes => .fail w.disk causes
    | .ok c => go a c

/-- Prints a page of results. A table that cannot be printed aborts the program in its first row. -/
def printPage (f : Filters) (json : Bool) (d : Disk) (page : Listing) : Effect :=
  let warnings := (page.problem.map fun p =>
    Message.warning ("The registry returned an unexpected response (" ++ p.message ++
      "); showing no results.")).toList
  if json then { disk := d, output := page.render f ++ "\n", messages := warnings }
  else if page.items.isEmpty then
    { disk := d
      messages := warnings ++ if page.isDegraded then [] else [Display.noResults f] }
  else
    match Display.printed? page with
    | none => { disk := d, messages := warnings, aborted := true }
    | some table =>
      { disk := d
        output := table ++ "\n"
        messages := warnings ++ [Display.listingSummary f page] }

def search (f : Filters) (json : Bool) (s : Settings) (w : World) : Effect :=
  withClient s w fun _ c =>
    let t := c.list f (w.replies 0)
    let e : Effect :=
      match t.result with
      | .error failure =>
        .fail w.disk (under "Could not search the registry" failure.chain)
      | .ok page => printPage f json w.disk page
    { e with exchanges := t.exchanges }

/-- Looks a package up and goes on with it. -/
def lookup (name : String) (s : Settings) (w : World) (go : Package → Effect) : Effect :=
  withClient s w fun _ c =>
    let t := c.find name (w.replies 0)
    let e : Effect :=
      match t.result with
      | .ok p => go p
      | .error (.notFound name) =>
        .fail w.disk ["Package '" ++ name ++ "' not found in registry."]
      | .error (.failed failure) =>
        .fail w.disk (under ("Could not look up package '" ++ name ++ "'") failure.chain)
    { e with exchanges := t.exchanges }

def showPackage (json : Bool) (name : String) (s : Settings) (w : World) : Effect :=
  lookup name s w fun p =>
    { disk := w.disk
      output := if json then p.toJson.pretty ++ "\n" else Display.details p }

def stats (name : String) (s : Settings) (w : World) : Effect :=
  lookup name s w fun p =>
    { disk := w.disk, output := p.title ++ "\n\n" ++ Display.statistics p }

/-! ### Browsing -/

/-- Whether a result aborts the program, since its table cannot be printed. -/
def aborts : Except Failure Listing → Bool
  | .error _ => false
  | .ok page => (Display.printed? page).isNone

/-- What is shown of one result: text to print, and messages. -/
def showUpdate (u : Search.Update (Except Failure Listing)) : String × List String :=
  match u.outcome with
  | .error failure => ("", [Message.error failure.userMessage])
  | .ok page =>
    let warnings := (page.problem.map fun p =>
      Message.warning ("Unexpected response from the registry: " ++ p.message)).toList
    match Display.printed? page with
    | none => ("", warnings)
    | some table =>
      (if page.items.isEmpty then "" else table ++ "\n",
        warnings ++ [Display.listingSummary u.filters page])

/-- What is shown of an entry of the screen. -/
def showEntry : Search.Shown (Except Failure Listing) → String × List String
  | .note complaint => ("", [Message.warning complaint])
  | .result u => showUpdate u

/-- Whether the program has been aborted by something on the screen. -/
def broken (r : Search.Run (Traffic (Except Failure Listing))) : Bool :=
  r.shows fun t => aborts t.result

/-- The searches of a browsing user: one at the start, and then as the lines say. -/
def browsePlan (f : Filters) (s : Settings) (w : World) (c : Client) :
    Search.Plan (Traffic (Except Failure Listing)) where
  quiescence := s.debounce
  latency := w.latency
  initial := f
  answer := fun n f => c.list f (w.replies n)
  script := .send (.submit .empty) :: Browse.script w.input
  listening := true
  commandFirst := w.commandFirst

/-- Complaints about lines and results are shown as they arise, to the end or to a result that
aborts the program; and then nothing more is asked of the registry. -/
def browse (f : Filters) (s : Settings) (w : World) : Effect :=
  withClient s w fun _ c =>
    let r := (browsePlan f s w c).runUnless broken
    let shown := r.screen.map fun entry => showEntry (entry.map Traffic.result)
    { disk := w.disk
      output := String.join (shown.map Prod.fst)
      messages := Browse.help ++ shown.flatMap Prod.snd
      exchanges := r.updates.flatMap fun u => u.outcome.exchanges
      aborted := broken r }

/-! ### Publishing -/

def formOf (o : Arguments.PublishOptions) (readme : String) : Form where
  name := o.name
  displayName := o.displayName.getD ""
  description := o.description
  version := o.version
  repository := o.repository
  homepage := o.homepage.getD ""
  category := o.category
  license := o.license
  keywords := o.keywords.getD ""
  readme := readme

def publish (o : Arguments.PublishOptions) (s : Settings) (w : World) : Effect :=
  withClient s w fun a c =>
    match w.disk.readText o.readme with
    | .error fault =>
      .fail w.disk (under ("Could not read README '" ++ o.readme ++ "'") [fault.message])
    | .ok readme =>
      let t := (formOf o readme).publish a c (w.replies 0)
      let e : Effect :=
        match t.result with
        | .error failure => .fail w.disk (under "Publish failed" [failure.userMessage])
        | .ok _ =>
          { disk := w.disk
            messages := [Message.created ("Published " ++ o.name ++ "@" ++ o.version)] }
      { e with exchanges := t.exchanges }

/-! ### Logging in and out -/

/-- The invitation to log in at a URL. -/
def invitation (url : Url) : List String := [
  "Open the following URL in your browser to log in:",
  "",
  "    " ++ url.text,
  "",
  "After authorizing, paste the URL you were redirected to:"]

/-- The line a user pastes, as a callback. -/
def pasted (w : World) : Except (List String) Callback :=
  match w.input with
  | [] => .error ["No callback URL was entered"]
  | l :: _ => (Callback.parse l.text).mapError LoginFailure.chain

def greeting (a : Account) : List String :=
  Message.updated "Authentication complete" ::
    (a.user.map fun u => Message.updated ("Logged in as " ++ u.login)).toList

/-- Exchanges what was pasted for an account, as nobody in particular. -/
def finishLogin (s : Settings) (w : World) : Effect :=
  match pasted w, makeClient s w {} with
  | .error causes, _ => .fail w.disk causes
  | .ok _, .error causes => .fail w.disk causes
  | .ok callback, .ok c =>
    let t := callback.complete w.loginState c (w.replies 0) (.file (accountLocation s) w.disk)
    let d := t.result.2.diskOr w.disk
    let e : Effect :=
      match t.result.1 with
      | .error failure => .fail d (under "Could not log in" failure.chain)
      | .ok a => { disk := d, messages := greeting a }
    { e with exchanges := t.exchanges }

def login (s : Settings) (w : World) : Effect :=
  match s.provider.authorization w.loginState with
  | .error failure => .fail w.disk (under "Could not start login" failure.chain)
  | .ok url =>
    let e := finishLogin s w
    { e with messages := invitation url ++ e.messages }

def logout (s : Settings) (w : World) : Effect :=
  match loadAccount s w.disk with
  | .error causes => .fail w.disk causes
  | .ok a =>
    if a.isAuthenticated then
      match AccountFile.clear (accountLocation s) w.disk with
      | (.error fault, d) => .fail d (under "Could not remove the stored session" fault.chain)
      | (.ok (), d) => { disk := d, messages := [Message.updated "Logout successful"] }
    else { disk := w.disk, messages := [Message.warning "You are not logged in"] }

/-- Who is logged in where. -/
def statusLine (a : Account) (url : String) : String :=
  match a.token, a.user with
  | some _, some u =>
    match u.name with
    | some name => "You are logged in as " ++ u.login ++ " (" ++ name ++ ") on " ++ url
    | none => "You are logged in as " ++ u.login ++ " on " ++ url
  | some _, none => "You are logged in on " ++ url
  | none, _ => "You are not currently logged in to the registry."

def status (s : Settings) (w : World) : Effect :=
  match loadAccount s w.disk with
  | .error causes => .fail w.disk causes
  | .ok a => { disk := w.disk, messages := [statusLine a s.dispatchUrl] }

/-! ### Running a command -/

def perform (c : Arguments.Command) (s : Settings) (w : World) : Effect :=
  match c with
  | .search json options term => search (options.filters term) json s w
  | .browse options term => browse (options.filters term) s w
  | .show json name => showPackage json name s w
  | .stats name => stats name s w
  | .publish options => publish options s w
  | .login => login s w
  | .logout => logout s w
  | .status => status s w

/-- Reads the settings and performs a command. -/
def run (c : Arguments.Command) (w : World) : Effect :=
  match Settings.load w.library w.environment w.disk with
  | (.error fault, d) => .fail d fault.chain
  | (.ok s, d) => perform c s { w with disk := d }

end Program

end PackageRegistry

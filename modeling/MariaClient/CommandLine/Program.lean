import MariaClient.Account.Document
import MariaClient.Account.Url
import MariaClient.CommandLine.Help
import MariaClient.CommandLine.Table
import MariaClient.Files
import MariaClient.Session.Connection

/-!
# The program

From arguments to what is printed and how the program ends.
-/

namespace MariaClient.CommandLine

/-- What the program finds around itself. -/
structure Surroundings where
  url : Option String := none
  configDirectory : Option String := none
  files : Files := {}

/-- How the program ends and what it printed. -/
structure Outcome where
  code : Nat := 0
  out : String := ""
  err : String := ""
  deriving DecidableEq, Repr

/-! ## Failures -/

/-- Why the program ends early. -/
inductive Failure
  | error (e : Error)
  | url (e : Error)
  | file (path : String) (e : Error)
  | noAccount
  deriving DecidableEq, Repr

/-- An error with the error inside it. -/
def chain (e : Error) : String :=
  match e.innerMessage? with
  | some inner => e.message ++ ": " ++ inner
  | none => e.message

/-- The wording of a failure. -/
def Failure.message : Failure → String
  | error e => chain e
  | url e => "invalid connection URL: " ++ chain e
  | file path e => "cannot load " ++ path ++ ": " ++ chain e
  | noAccount => "no account: pass --url, set " ++ urlVariable ++ " or use --config"

/-- The end of a program that failed. -/
def Outcome.ofFailure (f : Failure) : Outcome :=
  { code := 1, err := "Error: " ++ f.message ++ "\n" }

/-! ## The account -/

/-- Reads an account from a file. -/
def load (files : Files) (path : String) : Except Failure Account :=
  let text := (files.readText path).mapError fun cause ↦ Error.config (.unreadable path cause)
  (text >>= Account.ofToml).mapError (.file path)

/-- The file of the account that is used if no other is named. -/
def defaultPath (directory : String) : String :=
  directory ++ "/qail/mariadb.toml"

/-- The account to use: from a URL, from a named file or from the usual file. -/
def resolveAccount (w : Surroundings) (o : Options) : Except Failure Account :=
  match o.url.or w.url, o.config with
  | some url, _ => (Account.ofUrl url).mapError .url
  | none, some path => load w.files path
  | none, none =>
    match w.configDirectory.map defaultPath with
    | some path => if w.files.exists? path then load w.files path else .error .noAccount
    | none => .error .noAccount

/-! ## Commands -/

variable {σ : Type} (srv : Server σ) (a : Account)

/-- Prints rows. -/
def Layout.print : Layout → ResultSet → Except Error String
  | table => printTable
  | json => printJson

/-- Carries out a command and gives what it prints. -/
def Command.perform : Command → Attempt (Link σ) String
  | query sql layout => do layout.print (← Connection.query srv a sql)
  | exec sql => do
    let n ← Connection.execute srv a sql
    return "✓ " ++ Text.ofNat 0 n ++ " row(s) affected\n"
  | ping => do
    let _ ← Connection.ping srv a
    let l ← Attempt.state
    return "✓ " ++ a.address ++ " (" ++ l.session.serverVersion ++ ")\n"
  | config => return a.toToml

/-- Carries out a command on a session of its own. -/
def runCommand (c : Command) (server : σ) : Outcome × σ :=
  let (r, l) := c.perform srv a { session := Session.start a, server }
  let server := (Connection.disconnect srv l).server
  match r with
  | .ok out => ({ out }, server)
  | .error e => (.ofFailure (.error e), server)

/-- Answers an invocation. -/
def Invocation.answer (w : Surroundings) (server : σ) : Invocation → Outcome × σ
  | .help topic => ({ out := CommandLine.help (w.url.getD "") topic }, server)
  | .version => ({ out := versionLine }, server)
  | .misuse => ({ code := 2, err := misuseText }, server)
  | .run o c =>
    match resolveAccount w o with
    | .error f => (.ofFailure f, server)
    | .ok a => runCommand srv a c server

/-- The program. -/
def runProgram (w : Surroundings) (args : List String) (server : σ) : Outcome × σ :=
  (Invocation.ofArguments args).answer srv w server

end MariaClient.CommandLine

import MariaClient.Text.Split

/-!
# Arguments

What is asked of the program: options that may stand anywhere, a verb, and what belongs to the verb.
Arguments are read from the left, and the first one that decides anything decides it.
-/

namespace MariaClient.CommandLine

/-- What the program can do. -/
inductive Verb
  | query
  | exec
  | ping
  | config
  deriving DecidableEq, Repr

/-- The name of a verb. -/
def Verb.name : Verb → String
  | query => "query"
  | exec => "exec"
  | ping => "ping"
  | config => "config"

/-- All verbs. -/
def Verb.all : List Verb :=
  [query, exec, ping, config]

/-- How many operands a verb has. -/
def Verb.operands : Verb → Nat
  | query | exec => 1
  | ping | config => 0

/-- What help can be asked about. -/
inductive Topic
  | program
  | verb (v : Verb)
  | help
  deriving DecidableEq, Repr

/-- How rows are printed. -/
inductive Layout
  | table
  | json
  deriving DecidableEq, Repr

/-- The layout of a name. -/
def Layout.ofName? (s : String) : Option Layout :=
  if s = "table" then some .table else if s = "json" then some .json else none

/-- What is to be done. -/
inductive Command
  | query (sql : String) (layout : Layout)
  | exec (sql : String)
  | ping
  | config
  deriving DecidableEq, Repr

/-- The options in front of and behind the verb. -/
structure Options where
  url : Option String := none
  config : Option String := none
  verbose : Bool := false
  deriving DecidableEq, Repr

/-- What the arguments ask for. -/
inductive Invocation
  | run (options : Options) (command : Command)
  | help (topic : Topic)
  | version
  | misuse
  deriving DecidableEq, Repr

/-! ## Flags -/

/-- What may stand behind hyphens. -/
inductive Flag
  | url
  | config
  | verbose
  | layout
  | help
  | version
  deriving DecidableEq, Repr

namespace Flag

/-- All flags. -/
def all : List Flag :=
  [url, config, verbose, layout, help, version]

/-- The name of a flag. -/
def name : Flag → String
  | url => "url"
  | config => "config"
  | verbose => "verbose"
  | layout => "format"
  | help => "help"
  | version => "version"

/-- The letter of a flag. -/
def letter? : Flag → Option Char
  | url => none
  | config => some 'c'
  | verbose => some 'v'
  | layout => some 'f'
  | help => some 'h'
  | version => some 'V'

/-- The flag is followed by a value. -/
def takesValue : Flag → Bool
  | url | config | layout => true
  | _ => false

/-- The flag may stand behind a verb, or in front of it if there is none yet. -/
def allowed (verb : Option Verb) : Flag → Bool
  | layout => verb == some .query
  | version => verb == none
  | _ => true

/-- A value that the flag can have. -/
def accepts (value : String) : Flag → Bool
  | layout => (Layout.ofName? value).isSome
  | config => value != ""
  | _ => true

end Flag

/-! ## Reading -/

/-- What was read so far on one side of the verb, and what was read in front of it. -/
structure Reading where
  verb : Option Verb := none
  outer : List (Flag × String) := []
  given : List (Flag × String) := []
  operands : List String := []
  deriving DecidableEq, Repr

namespace Reading

/-- Records a flag.  On one side of the verb it may be given once. -/
def record (r : Reading) (f : Flag) (value : String) : Except Invocation Reading :=
  if (r.given.lookup f).isSome || !f.accepts value then .error .misuse
  else .ok { r with given := r.given ++ [(f, value)] }

/-- What help is about at this place. -/
def topic (r : Reading) : Topic :=
  r.verb.elim .program .verb

/-- Follows a flag without a value. -/
def follow (r : Reading) : Flag → Except Invocation Reading
  | .help => .error (.help r.topic)
  | .version => .error .version
  | f => r.record f ""

/-- The flag that passes a test and may stand at this place. -/
def flag? (r : Reading) (p : Flag → Bool) : Except Invocation Flag :=
  ((Flag.all.filter (Flag.allowed r.verb)).find? p).elim (.error .misuse) .ok

/-- Reads what stands behind two hyphens.  Gives the flag that still needs a value. -/
def long (r : Reading) (text : List Char) : Except Invocation (Reading × Option Flag) := do
  match Text.splitFirst '=' text with
  | some (name, value) =>
    let f ← r.flag? fun f ↦ f.name.toList == name
    if f.takesValue then return (← r.record f (String.ofList value), none) else throw .misuse
  | none =>
    let f ← r.flag? fun f ↦ f.name.toList == text
    if f.takesValue then return (r, some f) else return (← r.follow f, none)

/-- Reads letters behind one hyphen.  What follows the letter of a flag with a value is the value.
Gives the flag that still needs one. -/
def letters : List Char → Reading → Except Invocation (Reading × Option Flag)
  | [], r => .ok (r, none)
  | c :: rest, r => do
    let f ← r.flag? fun f ↦ f.letter? == some c
    if f.takesValue then
      match rest with
      | [] => return (r, some f)
      | '=' :: value => return (← r.record f (String.ofList value), none)
      | value => return (← r.record f (String.ofList value), none)
    else letters rest (← r.follow f)

/-- What help is asked about behind its name. -/
def helpAbout : List String → Invocation
  | [] => .help .program
  | [name] =>
    if name = "help" then .help .help
    else ((Verb.all.find? fun v ↦ v.name == name).map fun v ↦ .help (.verb v)).getD .misuse
  | _ => .misuse

/-- Reads an argument without hyphens: the verb, or an operand of it. -/
def plain (r : Reading) (arg : String) (rest : List String) : Except Invocation Reading :=
  match r.verb with
  | some v =>
    if r.operands.length < v.operands then .ok { r with operands := r.operands ++ [arg] }
    else .error .misuse
  | none =>
    if arg = "help" then .error (helpAbout rest)
    else
      match Verb.all.find? fun v ↦ v.name == arg with
      | some v => .ok { verb := some v, outer := r.given }
      | none => .error .misuse

/-- Behind two hyphens alone all arguments are operands. -/
def operandsOnly (r : Reading) : List String → Except Invocation Reading
  | [] => .ok r
  | arg :: rest => do
    if r.verb.isNone then throw .misuse
    operandsOnly (← r.plain arg rest) rest

/-- Reads arguments.  `pending` is a flag that needs the next one as its value. -/
def readFrom (r : Reading) (pending : Option Flag) : List String → Except Invocation Reading
  | [] => if pending.isSome then .error .misuse else .ok r
  | arg :: rest => do
    match pending, arg.toList with
    | some f, '-' :: [] => readFrom (← r.record f "-") none rest
    | some _, '-' :: _ => throw .misuse
    | some f, _ => readFrom (← r.record f arg) none rest
    | none, '-' :: '-' :: [] => operandsOnly r rest
    | none, '-' :: '-' :: text =>
      let (r, pending) ← r.long text
      readFrom r pending rest
    | none, '-' :: c :: text =>
      let (r, pending) ← letters (c :: text) r
      readFrom r pending rest
    | none, _ => readFrom (← r.plain arg rest) none rest

/-- The value of a flag.  Behind the verb it counts more than in front of it. -/
def value? (r : Reading) (f : Flag) : Option String :=
  (r.given.lookup f).or (r.outer.lookup f)

/-- The options that were read. -/
def options (r : Reading) : Options where
  url := r.value? .url
  config := r.value? .config
  verbose := (r.value? .verbose).isSome

/-- What is to be done with the operands of a verb. -/
def command? (r : Reading) : Option Command :=
  match r.verb, r.operands with
  | some .query, [sql] =>
    some (.query sql (((r.value? .layout).bind Layout.ofName?).getD .table))
  | some .exec, [sql] => some (.exec sql)
  | some .ping, [] => some .ping
  | some .config, [] => some .config
  | _, _ => none

end Reading

/-- What some arguments ask for. -/
def Invocation.ofArguments (args : List String) : Invocation :=
  match ({} : Reading).readFrom none args with
  | .error decided => decided
  | .ok r => (r.command?.map (.run r.options)).getD .misuse

end MariaClient.CommandLine

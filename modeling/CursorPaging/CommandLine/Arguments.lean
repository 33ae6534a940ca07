import CursorPaging.CommandLine.Options
import CursorPaging.Text.Digits

/-!
# Reading the command line

The arguments of the command line are read at two levels: options that go with every command, up to
the name of a command, and then the options of that command, among which those of the first level
may stand too. A value follows its option as the next argument, after an equals sign, or after the
letter of the option; after `--` nothing is an option. An argument is only checked once the next one
is reached, so that a fault found while reading comes before one in a value read just before.
-/

namespace CursorPaging.CommandLine

/-- Why a command line is not carried out. -/
inductive Rejection where
  | displayHelp
  /-- Nothing at all was asked for. -/
  | displayHelpOnMissing
  | displayVersion
  | missingSubcommand
  | invalidSubcommand
  | unknownArgument
  /-- A value is missing, or not among those that are allowed. -/
  | invalidValue
  /-- A value is not of its type. -/
  | valueValidation
  /-- A value for an option that takes none. -/
  | tooManyValues
  /-- An option that may stand once stands twice, or two options exclude each other. -/
  | argumentConflict
  | missingRequiredArgument
  deriving DecidableEq

/-- An option without value. -/
inductive Flag where
  | verbose
  | or
  | desc
  | all
  | help
  | version
  deriving DecidableEq

/-- An argument with a value. -/
inductive Setting where
  | config
  | baseUrl
  | accessToken
  | format
  | logLevel
  | filter
  | sort
  | pageSize
  | param
  | pages
  /-- The resource, which stands without the name of an option. -/
  | resource
  deriving DecidableEq

/-- An option. -/
inductive Item where
  | flag (f : Flag)
  | setting (s : Setting)

/-- An option with its name and its letter. -/
structure Entry where
  name : String
  letter : Option Char
  item : Item

/-- Where options are read: before the name of a command, or after it. -/
inductive Level where
  | top
  | resources
  | list
  | browse
  deriving DecidableEq

namespace Level

/-- The options that go with every command. -/
def common : List Entry :=
  [⟨"config", some 'C', .setting .config⟩, ⟨"base-url", none, .setting .baseUrl⟩,
   ⟨"access-token", none, .setting .accessToken⟩, ⟨"format", some 'f', .setting .format⟩,
   ⟨"log-level", none, .setting .logLevel⟩, ⟨"verbose", some 'v', .flag .verbose⟩,
   ⟨"help", some 'h', .flag .help⟩]

/-- The options of commands that show a table. -/
def query : List Entry :=
  [⟨"filter", none, .setting .filter⟩, ⟨"or", none, .flag .or⟩, ⟨"sort", none, .setting .sort⟩,
   ⟨"desc", none, .flag .desc⟩, ⟨"page-size", none, .setting .pageSize⟩,
   ⟨"param", none, .setting .param⟩]

/-- The options at a level. -/
def entries : Level → List Entry
  | .top => common ++ [⟨"version", some 'V', .flag .version⟩]
  | .resources => common
  | .list =>
    common ++ query ++ [⟨"pages", none, .setting .pages⟩, ⟨"all", none, .flag .all⟩]
  | .browse => common ++ query

/-- Whether a resource has to be named at a level. -/
def takesResource : Level → Bool
  | .list | .browse => true
  | _ => false

/-- The levels below the first one, by the names of their commands. -/
def commands : List (String × Level) :=
  [("resources", .resources), ("list", .list), ("browse", .browse)]

/-- The level after the name of a command. -/
def ofCommand? (name : String) : Option Level :=
  (commands.find? fun entry => entry.1 = name).map (·.2)

end Level

/-- The command that shows help. -/
def helpCommand : String := "help"

/-! ## Values -/

/-- What was given at a level. -/
structure Given where
  config : Option String
  baseUrl : Option String
  accessToken : Option String
  format : Option OutputFormat
  logLevel : Option LogLevel
  verbose : Bool
  filters : List String
  or : Bool
  sort : Option String
  desc : Bool
  pageSize : Option Nat
  params : List String
  pages : Option Nat
  all : Bool
  resource : Option Resource

namespace Given

/-- Nothing. -/
def nothing : Given :=
  ⟨none, none, none, none, none, false, [], false, none, false, none, [], none, false, none⟩

/-- Whether nothing was given. -/
def isNothing (g : Given) : Bool :=
  g.config.isNone && g.baseUrl.isNone && g.accessToken.isNone && g.format.isNone &&
    g.logLevel.isNone && !g.verbose

/-- Sets what may be given once. -/
def once {α : Type} (old : Option α) (value : Except Rejection α) (set : α → Given) :
    Except Rejection Given :=
  match old with
  | some _ => .error .argumentConflict
  | none => value.map set

/-- Sets a flag, which may be given once. -/
def onceFlag (old : Bool) (g : Given) : Except Rejection Given :=
  if old then .error .argumentConflict else .ok g

/-- A path, which is not empty. -/
def path (s : String) : Except Rejection String :=
  if s = "" then .error .invalidValue else .ok s

/-- A value by its name. -/
def named {α : Type} (names : List (String × α)) (s : String) : Except Rejection α :=
  match names.find? fun entry => entry.1 = s with
  | some (_, a) => .ok a
  | none => .error .invalidValue

/-- A size. -/
def size (s : String) : Except Rejection Nat :=
  match Text.unsigned? s with
  | some n => .ok n
  | none => .error .valueValidation

/-- Takes the value of a setting. -/
def set (g : Given) : Setting → String → Except Rejection Given
  | .config, s => once g.config (path s) fun a => { g with config := some a }
  | .baseUrl, s => once g.baseUrl (.ok s) fun a => { g with baseUrl := some a }
  | .accessToken, s => once g.accessToken (.ok s) fun a => { g with accessToken := some a }
  | .format, s => once g.format (named OutputFormat.names s) fun a => { g with format := some a }
  | .logLevel, s => once g.logLevel (named LogLevel.names s) fun a => { g with logLevel := some a }
  | .filter, s => .ok { g with filters := g.filters ++ [s] }
  | .sort, s => once g.sort (.ok s) fun a => { g with sort := some a }
  | .pageSize, s => once g.pageSize (size s) fun a => { g with pageSize := some a }
  | .param, s => .ok { g with params := g.params ++ [s] }
  | .pages, s => once g.pages (size s) fun a => { g with pages := some a }
  | .resource, s => once g.resource (named Resource.names s) fun a => { g with resource := some a }

/-- Takes a flag. -/
def raise (g : Given) : Flag → Except Rejection Given
  | .verbose => onceFlag g.verbose { g with verbose := true }
  | .or => onceFlag g.or { g with or := true }
  | .desc => onceFlag g.desc { g with desc := true }
  | .all => onceFlag g.all { g with all := true }
  | .help => .error .displayHelp
  | .version => .error .displayVersion

end Given

/-! ## Reading -/

/-- What is known between two arguments. -/
structure Reading where
  given : Given
  /-- The setting that was named last, and its value once there is one, before it is checked. -/
  pending : Option (Setting × Option String)
  /-- Whether nothing is an option any more. -/
  trailing : Bool

namespace Reading

/-- Before the first argument. -/
def start : Reading := ⟨.nothing, none, false⟩

/-- Whether the next argument is a value. -/
def awaitsValue (r : Reading) : Bool :=
  match r.pending with
  | some (_, none) => true
  | _ => false

/-- Checks the setting that was named last. -/
def settle (r : Reading) : Except Rejection Reading :=
  match r.pending with
  | none => .ok r
  | some (_, none) => .error .invalidValue
  | some (s, some value) => do
    return { r with given := ← r.given.set s value, pending := none }

/-- Takes a flag. -/
def raise (r : Reading) (f : Flag) : Except Rejection Reading := do
  let r ← r.settle
  return { r with given := ← r.given.raise f }

/-- Takes a setting, with its value or before it. -/
def name (r : Reading) (s : Setting) (value : Option String) : Except Rejection Reading := do
  let r ← r.settle
  match value with
  | some v => return { r with given := ← r.given.set s v }
  | none => return { r with pending := some (s, none) }

/-- Reads an option by its name. -/
def long (level : Level) (r : Reading) (name : String) (value : Option String) :
    Except Rejection Reading :=
  match level.entries.find? fun e => e.name = name with
  | none => .error .unknownArgument
  | some ⟨_, _, .flag f⟩ => if value.isSome then .error .tooManyValues else r.raise f
  | some ⟨_, _, .setting s⟩ => r.name s value

/-- The value that follows the letter of an option. -/
def attached : List Char → Option String
  | [] => none
  | '=' :: s => some (String.ofList s)
  | s => some (String.ofList s)

/-- Reads options by their letters. -/
def letters (level : Level) (r : Reading) : List Char → Except Rejection Reading
  | [] => .ok r
  | c :: s =>
    match level.entries.find? fun e => e.letter = some c with
    | none => .error .unknownArgument
    | some ⟨_, _, .flag f⟩ => do letters level (← r.raise f) s
    | some ⟨_, _, .setting x⟩ => r.name x (attached s)

/-- Takes an argument that is neither an option nor a value of one. -/
def positional (level : Level) (r : Reading) (a : String) : Except Rejection Reading :=
  if level = .top then
    if r.trailing && (a = helpCommand || (Level.ofCommand? a).isSome) then .error .unknownArgument
    else .error .invalidSubcommand
  else
    let taken := r.given.resource.isSome || r.pending.any fun p => p.1 = .resource
    if level.takesResource && !taken then do
      let r ← r.settle
      return { r with pending := some (.resource, some a) }
    else .error .unknownArgument

/-- Takes an argument that is no name of a command. -/
def argument (level : Level) (r : Reading) (a : String) : Except Rejection Reading :=
  if r.trailing then r.positional level a
  else
    match a.toList with
    | ['-', '-'] => .ok { r with trailing := true }
    | '-' :: '-' :: s =>
      let name := String.ofList (s.takeWhile (· ≠ '='))
      match s.dropWhile (· ≠ '=') with
      | _ :: value => r.long level name (some (String.ofList value))
      | [] => r.long level name none
    | '-' :: c :: s => r.letters level (c :: s)
    | _ =>
      match r.pending with
      | some (s, none) => .ok { r with pending := some (s, some a) }
      | _ => r.positional level a

/-- Reads the arguments of a command. -/
def command (level : Level) (r : Reading) : List String → Except Rejection Given
  | [] => do return (← r.settle).given
  | a :: rest => do command level (← r.argument level a) rest

/-- What the command that shows help does with the names of commands after it. -/
def helpFor : List String → Rejection
  | [] => .displayHelp
  | [a] => if a = helpCommand || (Level.ofCommand? a).isSome then .displayHelp
    else .invalidSubcommand
  | _ => .invalidSubcommand

/-- What was given before a command, the command, and what was given after it. -/
structure Levels where
  before : Given
  level : Level
  after : Given

/-- Refuses what was given after a command, if it is not enough or contradicts itself. -/
def checkCommand (level : Level) (g : Given) : Except Rejection Unit :=
  if g.all && g.pages.isSome then .error .argumentConflict
  else if level.takesResource && g.resource.isNone then .error .missingRequiredArgument
  else .ok ()

/-- Reads all arguments. -/
def top (r : Reading) : List String → Except Rejection Levels
  | [] => do
    let r ← r.settle
    throw (if r.given.isNothing then .displayHelpOnMissing else .missingSubcommand)
  | a :: rest => do
    if r.trailing || r.awaitsValue then top (← r.argument .top a) rest
    else if a = helpCommand then throw (helpFor rest)
    else
      match Level.ofCommand? a with
      | some level =>
        let after ← command level start rest
        checkCommand level after
        return ⟨(← r.settle).given, level, after⟩
      | none => top (← r.argument .top a) rest

end Reading

/-- The options of a table that were given. -/
def Given.queryOptions (g : Given) : QueryOptions :=
  ⟨g.filters, g.or, g.sort, g.desc, g.pageSize, g.params⟩

/-- The command of a level. -/
def Given.command? (g : Given) : Level → Option Command
  | .top => none
  | .resources => some .resources
  | .list => g.resource.map fun r => .list r g.queryOptions (g.pages.getD 1) g.all
  | .browse => g.resource.map fun r => .browse r g.queryOptions

/-- What a user asks for by the arguments of a command line. What is given after a command counts
more than what is given before it. -/
def parse (args : List String) : Except Rejection Invocation := do
  let ⟨before, level, after⟩ ← Reading.top .start args
  match after.command? level with
  | none => throw .missingRequiredArgument
  | some command =>
    return {
      config := after.config.or before.config
      baseUrl := after.baseUrl.or before.baseUrl
      accessToken := after.accessToken.or before.accessToken
      format := (after.format.or before.format).getD .json
      logLevel := (after.logLevel.or before.logLevel).getD .warn
      verbose := after.verbose || before.verbose
      command }

end CursorPaging.CommandLine

import SceneArchive.Export
import SceneArchive.CommandLine.Environment

/-!
# Arguments

The arguments of a call: a command, its operands, and settings before or behind the command. A
setting is named by `--` and a word and takes one value, attached by `=` or as the next argument.
General settings may stand on both sides of the command, and the one behind it counts; on one side
no setting is given twice. Behind `--` every argument is an operand.
-/

namespace SceneArchive.CommandLine

/-- How much is made sure of before a write is over. Stores are written as a whole, so that it
makes no difference to what is kept. -/
inductive Synchronous where
  | full
  | normal
  | off
  deriving DecidableEq, Repr

/-- The modes and their names. -/
def Synchronous.names : List (String × Synchronous) :=
  [("full", full), ("normal", normal), ("off", off)]

/-- The mode of a name. -/
def Synchronous.ofName? (name : String) : Option Synchronous :=
  (names.find? (·.1 == name)).map (·.2)

/-- How the outcome of a command is printed. -/
inductive OutputFormat where
  | text
  | json
  deriving DecidableEq, Repr

/-- The format of a name. -/
def OutputFormat.ofName? : String → Option OutputFormat
  | "text" => some text
  | "json" => some json
  | _ => none

/-- What a setting sets. -/
inductive Setting where
  | config
  | database
  | logLevel
  | synchronous
  | format
  | query
  | target
  | exportFormat
  deriving DecidableEq, Repr

namespace Setting

/-- The settings of every command. -/
def general : List Setting := [config, database, logLevel, synchronous, format]

/-- The word behind `--`. -/
def word : Setting → String
  | config => "config"
  | database => "db"
  | logLevel => "log-level"
  | synchronous => "synchronous"
  | format => "format"
  | query => "query"
  | target => "to"
  | exportFormat => "export"

/-- The letter behind `-`. -/
def letter? : Setting → Option Char
  | query => some 'q'
  | _ => none

/-- Whether a text is a value of a setting. Paths are not empty. -/
def takes (s : Setting) (value : String) : Bool :=
  match s with
  | config | database | target => !value.isEmpty
  | logLevel | query => true
  | synchronous => (Synchronous.ofName? value).isSome
  | format => (OutputFormat.ofName? value).isSome
  | exportFormat => (ExportFormat.ofTag? value).isSome

end Setting

/-- What a call is to do. -/
inductive Verb where
  | ingest
  | search
  | fields
  | info
  deriving DecidableEq, Repr

namespace Verb

/-- Every verb. -/
def all : List Verb := [ingest, search, fields, info]

/-- The word of a verb. -/
def name : Verb → String
  | ingest => "ingest"
  | search => "search"
  | fields => "fields"
  | info => "info"

/-- The verb of a word. -/
def ofName? (name : String) : Option Verb := all.find? (·.name == name)

/-- The settings of a verb alone. -/
def settings : Verb → List Setting
  | search => [.query, .target, .exportFormat]
  | _ => []

/-- Whether a text is a further operand behind some others. -/
def takesOperand (v : Verb) (earlier : List String) (operand : String) : Bool :=
  match v with
  | ingest => !operand.isEmpty
  | info => earlier.isEmpty
  | search | fields => false

end Verb

/-- Why a call does nothing. -/
inductive Halt where
  /-- The arguments are none of a call. -/
  | usage
  /-- The call asks for help. -/
  | help
  /-- The call asks for the version. -/
  | version
  deriving DecidableEq, Repr

/-- What one side of a command gives. -/
structure Given where
  settings : List (Setting × String) := []
  operands : List String := []
  deriving Repr

namespace Given

/-- The value of a setting. -/
def value? (g : Given) (s : Setting) : Option String :=
  (g.settings.find? (·.1 == s)).map (·.2)

/-- Gives a setting its value. -/
def set (g : Given) (s : Setting) (value : String) : Except Halt Given :=
  if (g.value? s).isSome || !s.takes value then .error .usage
  else .ok { g with settings := (s, value) :: g.settings }

/-- Adds an operand of a verb. -/
def addOperand (v : Verb) (g : Given) (operand : String) : Except Halt Given :=
  if v.takesOperand g.operands operand then .ok { g with operands := g.operands ++ [operand] }
  else .error .usage

end Given

/-- What an argument is, before or behind a verb. -/
inductive Argument where
  | halt (why : Halt)
  /-- A setting and the value attached to it. -/
  | setting (s : Setting) (attached : Option String)
  | word (text : String)
  /-- The mark before arguments that are all operands. -/
  | divider
  deriving Repr

namespace Argument

/-- Whether an argument is no value of a setting before it. -/
def isDashed (argument : String) : Bool :=
  match argument.toList with
  | '-' :: _ :: _ => true
  | _ => false

/-- The settings that may stand before or behind a verb. -/
def known (verb : Option Verb) : List Setting :=
  Setting.general ++ (verb.map Verb.settings).getD []

/-- The argument of a word behind `--` and what follows the word. -/
def ofWord (verb : Option Verb) (word : String) (rest : List Char) : Argument :=
  let attached := match rest with
    | _ :: value => some (String.ofList value)
    | [] => none
  match (known verb).find? (·.word == word) with
  | some s => .setting s attached
  | none =>
    if attached.isSome then .halt .usage
    else if word == "help" then .halt .help
    else if word == "version" && verb.isNone then .halt .version
    else .halt .usage

/-- The argument of a letter behind `-` and what follows the letter. -/
def ofLetter (verb : Option Verb) (letter : Char) (rest : List Char) : Argument :=
  match (known verb).find? (·.letter? == some letter) with
  | some s =>
    .setting s <| match rest with
      | [] => none
      | '=' :: value => some (String.ofList value)
      | value => some (String.ofList value)
  | none =>
    if letter == 'h' then .halt .help
    else if letter == 'V' && verb.isNone then .halt .version
    else .halt .usage

/-- What an argument is. -/
def read (verb : Option Verb) (argument : String) : Argument :=
  match argument.toList with
  | ['-', '-'] => .divider
  | '-' :: '-' :: rest =>
    let (name, rest) := rest.span (· != '=')
    ofWord verb (String.ofList name) rest
  | '-' :: letter :: rest => ofLetter verb letter rest
  | _ => .word argument

end Argument

/-- Reads the arguments behind a verb. -/
def readBehind (verb : Verb) (g : Given) : List String → Except Halt Given
  | [] => .ok g
  | argument :: rest =>
    match Argument.read (some verb) argument with
    | .halt why => .error why
    | .divider => rest.foldlM (Given.addOperand verb) g
    | .word text => do readBehind verb (← g.addOperand verb text) rest
    | .setting s (some value) => do readBehind verb (← g.set s value) rest
    | .setting s none =>
      match rest with
      | value :: rest =>
        if Argument.isDashed value then .error .usage
        else do readBehind verb (← g.set s value) rest
      | [] => .error .usage

/-- Reads the arguments up to the verb: what stands before it, the verb, and what follows it. -/
def readBefore (g : Given) : List String → Except Halt (Given × Verb × List String)
  | [] => .error .usage
  | argument :: rest =>
    match Argument.read none argument with
    | .halt why => .error why
    | .divider => .error .usage
    | .word text =>
      match Verb.ofName? text with
      | some verb => .ok (g, verb, rest)
      | none => .error .usage
    | .setting s (some value) => do readBefore (← g.set s value) rest
    | .setting s none =>
      match rest with
      | value :: rest =>
        if Argument.isDashed value then .error .usage
        else do readBefore (← g.set s value) rest
      | [] => .error .usage

/-- What a call does. -/
inductive Command where
  | ingest (manifests : List String)
  | search (query : String) (target : Option String) (format : Option ExportFormat)
  | fields
  | info (field : String)
  deriving Repr

/-- A call. -/
structure Call where
  config : Option String
  database : Option String
  logLevel : Option String
  synchronous : Option Synchronous
  format : OutputFormat
  command : Command
  deriving Repr

namespace Call

/-- The command of a verb. -/
def commandOf (verb : Verb) (g : Given) : Except Halt Command :=
  match verb, g.operands with
  | .ingest, [] => .error .usage
  | .ingest, manifests => .ok (.ingest manifests)
  | .search, _ =>
    match g.value? .query with
    | some query =>
      .ok (.search query (g.value? .target) ((g.value? .exportFormat).bind ExportFormat.ofTag?))
    | none => .error .usage
  | .fields, _ => .ok .fields
  | .info, [field] => .ok (.info field)
  | .info, _ => .error .usage

/-- A path that the environment may give. A side of the verb that does not give it takes it from
the environment, and an empty one is refused there. -/
def path? (s : Setting) (fromEnvironment : Option String) (before behind : Given) :
    Except Halt (Option String) :=
  let given := behind.value? s <|> before.value? s
  let everywhere := (before.value? s).isSome && (behind.value? s).isSome
  if fromEnvironment == some "" && !everywhere then .error .usage
  else .ok (given <|> fromEnvironment)

/-- The call of arguments. -/
def read (environment : Environment) (arguments : List String) : Except Halt Call := do
  let (before, verb, rest) ← readBefore {} arguments
  let behind ← readBehind verb {} rest
  let value? (s : Setting) := behind.value? s <|> before.value? s
  return {
    command := ← commandOf verb behind
    config := ← path? .config environment.config before behind
    database := ← path? .database environment.database before behind
    logLevel := value? .logLevel
    synchronous := (value? .synchronous).bind Synchronous.ofName?
    format := ((value? .format).bind OutputFormat.ofName?).getD .text }

end Call

end SceneArchive.CommandLine

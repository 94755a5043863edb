import DocLint.TypeExpr.Style

/-!
# Command lines

A command line names one of three commands and gives it settings, switches and
at most one operand.  Settings and switches are written with a letter
(`-f json`, `-fjson`, `-f=json`) or with a name (`--format json`,
`--format=json`); `--` ends them.  Arguments are read from left to right, and
the first one that is wrong or asks for help decides.
-/

namespace DocLint

/-- What to do with the manifests at a path. -/
structure LintOptions where
  path : String
  config : Option String
  format : String
  style : Option Style
  deriving DecidableEq, Repr

/-- What to do with a text of types. -/
structure TypeOptions where
  text : String
  style : Style
  format : String
  deriving DecidableEq, Repr

/-- Where to write a configuration. -/
structure InitOptions where
  output : String
  deriving DecidableEq, Repr

/-- A command with its options. -/
inductive Command
  | lint (options : LintOptions)
  | type (options : TypeOptions)
  | init (options : InitOptions)
  deriving DecidableEq, Repr

/-- What comes of a command line that gives no command. -/
inductive Refusal
  | misuse
  | help
  | version
  deriving DecidableEq, Repr

/-- Something that is on or off. -/
inductive Switch
  | verbose
  | help
  | version
  deriving DecidableEq, Repr

/-- Something that has a value. -/
inductive Setting
  | config
  | format
  | style
  | output
  deriving DecidableEq, Repr

namespace Switch

/-- The letter of a switch. -/
def letter : Switch → Char
  | verbose => 'v'
  | help => 'h'
  | version => 'V'

/-- The name of a switch. -/
def name : Switch → String
  | verbose => "verbose"
  | help => "help"
  | version => "version"

end Switch

namespace Setting

/-- The letter of a setting. -/
def letter : Setting → Char
  | config => 'c'
  | format => 'f'
  | style => 's'
  | output => 'o'

/-- The name of a setting. -/
def name : Setting → String
  | config => "config"
  | format => "format"
  | style => "style"
  | output => "output"

/-- Whether a text can be the value of a setting: paths are not empty, and a
style is a word for one.  Formats are looked at later. -/
def accepts : Setting → String → Bool
  | config, value => !value.isEmpty
  | format, _ => true
  | style, value => (Style.ofWord? value).isSome
  | output, value => !value.isEmpty

end Setting

/-- What may be given. -/
structure Grammar where
  switches : List Switch
  settings : List Setting
  /-- Whether a text can be the operand. -/
  acceptsOperand : String → Bool

/-- What has been given. -/
structure Given where
  verbose : Bool := false
  values : List (Setting × String) := []
  operand : Option String := none
  /-- The setting whose value comes next. -/
  awaited : Option Setting := none
  /-- Whether only operands follow. -/
  operandsOnly : Bool := false
  deriving DecidableEq, Repr

namespace Given

/-- Turn on a switch. -/
def turnOn (given : Given) : Switch → Except Refusal Given
  | .verbose =>
    if given.verbose then .error .misuse
    else .ok { given with verbose := true }
  | .help => .error .help
  | .version => .error .version

/-- Give a setting its value.  A setting has one value only. -/
def set
    (given : Given)
    (setting : Setting)
    (value : String) :
    Except Refusal Given :=
  if (given.values.lookup setting).isSome || !setting.accepts value then
    .error .misuse
  else
    .ok { given with
      values := given.values ++ [(setting, value)]
      awaited := none }

/-- Give the operand.  There is one only. -/
def operate
    (grammar : Grammar)
    (given : Given)
    (value : String) :
    Except Refusal Given :=
  if given.operand.isSome || !grammar.acceptsOperand value then .error .misuse
  else .ok { given with operand := some value }

/-- Read the letters of an argument: switches, up to a setting with its
value. -/
def readLetters
    (grammar : Grammar)
    (given : Given) :
    List Char → Except Refusal Given
  | [] => .ok given
  | letter :: rest =>
    match grammar.switches.find? fun switch => switch.letter == letter with
    | some switch => do readLetters grammar (← given.turnOn switch) rest
    | none =>
      match grammar.settings.find? fun setting => setting.letter == letter with
      | none => .error .misuse
      | some setting =>
        match rest with
        | [] => .ok { given with awaited := some setting }
        | '=' :: value => given.set setting (String.ofList value)
        | value => given.set setting (String.ofList value)

/-- Read the name of an argument, with the value that may follow it. -/
def readName
    (grammar : Grammar)
    (given : Given)
    (word : List Char) :
    Except Refusal Given :=
  let name := String.ofList (word.takeWhile (· ≠ '='))
  let value := word.dropWhile (· ≠ '=')
  match grammar.switches.find? fun switch => switch.name == name with
  | some switch => if value.isEmpty then given.turnOn switch else .error .misuse
  | none =>
    match grammar.settings.find? fun setting => setting.name == name with
    | none => .error .misuse
    | some setting =>
      if value.isEmpty then .ok { given with awaited := some setting }
      else given.set setting (String.ofList value.tail)

/-- Read an argument.  The value of a setting does not start with a dash, unless
it is one. -/
def read
    (grammar : Grammar)
    (given : Given)
    (argument : String) :
    Except Refusal Given :=
  if given.operandsOnly then given.operate grammar argument
  else
    match given.awaited, argument.toList with
    | none, ['-', '-'] => .ok { given with operandsOnly := true }
    | none, '-' :: '-' :: word => given.readName grammar word
    | none, '-' :: letter :: letters =>
      given.readLetters grammar (letter :: letters)
    | none, _ => given.operate grammar argument
    | some _, '-' :: _ :: _ => .error .misuse
    | some setting, _ => given.set setting argument

end Given

/-- The name of a command. -/
inductive Verb
  | lint
  | type
  | init
  deriving DecidableEq, Repr

namespace Verb

/-- Read the name of a command. -/
def ofWord? : String → Option Verb
  | "lint" => some lint
  | "check" => some lint
  | "type" => some type
  | "init" => some init
  | _ => none

/-- What may be given to a command. -/
def grammar : Verb → Grammar
  | lint =>
    ⟨[.verbose, .help], [.config, .format, .style],
      fun operand => !operand.isEmpty⟩
  | type => ⟨[.verbose, .help], [.style, .format], fun _ => true⟩
  | init => ⟨[.verbose, .help], [.output], fun _ => false⟩

/-- The command with what was given to it. -/
def command (verb : Verb) (given : Given) : Except Refusal Command :=
  let value? (setting : Setting) : Option String := given.values.lookup setting
  let style? : Option Style := (value? .style).bind Style.ofWord?
  let format : String := (value? .format).getD "pretty"
  match given.awaited, verb, given.operand with
  | some _, _, _ => .error .misuse
  | none, lint, some path => .ok (.lint ⟨path, value? .config, format, style?⟩)
  | none, type, some text => .ok (.type ⟨text, style?.getD .long, format⟩)
  | none, init, none => .ok (.init ⟨(value? .output).getD "yardcheck.yaml"⟩)
  | none, _, _ => .error .misuse

end Verb

namespace Command

/-- What may be given in front of the name of a command. -/
def frontGrammar : Grammar :=
  ⟨[.verbose, .help, .version], [], fun _ => false⟩

/-- What comes of `help` with words after it: at most one, which names what help
is wanted for. -/
def helpOn : List String → Refusal
  | [] => .help
  | [topic] =>
    if (Verb.ofWord? topic).isSome || topic == "help" then .help else .misuse
  | _ => .misuse

/-- Read a command line after what was given in front of the name of the
command. -/
def parseAfter (front : Given) : List String → Except Refusal Command
  | [] => .error .misuse
  | argument :: rest =>
    match Verb.ofWord? argument with
    | some verb => do verb.command (← rest.foldlM (Given.read verb.grammar) {})
    | none =>
      if argument = "help" then .error (helpOn rest)
      else if argument = "--" then .error .misuse
      else do parseAfter (← front.read frontGrammar argument) rest

/-- Read a command line. -/
def parse (arguments : List String) : Except Refusal Command :=
  parseAfter {} arguments

end Command
end DocLint

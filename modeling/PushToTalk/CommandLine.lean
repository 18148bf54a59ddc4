import PushToTalk.Text.Numeral
import PushToTalk.Text.Resemblance

/-
  The command line.

  Four options take a value, which follows the name or an equals sign behind it; two flags show a
  text and end the program.  A value that follows its option is stored when the next option comes
  or the line ends, and only then is it found to be wrong.  What comes first on the line counts
  first: a flag ends the program whatever stands behind it.
-/

namespace PushToTalk.CommandLine

/-! ## Options and flags -/

/-- An option with a value. -/
inductive Key
  | config
  | host
  | port
  | topic
  deriving DecidableEq, Repr

/-- An option without a value. -/
inductive Flag
  | help
  | version
  deriving DecidableEq, Repr

def Key.name : Key → String
  | .config => "config"
  | .host => "host"
  | .port => "port"
  | .topic => "topic"

/-- The word for the value of an option. -/
def Key.valueName : Key → String
  | .config => "CONFIG"
  | .host => "HOST"
  | .port => "PORT"
  | .topic => "TOPIC"

/-- An option as messages show it. -/
def Key.shown (k : Key) : String := "--" ++ k.name ++ " <" ++ k.valueName ++ ">"

def Flag.name : Flag → String
  | .help => "help"
  | .version => "version"

/-- A flag as messages show it. -/
def Flag.shown (f : Flag) : String := "--" ++ f.name

/-- The options in the order in which they are declared. -/
def keys : List Key := [.config, .host, .port, .topic]

def flags : List Flag := [.help, .version]

/-- The option of a name. -/
def Key.ofName? (name : String) : Option Key := keys.find? fun k => k.name == name

/-- The flag of a name. -/
def Flag.ofName? (name : String) : Option Flag := flags.find? fun f => f.name == name

/-- The flag of a letter. -/
def Flag.ofLetter? : Char → Option Flag
  | 'h' => some .help
  | 'V' => some .version
  | _ => none

/-- What a command line asks for. -/
structure Arguments where
  config : Option String
  host : Option String
  port : Option UInt16
  topic : Option String
  deriving DecidableEq, Repr

/-- The empty command line. -/
def Arguments.none : Arguments := ⟨.none, .none, .none, .none⟩

/-- The name of the configuration if none is given. -/
def standardConfig : String := "config/voice-relay"

/-- The name of the configuration. -/
def Arguments.configName (a : Arguments) : String := a.config.getD standardConfig

/-! ## Refusals -/

/-- Why a text is no port. -/
inductive PortFlaw
  | empty
  | badDigit
  | tooLarge
  | tooSmall
  | outOfRange (n : Int)
  deriving DecidableEq, Repr

/-- Why a command line is refused. -/
inductive Refusal
  /-- There is no such option; `used` are those that came before it. -/
  | unknown (argument : String) (similar : Option String) (used : List String)
  | noValue (key : Key)
  | repeated (key : Key)
  | badPort (text : String) (flaw : PortFlaw)
  /-- A flag was given a value. -/
  | superfluous (value : String) (flag : Flag) (used : List String)
  deriving DecidableEq, Repr

def PortFlaw.message : PortFlaw → String
  | .empty => "cannot parse integer from empty string"
  | .badDigit => "invalid digit found in string"
  | .tooLarge => "number too large to fit in target type"
  | .tooSmall => "number too small to fit in target type"
  | .outOfRange n => Text.Numeral.ofInt n ++ " is not in 0..=65535"

/-- The line that shows how the program is used. -/
def usage (used : List String) : String :=
  "Usage: voice-relay " ++ if used.isEmpty then "[OPTIONS]" else " ".intercalate used

/-- What is wrong, in one line. -/
def Refusal.summary : Refusal → String
  | .unknown argument _ _ => "unexpected argument '" ++ argument ++ "' found"
  | .noValue key => "a value is required for '" ++ key.shown ++ "' but none was supplied"
  | .repeated key => "the argument '" ++ key.shown ++ "' cannot be used multiple times"
  | .badPort text flaw =>
    let value := match flaw with
      | .outOfRange n => Text.Numeral.ofInt n
      | _ => text
    "invalid value '" ++ value ++ "' for '" ++ Key.shown .port ++ "': " ++ flaw.message
  | .superfluous value flag _ =>
    "unexpected value '" ++ value ++ "' for '" ++ flag.shown ++ "' found; no more were expected"

/-- What may help. -/
def Refusal.advice : Refusal → List String
  | .unknown _ (some similar) used =>
    ["  tip: a similar argument exists: '" ++ similar ++ "'", usage used]
  | .unknown _ none used => [usage used]
  | .repeated _ => [usage []]
  | .superfluous _ _ used => [usage used]
  | .noValue _ => []
  | .badPort _ _ => []

/-- The text of a refusal. -/
def Refusal.message (r : Refusal) : String :=
  "\n\n".intercalate
    (("error: " ++ r.summary) :: r.advice ++ ["For more information, try '--help'.\n"])

/-! ## Values -/

/-- Reads digits in front of which `n` was read; numbers from `limit` on are too large. -/
def readDigits (limit : Nat) (overflow : PortFlaw) (n : Nat) : List Char → Except PortFlaw Nat
  | [] => .ok n
  | c :: rest =>
    if !Text.Numeral.isDigit c then .error .badDigit
    else if limit ≤ 10 * n + Text.Numeral.digitValue c then .error overflow
    else readDigits limit overflow (10 * n + Text.Numeral.digitValue c) rest

/-- Reads a whole number of 64 bits. -/
def readWhole (s : String) : Except PortFlaw Int :=
  match s.toList with
  | [] => .error .empty
  | ['+'] | ['-'] => .error .badDigit
  | '-' :: ds => (readDigits (Nat.pow 2 63 + 1) .tooSmall 0 ds).map fun n => -(n : Int)
  | '+' :: ds => (readDigits (Nat.pow 2 63) .tooLarge 0 ds).map fun n => (n : Int)
  | ds => (readDigits (Nat.pow 2 63) .tooLarge 0 ds).map fun n => (n : Int)

/-- Reads a port. -/
def readPort (s : String) : Except PortFlaw UInt16 :=
  (readWhole s).bind fun n =>
    if 0 ≤ n && n ≤ 65535 then .ok (UInt16.ofNat n.toNat) else .error (.outOfRange n)

/-! ## Reading -/

/-- How a command line ends that does not run the program. -/
inductive Stop
  | shown (flag : Flag)
  | refused (why : Refusal)
  deriving DecidableEq, Repr

/-- What has been read of a command line. -/
structure Reading where
  arguments : Arguments
  /-- The options that have been stored, in the order in which they came. -/
  stored : List Key
  /-- The option whose value has not been stored yet, and the value if it has come. -/
  open? : Option (Key × Option String)
  /-- Whether two hyphens came, behind which nothing may stand. -/
  closed : Bool
  deriving Repr

namespace Reading

def start : Reading := ⟨.none, [], none, false⟩

/-- Stores the value of an option. -/
def store (r : Reading) (key : Key) (value : String) : Except Refusal Reading :=
  if key ∈ r.stored then .error (.repeated key)
  else
    let keep (a : Arguments) : Except Refusal Reading :=
      .ok { r with arguments := a, stored := r.stored ++ [key] }
    match key with
    | .config => keep { r.arguments with config := some value }
    | .host => keep { r.arguments with host := some value }
    | .topic => keep { r.arguments with topic := some value }
    | .port =>
      match readPort value with
      | .ok n => keep { r.arguments with port := some n }
      | .error flaw => .error (.badPort value flaw)

/-- Stores the value that is still open. -/
def settle (r : Reading) : Except Refusal Reading :=
  match r.open? with
  | none => .ok r
  | some (key, none) => .error (.noValue key)
  | some (key, some value) => { r with open? := none }.store key value

/-- The options that messages call used: the stored ones and one whose value has come; an option
that came twice does not count. -/
def used (r : Reading) : List Key :=
  match r.open? with
  | some (key, some _) => if key ∈ r.stored then r.stored.erase key else r.stored ++ [key]
  | _ => r.stored

/-- A reading or a refusal as a step of a command line. -/
def orStop (r : Except Refusal Reading) : Except Stop Reading := r.mapError .refused

/-- Ends with a flag. -/
def endWith (r : Reading) (flag : Flag) : Except Stop Reading :=
  (orStop r.settle).bind fun _ => .error (.shown flag)

/-! ## Suggestions -/

/-- The names of all options and flags. -/
def names : List String := keys.map Key.name ++ flags.map Flag.name

/-- Names resemble one another from here on. -/
def similarFrom : Float := 0.7

/-- The name that resembles `name` most; of equals the last. -/
def similar? (name : String) : Option String :=
  (names.foldl
    (fun (best : Option (String × Float)) candidate =>
      let likeness := Text.resemblance name candidate
      let atLeast := (best.map (·.2)).getD 0
      if similarFrom < likeness && atLeast ≤ likeness then some (candidate, likeness) else best)
    none).map (·.1)

/-- An option or flag as messages show it. -/
def shownName (name : String) : String := ((Key.ofName? name).map Key.shown).getD ("--" ++ name)

/-- Adds a name to a list that does not have it. -/
def withName (name : String) (shown : List String) : List String :=
  if shownName name ∈ shown then shown else shown ++ [shownName name]

/-- Refuses a long name that is not known. -/
def refuseName (r : Reading) (name : String) : Except Stop Reading :=
  let used := r.used.map Key.shown
  match similar? name with
  | some other =>
    .error (.refused (.unknown ("--" ++ name) (some ("--" ++ other)) (withName other used)))
  | none => .error (.refused (.unknown ("--" ++ name) none used))

/-! ## Steps -/

/-- Reads a long name, perhaps with a value behind an equals sign. -/
def readLong (r : Reading) (name : String) (value : Option String) : Except Stop Reading :=
  match Key.ofName? name, Flag.ofName? name, value with
  | some key, _, some v => orStop (r.settle.bind fun r => { r with open? := none }.store key v)
  | some key, _, none => (orStop r.settle).map fun r => { r with open? := some (key, none) }
  | none, some flag, some v =>
    .error (.refused (.superfluous v flag (r.stored.map Key.shown ++ [flag.shown])))
  | none, some flag, none => r.endWith flag
  | none, none, _ => r.refuseName name

/-- Reads a run of letters; only its first one ever counts, because each known one ends the
program. -/
def readLetters (r : Reading) (letter : Char) : Except Stop Reading :=
  match Flag.ofLetter? letter with
  | some flag => r.endWith flag
  | none => .error (.refused (.unknown (String.ofList ['-', letter]) none []))

/-- Reads a value, or refuses it if no option waits for one. -/
def readValue (r : Reading) (value : String) : Except Stop Reading :=
  match r.open? with
  | some (key, none) => .ok { r with open? := some (key, some value) }
  | _ => .error (.refused (.unknown value none []))

/-- Reads one argument. -/
def step (r : Reading) (argument : String) : Except Stop Reading :=
  if r.closed then .error (.refused (.unknown argument none []))
  else match argument.toList with
    | ['-', '-'] => .ok { r with closed := true }
    | '-' :: '-' :: rest =>
      let name := String.ofList (rest.takeWhile (· != '='))
      match rest.dropWhile (· != '=') with
      | [] => r.readLong name none
      | _ :: value => r.readLong name (some (String.ofList value))
    | '-' :: letter :: _ => r.readLetters letter
    | _ => r.readValue argument

end Reading

/-- Reads a command line. -/
def read (arguments : List String) : Except Stop Arguments :=
  ((arguments.foldlM Reading.step .start).bind fun r => Reading.orStop r.settle).map (·.arguments)

/-! ## Texts -/

/-- The number of the version. -/
def versionNumber : String := "0.1.0"

/-- The name of the program with its version. -/
def versionText : String := "voice-relay " ++ versionNumber ++ "\n"

/-- The text that explains the options. -/
def helpText : String := "\n".intercalate
  [ "Relay push-to-talk recordings to the transcription backend",
    "",
    usage [],
    "",
    "Options:",
    "      --config <CONFIG>  Configuration file (extension optional) [default: "
      ++ standardConfig ++ "]",
    "      --host <HOST>      Override the backend host",
    "      --port <PORT>      Override the backend port",
    "      --topic <TOPIC>    Override the chat topic",
    "  -h, --help             Print help",
    "  -V, --version          Print version",
    "" ]

/-- What a flag shows. -/
def Flag.text : Flag → String
  | .help => helpText
  | .version => versionText

end PushToTalk.CommandLine

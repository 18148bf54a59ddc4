import PushToTalk.Config
import PushToTalk.Config.Ini
import PushToTalk.Config.Json
import PushToTalk.Config.Json5
import PushToTalk.Config.Ron
import PushToTalk.Config.Toml.Document
import PushToTalk.Config.Yaml.Document
import PushToTalk.Disk

/-
  Loading the configuration.

  The file may be named with or without its extension, which tells the format.  A file that is
  not there, or has no known extension, is as good as an empty one.
-/

namespace PushToTalk.Config

/-! ## Formats -/

/-- The format of a configuration file. -/
inductive Format
  | toml
  | json
  | yaml
  | ini
  | ron
  | json5
  deriving DecidableEq, Repr

/-- The extensions of files with their formats, in the order in which they are tried. -/
def extensions : List (String × Format) :=
  [("toml", .toml), ("json", .json), ("yaml", .yaml), ("yml", .yaml), ("ini", .ini),
    ("ron", .ron), ("json5", .json5)]

/-- The format of files with an extension. -/
def Format.ofExtension? (extension : String) : Option Format :=
  (extensions.find? fun e => e.1 == extension).map (·.2)

/-- The value that a text stands for; nothing if the text is not well-formed. -/
def Format.read : Format → Option String → String → Option Value
  | .toml => fun origin text => (Toml.read origin text).map (.table origin)
  | .json => Json.read
  | .yaml => Yaml.read
  | .ini => Ini.read
  | .ron => Ron.read
  | .json5 => Json5.read

/-! ## Files -/

/-- Why no configuration could be loaded; `name` is the name that was asked for. -/
inductive Failure
  /-- The file is not well-formed. -/
  | unreadable (name : String)
  /-- A field of it is wrong. -/
  | invalid (name : String) (problem : Problem)
  deriving Repr

/-- The wording of a failure. -/
def Failure.message : Failure → String
  | .unreadable name => "Failed to read config from " ++ name
  | .invalid name _ => "Invalid config in " ++ name

/-- Whether a path leads to a file. -/
def isFile (d : Disk) (p : Path) : Bool :=
  match d.read p with
  | .ok _ => true
  | .error _ => false

/-- The files that a name may stand for if it is not a file itself. -/
def candidates (p : Path) : List (Path × Format) :=
  extensions.map fun e => (p.withSuffix ("." ++ e.1), e.2)

/-- The file that a name stands for, and its format. -/
def locate (d : Disk) (p : Path) : Option (Path × Format) :=
  if isFile d p then (p.extension?.bind Format.ofExtension?).map fun format => (p, format)
  else (candidates p).find? fun c => isFile d c.1

/-- The text of a file. -/
def fileText? (d : Disk) (p : Path) : Option String :=
  match d.read p with
  | .ok bytes => Text.ofUtf8? bytes
  | .error _ => none

/-! ## Loading -/

/-- The value of the configuration called `name` in the directory `here`. -/
def loadValue (d : Disk) (here : Path) (name : String) : Except Failure Value :=
  match locate d ((Path.ofText name).under here) with
  | none => .ok .made
  | some (p, format) =>
    match fileText? d p with
    | none => .ok .made
    | some text =>
      match format.read (some (p.relativeTo here).text) text with
      | some v => .ok (.ofTop v.entries)
      | none => .error (.unreadable name)

/-- The configuration called `name` in the directory `here`. -/
def load (d : Disk) (here : Path) (name : String) : Except Failure Config :=
  match loadValue d here name with
  | .error failure => .error failure
  | .ok v => (ofValue v).mapError (.invalid name)

end PushToTalk.Config

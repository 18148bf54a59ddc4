import PushToTalk.Config.Value
import PushToTalk.Json.Scan

/-
  Configuration in JSON.

  A text holds one value.  Whole numbers that do not fit in 64 bits with a sign count as reals;
  of two entries with one key the later one stands.  Lists and objects may be nested 127 deep.
-/

namespace PushToTalk.Config

namespace Json

/-- Lists and objects inside one another, at most. -/
def depthLimit : Nat := 127

/-- The scalar that a number is. -/
def scalarOf : Json.Number → Scalar
  | .whole n => if n < Int.pow 2 63 then .whole n else .real (Float.ofInt n)
  | .real x => .real x

/-- Reads a key and the colon behind it. -/
def readKey (s : List Char) : Option (String × List Char) :=
  match s with
  | '"' :: rest =>
    match Json.readText rest with
    | .ok (key, rest) =>
      match Json.skipGaps rest with
      | ':' :: rest => some (String.ofList key, rest)
      | _ => none
    | .error _ => none
  | _ => none

mutual

/-- Reads a value; every step takes at least one character of `fuel` or none that the step after
it does not take. -/
def readValue (origin : Option String) : Nat → Nat → List Char → Option (Value × List Char)
  | 0, _, _ => none
  | fuel + 1, depth, s =>
    let scalar (v : Scalar) (rest : List Char) : Option (Value × List Char) :=
      some (.scalar origin v, rest)
    let word (w : String) (v : Scalar) (s : List Char) : Option (Value × List Char) :=
      match Json.readWord w.toList s with
      | .ok rest => scalar v rest
      | .error _ => none
    match Json.skipGaps s with
    | 'n' :: rest => word "ull" .nothing rest
    | 't' :: rest => word "rue" (.truth true) rest
    | 'f' :: rest => word "alse" (.truth false) rest
    | '"' :: rest =>
      match Json.readText rest with
      | .ok (t, rest) => scalar (.text (String.ofList t)) rest
      | .error _ => none
    | '[' :: rest =>
      if depth = 0 then none
      else match Json.skipGaps rest with
        | ']' :: rest => some (.list origin [], rest)
        | rest => (readItems origin fuel (depth - 1) rest).map fun (vs, rest) =>
          (.list origin vs, rest)
    | '\x7b' :: rest =>
      if depth = 0 then none
      else match Json.skipGaps rest with
        | '\x7d' :: rest => some (.table origin [], rest)
        | rest => (readEntries origin fuel (depth - 1) [] rest).map fun (es, rest) =>
          (.table origin es, rest)
    | rest =>
      match Json.readNumber rest with
      | .ok (n, rest) => scalar (scalarOf n) rest
      | .error _ => none

/-- Reads the items of a list up to its closing bracket. -/
def readItems (origin : Option String) : Nat → Nat → List Char → Option (List Value × List Char)
  | 0, _, _ => none
  | fuel + 1, depth, s =>
    (readValue origin fuel depth s).bind fun (v, rest) =>
      match Json.skipGaps rest with
      | ',' :: rest => (readItems origin fuel depth rest).map fun (vs, rest) => (v :: vs, rest)
      | ']' :: rest => some ([v], rest)
      | _ => none

/-- Reads the entries of an object up to its closing brace, `es` having come before. -/
def readEntries (origin : Option String) : Nat → Nat → List (String × Value) → List Char →
    Option (List (String × Value) × List Char)
  | 0, _, _, _ => none
  | fuel + 1, depth, es, s =>
    (readKey (Json.skipGaps s)).bind fun (key, rest) =>
      (readValue origin fuel depth rest).bind fun (v, rest) =>
        let es := Value.putIn key v es
        match Json.skipGaps rest with
        | ',' :: rest => readEntries origin fuel depth es rest
        | '\x7d' :: rest => some (es, rest)
        | _ => none

end

/-- The value of a JSON text. -/
def read (origin : Option String) (text : String) : Option Value :=
  let s := text.toList
  (readValue origin (2 * s.length + 2) depthLimit s).bind fun (v, rest) =>
    if (Json.skipGaps rest).isEmpty then some v else none

end Json

end PushToTalk.Config

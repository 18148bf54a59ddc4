import PushToTalk.Json.Skip

/-
  Reading a record of known fields from JSON.

  A `Shape` names the record and its fields.  The text gives the fields as an object, in any
  order, each at most once, with unknown fields passed over; or as a list with one element for
  each field, in the shape's order.  An optional field may be null or left out.
-/

namespace PushToTalk.Json

/-! ## Shapes -/

/-- What a field holds. -/
inductive FieldKind
  /-- A text. -/
  | text
  /-- A whole number between two bounds, both included; messages call the type `name`. -/
  | integer (low high : Int) (name : String)
  deriving Repr

/-- A field of a record. -/
structure Field where
  /-- The key of the field in an object. -/
  name : String
  /-- What it holds. -/
  kind : FieldKind
  /-- Whether it may be null or left out. -/
  optional : Bool
  deriving Repr

/-- The fields of a record, in the order in which a list gives them. -/
structure Shape where
  /-- What messages call the record. -/
  name : String
  /-- Its fields. -/
  fields : List Field
  deriving Repr

/-- The value of a field. -/
inductive Scalar
  | text (s : String)
  | integer (n : Int)
  deriving DecidableEq, Repr

/-- What messages expect in place of a field. -/
def FieldKind.expected : FieldKind → String
  | .text => "a string"
  | .integer _ _ name => name

/-- What messages expect in place of the record. -/
def Shape.expected (shape : Shape) : String := "struct " ++ shape.name

/-- What messages expect in place of a list that is too short. -/
def Shape.expectedLength (shape : Shape) : String :=
  shape.expected ++ " with " ++ Text.Numeral.ofNat shape.fields.length
    ++ (if shape.fields.length = 1 then " element" else " elements")

/-! ## Values of the wrong kind -/

/-- The failure that is due when a value of another kind stands at the front of the input. -/
def mistaken (expected : String) (s : List Char) : Slip :=
  let wrong (found : Found) (rest : List Char) : Slip := ⟨.wrongType found expected, rest, 0, []⟩
  let word (w : String) (found : Found) (rest : List Char) : Slip :=
    match readWord w.toList rest with
    | .error e => e
    | .ok rest => wrong found rest
  let number : Slip :=
    match readNumber s with
    | .error e => e
    | .ok (.whole n, rest) => wrong (.integer n) rest
    | .ok (.real x, rest) => wrong (.number x) rest
  match s with
  | 'n' :: rest => word "ull" .null rest
  | 't' :: rest => word "rue" (.boolean true) rest
  | 'f' :: rest => word "alse" (.boolean false) rest
  | '"' :: rest =>
    match readText rest with
    | .error e => e
    | .ok (cs, rest) => wrong (.text (String.ofList cs)) rest
  | '[' :: _ => wrong .sequence s
  | '\x7b' :: _ => wrong .object s
  | '-' :: _ => number
  | c :: _ => if Text.Numeral.isDigit c then number else ⟨.wantValue, s, 1, []⟩
  | [] => ⟨.endInValue, [], 0, []⟩

/-! ## Fields -/

/-- Reads a value of the given kind. -/
def readScalar (kind : FieldKind) (s : List Char) : Read Scalar :=
  match kind, skipGaps s with
  | _, [] => slip .endInValue []
  | .text, '"' :: rest =>
    match readText rest with
    | .error e => .error e
    | .ok (cs, rest) => .ok (.text (String.ofList cs), rest)
  | .integer low high name, c :: rest =>
    if c == '-' || Text.Numeral.isDigit c then
      match readNumber (c :: rest) with
      | .error e => .error e
      | .ok (.real x, rest) => slip (.wrongType (.number x) name) rest
      | .ok (.whole n, rest) =>
        if low ≤ n && n ≤ high then .ok (.integer n, rest) else slip (.wrongValue n name) rest
    else .error (mistaken name (c :: rest))
  | .text, other => .error (mistaken "a string" other)

/-- Reads the value of a field; a null stands for no value where there may be none. -/
def Field.read (f : Field) (s : List Char) : Read (Option Scalar) :=
  let present :=
    match readScalar f.kind s with
    | .error e => Except.error e
    | .ok (v, rest) => Except.ok (some v, rest)
  match f.optional, skipGaps s with
  | true, 'n' :: rest =>
    match readWord "ull".toList rest with
    | .error e => .error e
    | .ok rest => .ok (none, rest)
  | _, _ => present

/-- Puts a step in front of the trail of a failure. -/
def within {α : Type} (step : String) (r : Except Slip α) : Except Slip α :=
  match r with
  | .error e => .error { e with trail := step :: e.trail }
  | .ok a => .ok a

/-! ## Lists -/

/-- Reads up to the next element of a list: `some` input where it starts, or `none` and the
input at the closing bracket. -/
def nextElement (first : Bool) (s : List Char) : Except Slip (Bool × List Char) :=
  match skipGaps s with
  | [] => slip .endInList []
  | ']' :: rest => .ok (false, ']' :: rest)
  | c :: rest =>
    if first then .ok (true, c :: rest)
    else if c == ',' then
      match skipGaps rest with
      | [] => slip .endInValue []
      | ']' :: rest => slipPast .trailingComma (']' :: rest)
      | other => .ok (true, other)
    else slipPast .wantListComma (c :: rest)

/-- Reads the elements of a list for the given fields, `index` of which came before. -/
def readElements (shape : Shape) (index : Nat) : List Field → List Char → Read (List (Option Scalar))
  | [], s => .ok ([], s)
  | f :: fields, s =>
    match nextElement (index = 0) s with
    | .error e => .error e
    | .ok (false, rest) => slip (.wrongLength index shape.expectedLength) (rest.drop 1)
    | .ok (true, rest) =>
      match within ("[" ++ Text.Numeral.ofNat index ++ "]") (f.read rest) with
      | .error e => .error e
      | .ok (v, rest) =>
        match readElements shape (index + 1) fields rest with
        | .error e => .error e
        | .ok (vs, rest) => .ok (v :: vs, rest)

/-- Reads the end of a list that has an element for every field. -/
def endList (s : List Char) : Except Slip (List Char) :=
  match skipGaps s with
  | [] => slip .endInList []
  | ']' :: rest => .ok rest
  | ',' :: rest =>
    match skipGaps rest with
    | ']' :: rest => slipPast .trailingComma (']' :: rest)
    | other => slipPast .trailingCharacters other
  | other => slipPast .trailingCharacters other

/-! ## Objects -/

/-- The fields of an object that have been read so far. -/
abbrev Seen := List (String × Option Scalar)

/-- The value of a field, if it has come. -/
def Seen.find? (seen : Seen) (name : String) : Option (Option Scalar) :=
  (List.find? (fun e : String × Option Scalar => e.1 == name) seen).map (·.2)

/-- Reads up to the next key of an object: the input after its opening quote, or nothing at the
closing brace. -/
def nextKey (first : Bool) (s : List Char) : Except Slip (Option (List Char) × List Char) :=
  match skipGaps s with
  | [] => slip .endInObject []
  | '\x7d' :: rest => .ok (none, rest)
  | c :: rest =>
    if first then
      if c == '"' then .ok (some rest, rest) else slipPast .keyNotText (c :: rest)
    else if c == ',' then
      match skipGaps rest with
      | [] => slip .endInValue []
      | '"' :: rest => .ok (some rest, rest)
      | '\x7d' :: rest => slipPast .trailingComma ('\x7d' :: rest)
      | other => slipPast .keyNotText other
    else slipPast .wantObjectComma (c :: rest)

/-- Where a failure of the object as a whole is noticed: after the brace if it comes next. -/
def afterBrace (s : List Char) : List Char :=
  match skipGaps s with
  | '\x7d' :: rest => rest
  | other => other

/-- Reads the colon between key and value. -/
def readColon (s : List Char) : Except Slip (List Char) :=
  match skipGaps s with
  | [] => slip .endInObject []
  | ':' :: rest => .ok rest
  | other => slipPast .wantColon other

/-- Reads one entry of an object from the first character of its key on. -/
def readEntry (shape : Shape) (seen : Seen) (s : List Char) : Read Seen :=
  match readText s with
  | .error e => .error e
  | .ok (key, rest) =>
    let name := String.ofList key
    match shape.fields.find? (fun f => f.name == name) with
    | none =>
      match readColon rest with
      | .error e => .error e
      | .ok rest =>
        match within name (skipValue rest) with
        | .error e => .error e
        | .ok rest => .ok (seen, rest)
    | some f =>
      if (seen.find? name).isSome then slip (.duplicate name) (afterBrace rest)
      else match readColon rest with
        | .error e => .error e
        | .ok rest =>
          match within name (f.read rest) with
          | .error e => .error e
          | .ok (v, rest) => .ok (seen ++ [(name, v)], rest)

/-- Reads the entries of an object up to its closing brace. There are at most as many as the
input has characters, which `fuel` counts. -/
def readEntries (shape : Shape) : Nat → Bool → Seen → List Char → Read Seen
  | 0, _, _, _ => slip .endInObject []
  | fuel + 1, first, seen, s =>
    match nextKey first s with
    | .error e => .error e
    | .ok (none, rest) => .ok (seen, rest)
    | .ok (some key, _) =>
      match readEntry shape seen key with
      | .error e => .error e
      | .ok (seen, rest) => readEntries shape fuel false seen rest

/-- Puts the fields in the shape's order; a field that did not come has to be optional. -/
def arrange (rest : List Char) (seen : Seen) : List Field → Except Slip (List (Option Scalar))
  | [] => .ok []
  | f :: fields =>
    match seen.find? f.name with
    | some v => (arrange rest seen fields).map (v :: ·)
    | none =>
      if f.optional then (arrange rest seen fields).map (none :: ·)
      else slip (.missing f.name) rest

/-! ## Records -/

/-- Reads a record from the front of the input. -/
def Shape.read (shape : Shape) (s : List Char) : Read (List (Option Scalar)) :=
  match skipGaps s with
  | [] => slip .endInValue []
  | '[' :: rest =>
    match readElements shape 0 shape.fields rest with
    | .error e => .error e
    | .ok (vs, rest) => (endList rest).map fun rest => (vs, rest)
  | '\x7b' :: rest =>
    match readEntries shape (rest.length + 1) true [] rest with
    | .error e => .error e
    | .ok (seen, rest) => (arrange rest seen shape.fields).map fun vs => (vs, rest)
  | other => .error (mistaken shape.expected other)

/-- Reads a text that holds a record and nothing else. -/
def Shape.parse (shape : Shape) (text : String) : Except Error (List (Option Scalar)) :=
  let s := text.toList
  match shape.read s with
  | .error e => .error (e.locate s)
  | .ok (vs, rest) =>
    match skipGaps rest with
    | [] => .ok vs
    | other => .error (Slip.locate ⟨.trailingCharacters, other, 1, []⟩ s)

/-- Reads a text that starts with a record; what follows it does not matter. -/
def Shape.parseFront (shape : Shape) (text : String) : Except Error (List (Option Scalar)) :=
  let s := text.toList
  match shape.read s with
  | .error e => .error (e.locate s)
  | .ok (vs, _) => .ok vs

end PushToTalk.Json

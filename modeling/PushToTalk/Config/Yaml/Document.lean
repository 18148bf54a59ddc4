import PushToTalk.Config.Yaml.Plain
import PushToTalk.Config.Yaml.Token

/-
  Reading a YAML file.

  A file holds one document.  Lists and tables may be laid out by indentation or by brackets and
  braces; a value may be named with an anchor and used again.
-/

namespace PushToTalk.Config.Yaml

/-- What is left to read, and the values that have been named. -/
structure Feed where
  tokens : List Token
  anchors : List (List Char × Value)
  deriving Repr

namespace Feed

/-- The feed with other tokens. -/
def on (f : Feed) (tokens : List Token) : Feed := { f with tokens := tokens }

/-- Names a value. -/
def name (f : Feed) (anchor : List Char) (v : Value) : Feed :=
  { f with anchors := (anchor, v) :: f.anchors }

/-- The value of a name. -/
def named? (f : Feed) (anchor : List Char) : Option Value :=
  (f.anchors.find? fun e => e.1 == anchor).map (·.2)

end Feed

/-! ## Values -/

/-- What stands in front of a value. -/
structure Properties where
  anchor : Option (List Char)
  tag : Option (List Char)
  deriving Repr

/-- Reads the anchor and the tag in front of a value. -/
def readProperties : List Token → Properties × List Token
  | .anchor a :: .tag t :: rest => (⟨some a, some t⟩, rest)
  | .tag t :: .anchor a :: rest => (⟨some a, some t⟩, rest)
  | .anchor a :: rest => (⟨some a, none⟩, rest)
  | .tag t :: rest => (⟨none, some t⟩, rest)
  | tokens => (⟨none, none⟩, tokens)

/-- The key that a value is. Only texts and whole numbers can be keys. -/
def keyOf? : Value → Option String
  | .scalar _ (.text s) => some s
  | .scalar _ (.whole n) => some (Text.Numeral.ofInt n)
  | _ => none

/-- The value of a text. -/
def textValue (origin : Option String) (tag : Option (List Char)) (text : List Char)
    (plain : Bool) : Option Value :=
  if !plain then some (.scalar origin (.text (String.ofList text)))
  else
    ((match tag with
      | some t => Plain.tagged? t text
      | none => Plain.scalar? text).map (.scalar origin))

/-- What may stand in place of a value that is left out. -/
def endsValue : Token → Bool
  | .key | .value | .blockEnd => true
  | _ => false

/-- The entries of a table with one more. -/
def withEntry (es : List (String × Value)) (key value : Value) : Option (List (String × Value)) :=
  (keyOf? key).map fun k => Value.putIn k value es

mutual

/-- Reads a value. `block` allows indentation to begin one, `bare` a list whose items are not
indented. Every token takes at most two of `fuel`, here and in what follows. -/
def readValue (origin : Option String) : Nat → Bool → Bool → Feed → Option (Value × Feed)
  | 0, _, _, _ => none
  | fuel + 1, block, bare, f =>
    match f.tokens with
    | .alias a :: rest => (f.named? a).map fun v => (v, f.on rest)
    | _ =>
      let (p, tokens) := readProperties f.tokens
      let empty : Value := .scalar origin .nothing
      let f := (p.anchor.map fun a => f.name a empty).getD f
      let finish (r : Option (Value × Feed)) : Option (Value × Feed) :=
        r.map fun (v, f) => (v, (p.anchor.map fun a => f.name a v).getD f)
      match tokens with
      | .text t plain :: rest =>
        finish ((textValue origin p.tag t plain).map fun v => (v, f.on rest))
      | .openBracket :: rest =>
        finish ((readFlowItems origin fuel true (f.on rest)).map fun (vs, f) => (.list origin vs, f))
      | .openBrace :: rest =>
        finish ((readFlowEntries origin fuel true [] (f.on rest)).map fun (es, f) =>
          (.table origin es, f))
      | t :: rest =>
        if t == .item && bare then
          finish ((readItems origin fuel false (f.on tokens)).map fun (vs, f) => (.list origin vs, f))
        else if t == .listStart && block then
          finish ((readItems origin fuel true (f.on rest)).map fun (vs, f) => (.list origin vs, f))
        else if t == .tableStart && block then
          finish ((readEntries origin fuel [] (f.on rest)).map fun (es, f) => (.table origin es, f))
        else if p.anchor.isSome || p.tag.isSome then
          finish (some (.scalar origin (.text ""), f.on tokens))
        else none
      | [] =>
        if p.anchor.isSome || p.tag.isSome then finish (some (.scalar origin (.text ""), f.on []))
        else none

/-- Reads the items of a list that is laid out by indentation; the list ends with a token of its
own if it is `indented`. -/
def readItems (origin : Option String) : Nat → Bool → Feed → Option (List Value × Feed)
  | 0, _, _ => none
  | fuel + 1, indented, f =>
    match f.tokens with
    | .item :: rest =>
      let left := match rest with
        | t :: _ => t == Token.item || t == Token.blockEnd || (!indented && endsValue t)
        | [] => false
      let v? : Option (Value × Feed) :=
        if left then some (.scalar origin .nothing, f.on rest)
        else readValue origin fuel true false (f.on rest)
      v?.bind fun (v, f) =>
        (readItems origin fuel indented f).map fun (vs, f) => (v :: vs, f)
    | .blockEnd :: rest => some ([], if indented then f.on rest else f)
    | _ => if indented then none else some ([], f)

/-- Reads what follows the sign of a key or a value. -/
def readPart (origin : Option String) : Nat → Feed → Option (Value × Feed)
  | 0, _ => none
  | fuel + 1, f =>
    match f.tokens with
    | t :: _ =>
      if endsValue t then some (.scalar origin .nothing, f) else readValue origin fuel true true f
    | [] => none

/-- Reads the entries of a table that is laid out by indentation, `es` having come before. -/
def readEntries (origin : Option String) : Nat → List (String × Value) → Feed →
    Option (List (String × Value) × Feed)
  | 0, _, _ => none
  | fuel + 1, es, f =>
    let value (key : Value) (f : Feed) : Option (List (String × Value) × Feed) :=
      let v? : Option (Value × Feed) := match f.tokens with
        | .value :: rest => readPart origin fuel (f.on rest)
        | _ => some (.scalar origin .nothing, f)
      v?.bind fun (v, f) =>
        (withEntry es key v).bind fun es => readEntries origin fuel es f
    match f.tokens with
    | .key :: rest => (readPart origin fuel (f.on rest)).bind fun (key, f) => value key f
    | .value :: _ => value (.scalar origin .nothing) f
    | .blockEnd :: rest => some (es, f.on rest)
    | _ => none

/-- Reads the items between brackets. -/
def readFlowItems (origin : Option String) : Nat → Bool → Feed → Option (List Value × Feed)
  | 0, _, _ => none
  | fuel + 1, first, f =>
    let f? : Option Feed := match f.tokens with
      | .closeBracket :: _ => some f
      | .comma :: rest => if first then some f else some (f.on rest)
      | _ => if first then some f else none
    f?.bind fun f =>
      match f.tokens with
      | .closeBracket :: rest => some ([], f.on rest)
      | .key :: rest =>
        (readFlowPair origin fuel (f.on rest)).bind fun (es, f) =>
          (readFlowItems origin fuel false f).map fun (vs, f) => (.table origin es :: vs, f)
      | _ =>
        (readValue origin fuel false false f).bind fun (v, f) =>
          (readFlowItems origin fuel false f).map fun (vs, f) => (v :: vs, f)

/-- Reads a table of one entry that stands between brackets without braces. -/
def readFlowPair (origin : Option String) : Nat → Feed → Option (List (String × Value) × Feed)
  | 0, _ => none
  | fuel + 1, f =>
    (readValue origin fuel false false f).bind fun (key, f) =>
      let v? : Option (Value × Feed) := match f.tokens with
        | .value :: rest =>
          match rest with
          | .comma :: _ | .closeBracket :: _ => some (.scalar origin .nothing, f.on rest)
          | _ => readValue origin fuel false false (f.on rest)
        | _ => some (.scalar origin .nothing, f)
      v?.bind fun (v, f) => (withEntry [] key v).map fun es => (es, f)

/-- Reads the entries between braces, `es` having come before. -/
def readFlowEntries (origin : Option String) : Nat → Bool → List (String × Value) → Feed →
    Option (List (String × Value) × Feed)
  | 0, _, _, _ => none
  | fuel + 1, first, es, f =>
    let nothing : Value := .scalar origin .nothing
    let next (key value : Value) (f : Feed) : Option (List (String × Value) × Feed) :=
      (withEntry es key value).bind fun es => readFlowEntries origin fuel false es f
    let value (key : Value) (f : Feed) : Option (List (String × Value) × Feed) :=
      match f.tokens with
      | .value :: rest =>
        match rest with
        | .comma :: _ | .closeBrace :: _ => next key nothing (f.on rest)
        | _ => (readValue origin fuel false false (f.on rest)).bind fun (v, f) => next key v f
      | _ => next key nothing f
    let f? : Option Feed := match f.tokens with
      | .closeBrace :: _ => some f
      | .comma :: rest => if first then some f else some (f.on rest)
      | _ => if first then some f else none
    f?.bind fun f =>
      match f.tokens with
      | .closeBrace :: rest => some (es, f.on rest)
      | .key :: rest =>
        match rest with
        | .value :: _ | .comma :: _ | .closeBrace :: _ => value nothing (f.on rest)
        | _ => (readValue origin fuel false false (f.on rest)).bind fun (key, f) => value key f
      | .value :: _ => value nothing f
      | _ => (readValue origin fuel false false f).bind fun (key, f) => next key nothing f

end

/-! ## Documents -/

/-- The tokens after marks that end a document. -/
def skipEnds : List Token → List Token
  | .documentEnd :: rest => skipEnds rest
  | tokens => tokens

/-- The tokens after directives, and whether there were any. -/
def skipDirectives : List Token → Bool × List Token
  | .directive :: rest => (true, (skipDirectives rest).2)
  | tokens => (false, tokens)

/-- Reads the value of a document. -/
def readDocument (origin : Option String) (tokens : List Token) : Option (Value × List Token) :=
  let value (tokens : List Token) : Option (Value × List Token) :=
    (readValue origin (2 * tokens.length + 2) true false ⟨tokens, []⟩).map fun (v, f) =>
      (v, f.tokens)
  let (directed, tokens) := skipDirectives tokens
  match tokens with
  | .documentStart :: rest =>
    match rest with
    | [] | .directive :: _ | .documentStart :: _ | .documentEnd :: _ =>
      some (.scalar origin .nothing, rest)
    | _ => value rest
  | _ => if directed then none else value tokens

/-- The value of a YAML text: an empty one holds an empty table. -/
def read (origin : Option String) (text : String) : Option Value :=
  (Token.scan text).bind fun tokens =>
    if tokens.isEmpty then some (.table origin [])
    else
      (readDocument origin tokens).bind fun (v, rest) =>
        if (skipEnds rest).isEmpty then some v else none

end PushToTalk.Config.Yaml

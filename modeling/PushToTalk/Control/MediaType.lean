/-
  Media types, as far as it takes to tell whether a request's body is JSON.

  A media type is a type, a slash, a subtype and maybe parameters.  A plus sign inside the
  subtype separates a suffix from it.  Type and subtype do not depend on case.
-/

namespace PushToTalk.Control.MediaType

/-- The characters of a token. -/
def isToken (c : Char) : Bool :=
  c.isAlphanum || "!#$%&'*+-.^_\x60|~".toList.contains c

/-- A character that may stand between the quotes of a parameter's value. -/
def isQuotable (c : Char) : Bool := ' ' ≤ c && c < '\x7f'

/-- What comes after a quoted value: the next parameter or the end. -/
def afterQuote : List Char → Option (List Char)
  | [] => some []
  | ';' :: rest => some rest
  | ' ' :: rest => afterQuote rest
  | _ => none

/-- Passes over the rest of a quoted value.  At least one character stands between the quotes, so
the first one belongs to the value even if it is a quote itself. -/
def skipQuoted : List Char → Option (List Char)
  | [] => none
  | first :: rest =>
    if isQuotable first then
      match rest.dropWhile fun c => isQuotable c && c != '"' with
      | '"' :: after => afterQuote after
      | _ => none
    else none

/-- Passes over the value of a parameter; nothing if it is malformed. -/
def skipValue (s : List Char) : Option (List Char) :=
  match s with
  | '"' :: rest => skipQuoted rest
  | _ =>
    let value := s.takeWhile isToken
    match s.dropWhile isToken with
    | [] => some []
    | ';' :: rest => if value.isEmpty then none else some rest
    | _ => none

/-- Whether the parameters are well-formed; `fuel` counts the characters that are left. -/
def parametersOk : Nat → List Char → Bool
  | 0, s => s.isEmpty
  | fuel + 1, s =>
    match s with
    | [] => true
    | ' ' :: rest => parametersOk fuel rest
    | _ =>
      let name := s.takeWhile isToken
      match s.dropWhile isToken with
      | '=' :: rest =>
        if name.isEmpty then false
        else match skipValue rest with
          | some after => parametersOk fuel after
          | none => false
      | _ => false

/-- Divides a subtype at its last plus sign; one at the very front does not count. -/
def divideSubtype (s : List Char) : List Char × Option (List Char) :=
  let last := s.reverse.takeWhile (· != '+')
  if last.length = s.length || last.length + 1 = s.length then (s, none)
  else ((s.reverse.drop (last.length + 1)).reverse, some last.reverse)

/-- Whether two texts are the same but for the case of ASCII letters. -/
def sameWord (a : List Char) (b : String) : Bool := a.map Char.toLower == b.toList

/-- Whether the text is a media type for JSON: `application/json`, or an `application` subtype
whose suffix is `json`. -/
def isJson (text : String) : Bool :=
  let s := text.toList
  let kind := s.takeWhile isToken
  match s.dropWhile isToken with
  | '/' :: rest =>
    let subtype := rest.takeWhile isToken
    let after := rest.dropWhile isToken
    let rightEnd := match after with
      | [] => true
      | ';' :: parameters => !subtype.isEmpty && parametersOk parameters.length parameters
      | _ => false
    let (base, suffix) := divideSubtype subtype
    !kind.isEmpty && rightEnd && sameWord kind "application"
      && (sameWord base "json" || (suffix.map (sameWord · "json")).getD false)
  | _ => false

end PushToTalk.Control.MediaType

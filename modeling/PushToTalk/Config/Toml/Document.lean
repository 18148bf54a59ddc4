import PushToTalk.Config.Toml.Date
import PushToTalk.Config.Toml.Node
import PushToTalk.Config.Toml.Number

/-
  Reading a TOML file.

  The tokens are read into blocks, and the blocks build up the tables.  A file with any mistake
  is refused as a whole; what the mistake was is not kept.
-/

namespace PushToTalk.Config.Toml

namespace Document

/-! ## Blanks, line ends and keys -/

/-- The tokens after a blank. -/
def skipGap : List Token → List Token
  | .gap _ :: rest => rest
  | tokens => tokens

/-- The tokens after blanks, comments and line ends. -/
def skipLines : List Token → List Token
  | .gap _ :: rest => skipLines rest
  | .newline :: rest => skipLines rest
  | [.comment] => []
  | .comment :: .newline :: rest => skipLines rest
  | tokens => tokens

/-- Reads the end of a line. -/
def endLine (tokens : List Token) : Option (List Token) :=
  match skipGap tokens with
  | [] | [.comment] => some []
  | .newline :: rest => some rest
  | .comment :: .newline :: rest => some rest
  | _ => none

/-- Reads one name of a key. -/
def readName : List Token → Option (String × List Token)
  | .word w :: rest => some (String.ofList w, rest)
  | .text t false :: rest => some (String.ofList t, rest)
  | _ => none

/-- Reads the names behind the first one of a key. -/
def readMoreNames : List Token → Option (List String × List Token)
  | .gap _ :: rest => readMoreNames rest
  | .period :: .gap _ :: name :: rest =>
    (readName [name]).bind fun (n, _) => (readMoreNames rest).map fun (ns, rest) => (n :: ns, rest)
  | .period :: name :: rest =>
    (readName [name]).bind fun (n, _) => (readMoreNames rest).map fun (ns, rest) => (n :: ns, rest)
  | [.period] => none
  | tokens => some ([], tokens)

/-- Reads a key, and the blank behind it. -/
def readKey (tokens : List Token) : Option (List String × List Token) :=
  (readName tokens).bind fun (n, rest) => (readMoreNames rest).map fun (ns, rest) => (n :: ns, rest)

/-- Reads a key and the sign for equality, with the blanks around it. -/
def readKeyEquals (tokens : List Token) : Option (List String × List Token) :=
  (readKey tokens).bind fun (key, rest) =>
    match rest with
    | .equals :: rest => some (key, skipGap rest)
    | _ => none

/-! ## Values -/

/-- Whether a word begins a date. -/
def isDate (word : List Char) : Bool :=
  let hasExponent := (word.zip (word.drop 1)).any fun p => (p.1 == 'e' || p.1 == 'E') && p.2 == '-'
  word.contains 'T' || word.contains 't' || ((word.drop 1).contains '-' && !hasExponent)

/-- Reads the value that begins with a word. -/
def readBare (word : List Char) (tokens : List Token) : Option (Scalar × List Token) :=
  match String.ofList word with
  | "true" => some (.truth true, tokens)
  | "false" => some (.truth false, tokens)
  | s =>
    let begins := match word with
      | c :: _ => c == '-' || Text.Numeral.isDigit c
      | [] => false
    let text (r : Option (String × List Token)) : Option (Scalar × List Token) :=
      r.map fun (d, rest) => (.text d, rest)
    if !begins && s != "inf" && s != "nan" then none
    else if isDate word then text (Date.read word tokens)
    else match tokens with
      | .colon :: rest => text (Date.readTime word rest)
      | _ => Number.read word tokens

mutual

/-- Reads a value. Every token takes at most two of `fuel`, here and in what follows. -/
def readValue : Nat → List Token → Option (Node × List Token)
  | 0, _ => none
  | fuel + 1, tokens =>
    let scalar (r : Option (Scalar × List Token)) : Option (Node × List Token) :=
      r.map fun (s, rest) => (.scalar s, rest)
    match tokens with
    | .text t _ :: rest => some (.scalar (.text (String.ofList t)), rest)
    | .word w :: rest => scalar (readBare w rest)
    | .plus :: .word w :: rest => scalar (Number.read w rest)
    | .openBrace :: rest =>
      match skipGap rest with
      | .closeBrace :: rest => some (.braced [], rest)
      | rest => (readBraced fuel [] rest).map fun (es, rest) => (.braced es, rest)
    | .openBracket :: rest => (readItems fuel rest).map fun (items, rest) => (.list items, rest)
    | _ => none

/-- Reads the entries of a table in braces, `es` having come before. -/
def readBraced : Nat → Entries → List Token → Option (Entries × List Token)
  | 0, _, _ => none
  | fuel + 1, es, tokens => do
    let (key, rest) ← readKeyEquals tokens
    let (value, rest) ← readValue fuel rest
    let es ← es.add value key
    match skipGap rest with
    | .closeBrace :: rest => some (es, rest)
    | .comma :: rest => readBraced fuel es (skipGap rest)
    | _ => none

/-- Reads the items of a list. -/
def readItems : Nat → List Token → Option (List Node × List Token)
  | 0, _ => none
  | fuel + 1, tokens =>
    match skipLines tokens with
    | .closeBracket :: rest => some ([], rest)
    | tokens => do
      let (item, rest) ← readValue fuel tokens
      match skipLines rest with
      | .comma :: rest => (readItems fuel rest).map fun (items, rest) => (item :: items, rest)
      | .closeBracket :: rest => some ([item], rest)
      | _ => none

end

/-! ## Blocks -/

/-- Reads a header from behind its first bracket. -/
def readHeader (tokens : List Token) : Option (List String × Bool × List Token) :=
  let (row, tokens) := match tokens with
    | .openBracket :: rest => (true, rest)
    | _ => (false, tokens)
  (readKey (skipGap tokens)).bind fun (key, rest) =>
    match row, rest with
    | true, .closeBracket :: .closeBracket :: rest => (endLine rest).map fun rest => (key, true, rest)
    | false, .closeBracket :: rest => (endLine rest).map fun rest => (key, false, rest)
    | _, _ => none

/-- Reads the rest of a file, `block` having been begun. -/
def readBlocks : Nat → Block → List Token → Option (List Block)
  | 0, _, _ => none
  | fuel + 1, block, tokens =>
    match skipLines tokens with
    | [] => some [block]
    | .openBracket :: rest =>
      (readHeader rest).bind fun (header, row, rest) =>
        (readBlocks fuel ⟨header, row, []⟩ rest).map (block :: ·)
    | tokens => do
      let (key, rest) ← readKeyEquals tokens
      let (value, rest) ← readValue (2 * rest.length + 1) rest
      let entries ← block.entries.add value key
      let rest ← endLine rest
      readBlocks fuel { block with entries } rest

/-- The blocks of a file. -/
def readAll (tokens : List Token) : Option (List Block) :=
  readBlocks (tokens.length + 1) ⟨[], false, []⟩ tokens

end Document

/-- The entries at the top of a TOML text. -/
def read (origin : Option String) (text : String) : Option (List (String × Value)) :=
  (((Token.scan text).bind Document.readAll).bind Block.build).map (valuesOfEntries origin)

end PushToTalk.Config.Toml

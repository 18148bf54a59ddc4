import PushToTalk.Config.Value

/-
  The tables that a TOML file builds up.

  A file is a row of blocks, each a header and the entries below it.  Headers and keys with
  periods make tables on the way to where they lead, and how a table was made decides what may
  still be added to it: a table in braces is complete, one made by a key grows only with keys of
  the same block, one made on the way to a header may still get a header of its own, once.
-/

namespace PushToTalk.Config.Toml

/-- A value, or a table together with how it was made. -/
inductive Node
  | scalar (value : Scalar)
  | list (items : List Node)
  /-- A table in braces. -/
  | braced (entries : List (String × Node))
  /-- A table on the way of a key with periods. -/
  | keyed (entries : List (String × Node))
  /-- A table of headers; `named` once it had a header of its own. -/
  | headed (named : Bool) (entries : List (String × Node))
  /-- A list of tables with headers in double brackets, the last one first. -/
  | rows (tables : List (List (String × Node)))
  deriving Repr

instance : Inhabited Node := ⟨.list []⟩

/-- Keys with their nodes. -/
abbrev Entries := List (String × Node)

namespace Entries

/-- What a key leads to. -/
def find? (es : Entries) (key : String) : Option Node :=
  (List.find? (fun e : String × Node => e.1 == key) es).map (·.2)

/-- Replaces what a key leads to. -/
def replace (es : Entries) (key : String) (node : Node) : Entries :=
  es.map fun e => if e.1 == key then (key, node) else e

/-- Adds a value under a key with periods; a key is taken only once. -/
def add (value : Node) : List String → Entries → Option Entries
  | [], _ => none
  | [key], es => if (es.find? key).isSome then none else some (es ++ [(key, value)])
  | key :: path, es =>
    match es.find? key with
    | none => (add value path []).map fun inner => es ++ [(key, .keyed inner)]
    | some (.keyed inner) => (add value path inner).map fun inner => es.replace key (.keyed inner)
    | some _ => none

/-- Joins the entries of two blocks for one table; no key may be in both. -/
def join (es more : Entries) : Option Entries :=
  if more.any fun e => (es.find? e.1).isSome then none else some (es ++ more)

end Entries

/-- A header with the entries below it. -/
structure Block where
  header : List String
  /-- Whether the header stands in double brackets. -/
  row : Bool
  entries : Entries
  deriving Repr

namespace Block

/-- Puts the entries of a block where the header leads. -/
def place (row : Bool) (own : Entries) : List String → Entries → Option Entries
  | [], es => es.join own
  | [key], es =>
    match es.find? key with
    | none => some (es ++ [(key, if row then .rows [own] else .headed true own)])
    | some (.headed false inner) =>
      if row then none else (Entries.join inner own).map fun joined => es.replace key (.headed true joined)
    | some (.rows tables) => if row then some (es.replace key (.rows (own :: tables))) else none
    | some _ => none
  | key :: path, es =>
    match es.find? key with
    | none => (place row own path []).map fun inner => es ++ [(key, .headed false inner)]
    | some (.headed named inner) =>
      (place row own path inner).map fun inner => es.replace key (.headed named inner)
    | some (.rows (table :: tables)) =>
      (place row own path table).map fun table => es.replace key (.rows (table :: tables))
    | some _ => none

/-- The tables that blocks build up one after the other. -/
def build (blocks : List Block) : Option Entries :=
  blocks.foldlM (fun es b => place b.row b.entries b.header es) []

end Block

/-! ## Values -/

mutual

/-- The value of a node of a file. -/
def Node.value (origin : Option String) : Node → Value
  | .scalar s => .scalar origin s
  | .list items => .list origin (valuesOfItems origin items)
  | .braced es => .table origin (valuesOfEntries origin es)
  | .keyed es => .table origin (valuesOfEntries origin es)
  | .headed _ es => .table origin (valuesOfEntries origin es)
  | .rows tables => .list origin (valuesOfRows origin tables).reverse

/-- The values of the items of a list. -/
def valuesOfItems (origin : Option String) : List Node → List Value
  | [] => []
  | n :: rest => n.value origin :: valuesOfItems origin rest

/-- The values of the entries of a table. -/
def valuesOfEntries (origin : Option String) : List (String × Node) → List (String × Value)
  | [] => []
  | (key, n) :: rest => (key, n.value origin) :: valuesOfEntries origin rest

/-- The values of the tables of a list. -/
def valuesOfRows (origin : Option String) : List (List (String × Node)) → List Value
  | [] => []
  | t :: rest => .table origin (valuesOfEntries origin t) :: valuesOfRows origin rest

end

end PushToTalk.Config.Toml

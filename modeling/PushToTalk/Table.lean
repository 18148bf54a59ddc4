/-
  Finite tables: keys with one value each, in the order in which the keys first came in.

  Keys are compared with `==`, so that two spellings of one key share an entry; the entry keeps
  the spelling that it was made with.
-/

namespace PushToTalk

/-- A table from keys to values. -/
structure Table (κ : Type) (α : Type) where
  /-- The entries in the order in which their keys came in. -/
  entries : List (κ × α)
  deriving Repr

namespace Table

variable {κ α : Type}

/-- The table without entries. -/
def empty : Table κ α := ⟨[]⟩

instance : Inhabited (Table κ α) := ⟨empty⟩

/-- How many keys the table holds. -/
def size (t : Table κ α) : Nat := t.entries.length

/-- The keys in order. -/
def keys (t : Table κ α) : List κ := t.entries.map (·.1)

/-- The values in order. -/
def values (t : Table κ α) : List α := t.entries.map (·.2)

variable [BEq κ]

/-- The value stored under a key. -/
def get? (t : Table κ α) (k : κ) : Option α :=
  (t.entries.find? fun e => e.1 == k).map (·.2)

/-- Whether a key has an entry. -/
def has (t : Table κ α) (k : κ) : Bool := t.entries.any fun e => e.1 == k

/-- Replaces the value of the first entry whose key equals `k`, or adds an entry at the end. -/
def putIn (k : κ) (a : α) : List (κ × α) → List (κ × α)
  | [] => [(k, a)]
  | e :: rest => if e.1 == k then (e.1, a) :: rest else e :: putIn k a rest

/-- Stores a value under a key. -/
def put (t : Table κ α) (k : κ) (a : α) : Table κ α := ⟨putIn k a t.entries⟩

/-- Removes the entry of a key. -/
def erase (t : Table κ α) (k : κ) : Table κ α := ⟨t.entries.filter fun e => !(e.1 == k)⟩

/-- Applies a function to every value. -/
def map {β : Type} (f : κ → α → β) (t : Table κ α) : Table κ β :=
  ⟨t.entries.map fun e => (e.1, f e.1 e.2)⟩

end Table

end PushToTalk

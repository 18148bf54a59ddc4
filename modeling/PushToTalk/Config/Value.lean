import PushToTalk.Text.Numeral

/-
  Configuration values.

  Whatever the format of a configuration file, reading it gives a tree of scalars, lists and
  tables.  Every value may know the file that it came from, for the sake of messages.

  Tables of several sources are laid over one another: `Value.lay` goes into tables on both sides
  and replaces everything else.

  Main statements: `lookup?_put_self` and `lookup?_put_of_ne`, storing under a key changes that key
  and no other.
-/

namespace PushToTalk.Config

/-- A value without parts. -/
inductive Scalar
  | nothing
  | truth (b : Bool)
  /-- A whole number of 64 bits. -/
  | whole (n : Int)
  | real (x : Float)
  | text (s : String)
  deriving Repr

/-- A value of a configuration; `origin` is the file that it came from. -/
inductive Value
  | scalar (origin : Option String) (value : Scalar)
  | list (origin : Option String) (items : List Value)
  | table (origin : Option String) (entries : List (String × Value))
  deriving Repr

namespace Value

/-- The value that stands for nothing. -/
def nothing : Value := .scalar none .nothing

instance : Inhabited Value := ⟨nothing⟩

/-- A table made on the way, without a file of its own. -/
def made : Value := .table none []

/-- The entries of a table; anything else has none. -/
def entries : Value → List (String × Value)
  | .table _ es => es
  | _ => []

/-- The items of a list; anything else has none. -/
def items : Value → List Value
  | .list _ vs => vs
  | _ => []

/-- Stores a value under a key, in the place of the one before. -/
def putIn (key : String) (value : Value) : List (String × Value) → List (String × Value)
  | [] => [(key, value)]
  | e :: rest => if e.1 == key then (key, value) :: rest else e :: putIn key value rest

/-- The value under a key. -/
def lookup? (v : Value) (key : String) : Option Value :=
  (v.entries.find? fun e => e.1 == key).map (·.2)

/-- Stores a value under a key of a table; anything else becomes a table first. -/
def put (v : Value) (key : String) (value : Value) : Value :=
  match v with
  | .table origin es => .table origin (putIn key value es)
  | _ => .table none [(key, value)]

/-- What is put in is found under its key. -/
theorem find_putIn_self (key : String) (value : Value) (es : List (String × Value)) :
    ((putIn key value es).find? fun e => e.1 == key) = some (key, value) := by
  induction es with
  | nil => simp [putIn]
  | cons e rest ih =>
    rw [putIn]
    split
    · simp
    · next h => rw [List.find?_cons_of_neg (by simpa using h), ih]

/-- Under all other keys is found what was found before. -/
theorem find_putIn_of_ne {key other : String} (h : other ≠ key) (value : Value)
    (es : List (String × Value)) :
    ((putIn key value es).find? fun e => e.1 == other) = es.find? fun e => e.1 == other := by
  have hn : ¬ (key == other) = true := by simpa using Ne.symm h
  induction es with
  | nil => simp [putIn, Ne.symm h]
  | cons e rest ih =>
    rw [putIn]
    split
    · next he =>
      have hne : ¬ (e.1 == other) = true := by
        rw [beq_iff_eq] at he
        rw [he]
        exact hn
      rw [List.find?_cons_of_neg (by simpa using hn), List.find?_cons_of_neg (by simpa using hne)]
    · rw [List.find?_cons, List.find?_cons, ih]

/-- What was stored under a key is found under it. -/
theorem lookup?_put_self (v : Value) (key : String) (value : Value) :
    (v.put key value).lookup? key = some value := by
  cases v with
  | table origin es => simp [put, lookup?, entries, find_putIn_self]
  | scalar origin s => simp [put, lookup?, entries]
  | list origin vs => simp [put, lookup?, entries]

/-- Storing under a key leaves the other keys alone. -/
theorem lookup?_put_of_ne {key other : String} (h : other ≠ key) (v value : Value) :
    (v.put key value).lookup? other = v.lookup? other := by
  cases v with
  | table origin es => simp [put, lookup?, entries, find_putIn_of_ne h]
  | scalar origin s => simp [put, lookup?, entries, Ne.symm h]
  | list origin vs => simp [put, lookup?, entries, Ne.symm h]

mutual

/-- Lays a value over another: tables entry by entry, anything else by replacing. -/
def lay (below : Option Value) : Value → Value
  | .table _ es => layAll (below.getD made) es
  | v => v

/-- Lays entries over a table. -/
def layAll (below : Value) : List (String × Value) → Value
  | [] => below
  | (key, v) :: rest => layAll (below.put key (lay (below.lookup? key) v)) rest

end

end Value

end PushToTalk.Config

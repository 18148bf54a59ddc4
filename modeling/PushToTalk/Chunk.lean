import PushToTalk.Disk

/-
  Cutting a file into chunks that the backend accepts.

  Main statements: `chunkCount_eq_zero_iff` and `length_cut`.
-/

namespace PushToTalk.Chunk

/-- The largest body that the backend accepts: 100 KiB. -/
def size : Nat := 102400

/-- How many chunks a file of `bytes` bytes needs; the last may be shorter. -/
def count (bytes : Nat) : Nat :=
  bytes / size + (if bytes % size = 0 then 0 else 1)

/-- Takes `n` chunks off the front of a file, one after the other. -/
def cut : Nat → Bytes → List Bytes
  | 0, _ => []
  | n + 1, bytes => bytes.take size :: cut n (bytes.drop size)

/-- The chunks of a file, as many as its length asks for. -/
def ofFile (bytes : Bytes) : List Bytes := cut (count bytes.length) bytes

/-- The chunks of the file at a path. -/
def read (d : Disk) (p : Path) : Except Disk.Trouble (List Bytes) :=
  match d.read p with
  | .ok bytes => .ok (ofFile bytes)
  | .error trouble => .error trouble

/-- As many chunks are cut off as are asked for. -/
theorem length_cut (n : Nat) (bytes : Bytes) : (cut n bytes).length = n := by
  induction n generalizing bytes with
  | zero => rfl
  | succ n ih => simp [cut, ih]

/-- Only an empty file has no chunks. -/
theorem chunkCount_eq_zero_iff (n : Nat) : count n = 0 ↔ n = 0 := by
  unfold count size
  constructor
  · intro h
    split at h <;> omega
  · rintro rfl
    rfl

end PushToTalk.Chunk

import PushToTalk.Chunk

/-
  The chunks of a file: none is empty, none is too large, and together they are the file.

  The backend is told how many chunks to expect before the first of them is sent, and gets them one
  after the other.  So the number has to be right, and the chunks behind each other have to be the
  bytes of the file.

  1. **How many chunks** — there is one number of chunks that holds the file and leaves none of them
     empty (`suffices_iff`).  The machine computes it in 64 bits from a quotient and a remainder;
     one more than the quotient is still far from the top of 64 bits, so nothing overflows
     (`toNat_countWord`).

  2. **What is cut off** — by induction on the number of chunks: they follow each other without gaps
     (`flatten_cut`), and a chunk is short only where nothing is left behind it
     (`length_of_mem_dropLast_cut`).  The hypothesis that is carried along is that no more are cut
     than needed: `n * size < bytes.length + size`.

  How the chunks are sent, and what the backend answers, is the matter of `Upload.Step`.

  Main statements: `flatten_ofFile`, `length_of_mem_ofFile` and `read_partitions`.
-/

namespace PushToTalk.Chunk

/-! ## How many chunks -/

/-- As many chunks as needed, and not one more. -/
theorem count_spec (n : Nat) : n ≤ count n * size ∧ count n * size < n + size := by
  unfold count size
  split <;> omega

/-- The number of chunks that holds a file and leaves none of them empty. -/
def Suffices (bytes chunks : Nat) : Prop :=
  if bytes = 0 then chunks = 0 else (chunks - 1) * size < bytes ∧ bytes ≤ chunks * size

/-- There is one such number. -/
theorem suffices_iff {bytes chunks : Nat} : Suffices bytes chunks ↔ chunks = count bytes := by
  unfold Suffices
  by_cases hbytes : bytes = 0
  · rw [if_pos hbytes, (chunkCount_eq_zero_iff bytes).2 hbytes]
  rw [if_neg hbytes]
  unfold count size
  split <;> omega

/-- What the machine computes in 64 bits: the quotient, and one more if something is left over. -/
def countWord (bytes : UInt64) : UInt64 :=
  if 0 < bytes % 102400 then bytes / 102400 + 1 else bytes / 102400

/-- The quotient is so far from the top of 64 bits that one more always fits. -/
theorem quotient_lt (bytes : UInt64) : (bytes / 102400).toNat + 1 < UInt64.size := by
  have hlt : bytes.toNat < UInt64.size := UInt64.toNat_lt_size bytes
  have hdiv : (bytes / 102400).toNat = bytes.toNat / 102400 := UInt64.toNat_div bytes 102400
  rw [hdiv]
  unfold UInt64.size at hlt ⊢
  omega

/-- The machine's number of chunks is the number of chunks, whatever the size of the file. -/
theorem toNat_countWord (bytes : UInt64) : (countWord bytes).toNat = count bytes.toNat := by
  have hdiv : (bytes / 102400).toNat = bytes.toNat / size := UInt64.toNat_div bytes 102400
  have hmod : (bytes % 102400).toNat = bytes.toNat % size := UInt64.toNat_mod bytes 102400
  have hfits : (bytes / 102400 + 1).toNat = (bytes / 102400).toNat + 1 :=
    (UInt64.toNat_add _ 1).trans (Nat.mod_eq_of_lt (quotient_lt bytes))
  have hrest : 0 < bytes % 102400 ↔ ¬bytes.toNat % size = 0 := by
    rw [UInt64.lt_iff_toNat_lt, hmod]
    exact Nat.pos_iff_ne_zero
  unfold countWord count
  by_cases hzero : bytes.toNat % size = 0
  · rw [if_neg (fun h => hrest.1 h hzero), if_pos hzero, hdiv, Nat.add_zero]
  · rw [if_pos (hrest.2 hzero), if_neg hzero, hfits, hdiv]

/-! ## What is cut off -/

/-- Chunks are taken off the front without gaps. -/
theorem flatten_cut (n : Nat) (bytes : Bytes) : (cut n bytes).flatten = bytes.take (n * size) := by
  induction n generalizing bytes with
  | zero => simp [cut]
  | succ n ih => rw [cut, List.flatten_cons, ih, Nat.succ_mul, Nat.add_comm, List.take_add]

/-- Together the chunks are the file. -/
theorem flatten_ofFile (bytes : Bytes) : (ofFile bytes).flatten = bytes := by
  unfold ofFile
  rw [flatten_cut, List.take_of_length_le (count_spec bytes.length).1]

/-- A chunk is never empty as long as no more are cut than needed, and never too large. -/
theorem length_of_mem_cut {n : Nat} {bytes chunk : Bytes} (h : n * size < bytes.length + size)
    (hc : chunk ∈ cut n bytes) : 1 ≤ chunk.length ∧ chunk.length ≤ size := by
  induction n generalizing bytes with
  | zero => cases hc
  | succ n ih =>
    rw [Nat.succ_mul] at h
    rw [cut] at hc
    rcases List.mem_cons.1 hc with rfl | hlater
    · have hpos : 1 ≤ size := by decide
      rw [List.length_take]
      omega
    · refine ih ?_ hlater
      rw [List.length_drop]
      -- when the first chunk takes everything there is no later one
      by_cases hl : size ≤ bytes.length
      · omega
      · have hn : n = 0 := by
          have hlt : n * size < 1 * size := by omega
          have := Nat.lt_of_mul_lt_mul_right hlt
          omega
        rw [hn] at hlater
        cases hlater

/-- A chunk of a file has between one byte and the most that the backend accepts. -/
theorem length_of_mem_ofFile {bytes chunk : Bytes} (hc : chunk ∈ ofFile bytes) :
    1 ≤ chunk.length ∧ chunk.length ≤ size :=
  length_of_mem_cut (count_spec bytes.length).2 hc

/-- Every chunk that has another one behind it is full. -/
theorem length_of_mem_dropLast_cut {n : Nat} {bytes chunk : Bytes}
    (h : n * size < bytes.length + size) (hc : chunk ∈ (cut n bytes).dropLast) :
    chunk.length = size := by
  induction n generalizing bytes with
  | zero => cases hc
  | succ n ih =>
    cases n with
    | zero => cases hc
    | succ n =>
      have hlonger : size ≤ bytes.length := by
        rw [Nat.succ_mul, Nat.succ_mul] at h
        omega
      rw [cut, List.dropLast_cons_of_ne_nil (by simp [cut])] at hc
      rcases List.mem_cons.1 hc with rfl | hlater
      · exact List.length_take_of_le hlonger
      · refine ih ?_ hlater
        rw [Nat.succ_mul] at h
        rw [List.length_drop]
        omega

/-- A file that can be read is read as its chunks. -/
theorem read_eq_ok {d : Disk} {p : Path} {chunks : List Bytes} :
    read d p = .ok chunks ↔ ∃ bytes, d.read p = .ok bytes ∧ chunks = ofFile bytes := by
  unfold read
  cases d.read p with
  | ok bytes => simp [eq_comm]
  | error why => simp

/-- A file that cannot be read has no chunks, and the trouble is passed on as it is. -/
theorem read_eq_error {d : Disk} {p : Path} {why : Disk.Trouble} :
    read d p = .error why ↔ d.read p = .error why := by
  unfold read
  cases d.read p with
  | ok bytes => simp
  | error trouble => simp

/-- A file is partitioned exactly. The number of chunks is the one that holds the file and leaves
    none of them empty, and the machine computes it without an overflow; the chunks that are read
    are as many, they are the file one after the other, all but the last are full, and the last
    one is neither empty nor too large. -/
theorem read_partitions :
    (∀ s : UInt64, (s / 102400).toNat + 1 < UInt64.size ∧ (countWord s).toNat = count s.toNat ∧
      ∀ c, Suffices s.toNat c ↔ c = count s.toNat) ∧
    ∀ (d : Disk) (p : Path) (bytes : Bytes), d.read p = .ok bytes →
      ∃ chunks, read d p = .ok chunks ∧ chunks.length = count bytes.length ∧
        chunks.flatten = bytes ∧ (∀ chunk ∈ chunks.dropLast, chunk.length = size) ∧
        (∀ chunk ∈ chunks.getLast?, 1 ≤ chunk.length ∧ chunk.length ≤ size) ∧
        ∀ chunk ∈ chunks, chunk ≠ [] ∧ chunk.length ≤ size := by
  refine ⟨fun s => ⟨quotient_lt s, toNat_countWord s, fun c => suffices_iff⟩, ?_⟩
  intro d p bytes hread
  refine ⟨ofFile bytes, read_eq_ok.2 ⟨bytes, hread, rfl⟩, length_cut _ bytes,
    flatten_ofFile bytes, ?_, ?_, ?_⟩
  · intro chunk hc
    exact length_of_mem_dropLast_cut (count_spec bytes.length).2 hc
  · intro chunk hc
    exact length_of_mem_ofFile (List.mem_of_getLast? hc)
  · intro chunk hc
    have hlength := length_of_mem_ofFile hc
    exact ⟨List.ne_nil_of_length_pos hlength.1, hlength.2⟩

/-- A disk with one recording on it, in the topmost directory. -/
def single (bytes : Bytes) : Disk := Disk.blank.set ["1-a.wav"] (.file bytes)

/-- The recording on that disk is read as it is. -/
theorem read_single (bytes : Bytes) : (single bytes).read ⟨["1-a.wav"]⟩ = .ok bytes := by
  have hroot : (single bytes).isDirectoryAt [] = true := rfl
  have hentry : (single bytes).at? ["1-a.wav"] = some (.file bytes) := rfl
  have hidle : Path.isIdle "1-a.wav" = false := by decide
  have hplace : (single bytes).resolve ⟨["1-a.wav"]⟩ = .ok ["1-a.wav"] := by
    simp [Disk.resolve, Disk.walk, hroot, hentry, hidle]
  unfold Disk.read Disk.find
  rw [hplace]
  rfl

/-- One byte more than the backend accepts at once makes two chunks. -/
theorem read_partitions_sample :
    ∃ chunks, read (single (List.replicate 102401 7)) ⟨["1-a.wav"]⟩ = .ok chunks ∧
      chunks.length = 2 ∧ chunks.flatten = List.replicate 102401 7 ∧
        (∀ chunk ∈ chunks.dropLast, chunk.length = size) ∧
        (∀ chunk ∈ chunks.getLast?, 1 ≤ chunk.length ∧ chunk.length ≤ size) ∧
        ∀ chunk ∈ chunks, chunk ≠ [] ∧ chunk.length ≤ size := by
  have hcount : count 102401 = 2 := by decide
  have hparts := read_partitions.2 _ _ _ (read_single (List.replicate 102401 7))
  rw [List.length_replicate, hcount] at hparts
  exact hparts

end PushToTalk.Chunk

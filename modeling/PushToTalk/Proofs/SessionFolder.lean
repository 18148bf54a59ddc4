import PushToTalk.Folder
import PushToTalk.Proofs.Path

/-
  Session folders and the recordings in them, as paths.

  Everything that is known of a recording is known by its path: which session it belongs to, and
  which job has it.  Two sessions with different numbers have different folders, and no recording
  lies in both.  A scan lists nothing but plain entries of the folders that it is given.

  1. **Names** — a numeral can be read back, so the name of a session folder gives its number
     (`sessionName_injective`), and with it its path does (`sessionFolder_beq`).

  2. **Recordings** — an entry counts if its extension does.  What a dot or two behind a session
     folder lead to has no extension, so the name of a recording is plain (`isPlain_of_wav`).

  Two paths that are different may lead to one place on the disk; for that see `Disk.Way`.

  Main statements: `sessionFolder_beq`, `recordingsIn_spec` and `session_of_recording`.
-/

namespace PushToTalk

open PushToTalk.Path (IsPlain)

/-! ## Names -/

/-- The name of a session folder. -/
def sessionName (index : Nat) : String := "voice" ++ Text.Numeral.ofNat index

/-- The name of a session folder, character by character. -/
theorem sessionName_toList (index : Nat) :
    (sessionName index).toList = 'v' :: 'o' :: 'i' :: 'c' :: 'e' :: Text.Numeral.digits index := by
  simp [sessionName, Text.Numeral.ofNat]

/-- Different sessions have folders of different names. -/
theorem sessionName_injective {m n : Nat} (h : sessionName m = sessionName n) : m = n := by
  have hl := congrArg String.toList h
  rw [sessionName_toList, sessionName_toList] at hl
  have hd : Text.Numeral.digits m = Text.Numeral.digits n := by simpa using hl
  rw [← Text.Numeral.value_digits m, hd, Text.Numeral.value_digits]

/-- The name of a session folder names an entry. -/
theorem isPlain_sessionName (index : Nat) : IsPlain (sessionName index) := by
  have hne : ∀ s : String, s.toList.head? ≠ some 'v' → sessionName index ≠ s := by
    rintro s hs rfl
    exact hs (by rw [sessionName_toList]; rfl)
  have h1 : sessionName index ≠ "" := hne _ (by decide)
  have h2 : sessionName index ≠ "." := hne _ (by decide)
  have h3 : sessionName index ≠ ".." := hne _ (by decide)
  exact ⟨by simp [Path.isIdle, h1, h2], by simpa using h3⟩

/-- A session folder is an entry of the root. -/
theorem sessionFolder_eq (root : Path) (index : Nat) :
    sessionFolder root index = root.child (sessionName index) := rfl

/-- Only one session has a folder. -/
theorem sessionFolder_beq {root : Path} {m n : Nat} :
    (sessionFolder root m == sessionFolder root n) = true ↔ m = n := by
  rw [sessionFolder_eq, sessionFolder_eq,
    Path.child_beq_child (isPlain_sessionName m) (isPlain_sessionName n)]
  exact ⟨fun h => sessionName_injective h.2, fun h => ⟨Path.beq_refl _, h ▸ rfl⟩⟩

/-- The extension of a session folder's name: it has none, as digits hold no dot. -/
theorem divideLast_sessionName (index : Nat) :
    (Text.divideLast '.' (sessionName index).toList).2 = none := by
  have hdot : '.' ∉ (sessionName index).toList := by
    intro hmem
    rw [sessionName_toList] at hmem
    simp only [List.mem_cons] at hmem
    rcases hmem with h | h | h | h | h | hdigit
    any_goals exact absurd h (by decide)
    exact absurd (Text.Numeral.isDigit_of_mem_digits index '.' hdigit) (by decide)
  rw [Text.divideLast_of_not_mem hdot]

/-! ## Recordings -/

/-- Only a plain name can have the extension of a recording: behind a session folder any other piece
leads to the folder itself or to its parent, and neither has the extension. -/
theorem isPlain_of_wav {root : Path} {index : Nat} {name : String}
    (hwav : ((sessionFolder root index).child name).extension? = some "wav") : IsPlain name := by
  by_cases hn : IsPlain name
  · exact hn
  · rcases Path.fileName?_child_of_not_plain (isPlain_sessionName index) hn
      (p := root) with hf | hf
    · rw [sessionFolder_eq] at hwav
      simp [Path.extension?, hf, divideLast_sessionName] at hwav
    · rw [sessionFolder_eq] at hwav
      simp [Path.extension?, hf] at hwav

/-- Whatever a scan lists in a session folder is a regular file directly inside it, with a plain
name that ends in `.wav`. -/
theorem recordingsIn_spec {d : Disk} {root : Path} {index : Nat} {p : Path}
    (h : p ∈ d.recordingsIn (sessionFolder root index)) :
    ∃ name entries, IsPlain name ∧ p = (sessionFolder root index).child name ∧
      d.list (sessionFolder root index) = .ok entries ∧ (name, .file) ∈ entries ∧
      p.extension? = some "wav" := by
  unfold Disk.recordingsIn at h
  split at h
  · next entries hl =>
    simp only [List.mem_filter, List.mem_map] at h
    obtain ⟨⟨⟨name, kind⟩, ⟨hmem, hkind⟩, rfl⟩, hext⟩ := h
    obtain rfl : kind = .file := by simpa using hkind
    have hwav : ((sessionFolder root index).child name).extension? = some "wav" := by
      simpa using hext
    exact ⟨name, entries, isPlain_of_wav hwav, rfl, hl, hmem, hwav⟩
  · cases h

/-- No recording lies in the folders of two sessions. -/
theorem session_of_recording {d : Disk} {root : Path} {m n : Nat} {p : Path}
    (hm : p ∈ d.recordingsIn (sessionFolder root m))
    (hn : p ∈ d.recordingsIn (sessionFolder root n)) : m = n := by
  obtain ⟨name, -, hname, rfl, -⟩ := recordingsIn_spec hm
  obtain ⟨other, -, hother, he, -⟩ := recordingsIn_spec hn
  have hb := (Path.child_beq_child hname hother).1 (by rw [he]; exact Path.beq_refl _)
  exact sessionFolder_beq.1 hb.1

/-- A scan lists each recording because of a folder that it was given. -/
theorem mem_recordings {d : Disk} {folders : List Path} {p : Path} :
    p ∈ d.recordings folders ↔ ∃ folder ∈ folders, p ∈ d.recordingsIn folder := by
  unfold Disk.recordings Path.sort
  rw [List.mem_mergeSort, List.mem_flatMap]

end PushToTalk

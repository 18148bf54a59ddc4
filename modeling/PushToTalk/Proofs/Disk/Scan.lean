import PushToTalk.Proofs.Disk.Removal
import PushToTalk.Proofs.PathOrder
import PushToTalk.Proofs.SessionFolder

/-
  What a scan finds on the disk.

  A scan decides what is sent at all: what it does not list is never delivered, and what it lists
  twice would be sent twice.  A folder holds a recording when its path leads to a directory, and a
  regular file stands right in that directory with a name that ends in `.wav`.  A scan of session
  folders lists exactly what they hold.  A folder whose path leads to no directory holds nothing,
  and the others are listed all the same.

  1. **Names** — the extension of a name is what is behind its last dot, if something is in front of
     that.  So `.wav` itself has none, and a name that has the extension is never one of the two
     that mean a directory.

  2. **One folder** — `recordingsIn` lists what the folder holds, each file once.  As the entries of
     a directory have different names, so do the files.

  3. **Several folders** — no file is in two of them, since each is a child of its folder's path.
     So sorting puts their files in strictly ascending order.

  What stands deeper, in a directory of the folder, is not listed; nor are links, even to a file
  that ends in `.wav`.

  Main statements: `mem_recordingsIn_iff` and `recordings_strict`.
-/

namespace PushToTalk

open PushToTalk.Path (IsPlain)

namespace Path

/-! ## Names -/

/-- The extension of a name is what is behind its last dot, if something is in front of it. -/
theorem divide_eq_some_iff {name ext : List Char} : (Text.divideLast '.' name).2 = some ext ↔
    ∃ front, front ≠ [] ∧ '.' ∉ ext ∧ name = front ++ '.' :: ext := by
  constructor
  · intro h
    by_cases hdot : '.' ∈ name
    · obtain ⟨back, rest, hsplit, hback⟩ :=
        List.eq_append_cons_of_mem (List.mem_reverse.2 hdot)
      obtain rfl : name = rest.reverse ++ '.' :: back.reverse := by
        rw [← List.reverse_reverse name, hsplit]
        simp
      rw [Text.divideLast_append (by rwa [List.mem_reverse])] at h
      split at h
      · cases h
      · next hfront =>
        obtain rfl := Option.some.inj h
        exact ⟨_, hfront, by rwa [List.mem_reverse], rfl⟩
    · rw [Text.divideLast_of_not_mem hdot] at h
      cases h
  · rintro ⟨front, hfront, hext, rfl⟩
    rw [Text.divideLast_append hext, if_neg hfront]

/-- An entry has the extension `wav` when its name ends in `.wav` and is more than that. -/
theorem extension?_child_eq_wav {p : Path} {name : String} (hn : IsPlain name) :
    (p.child name).extension? = some "wav" ↔ ∃ stem, stem ≠ "" ∧ name = stem ++ ".wav" := by
  have hname : (p.child name).fileName? = some name := by
    unfold fileName?
    rw [parts_child hn, List.getLast?_concat]
  have hwav : (p.child name).extension? = some "wav" ↔
      (Text.divideLast '.' name.toList).2 = some ['w', 'a', 'v'] := by
    unfold extension?
    rw [hname, Option.bind_some, Option.map_eq_some_iff]
    constructor
    · rintro ⟨ext, hext, he⟩
      have hchars := congrArg String.toList he
      rw [String.toList_ofList] at hchars
      rw [hext, hchars]
      rfl
    · exact fun h => ⟨_, h, rfl⟩
  -- what is left is about the last dot of the name
  rw [hwav, divide_eq_some_iff]
  constructor
  · rintro ⟨front, hfront, -, he⟩
    refine ⟨String.ofList front, ?_, ?_⟩
    · intro hempty
      have hchars := congrArg String.toList hempty
      rw [String.toList_ofList] at hchars
      exact hfront hchars
    · apply String.toList_inj.1
      rw [he, String.toList_append, String.toList_ofList]
      rfl
  · rintro ⟨stem, hstem, rfl⟩
    refine ⟨stem.toList, ?_, by decide, by rw [String.toList_append]; rfl⟩
    intro hempty
    exact hstem (String.toList_inj.1 hempty)

/-- A name that ends in `.wav` names an entry. -/
theorem isPlain_wav (stem : String) : IsPlain (stem ++ ".wav") := by
  have hne : ∀ s : String, s.toList.length < 4 → stem ++ ".wav" ≠ s := by
    rintro s hs rfl
    rw [String.toList_append, List.length_append] at hs
    have hlength : ".wav".toList.length = 4 := rfl
    omega
  have hempty := hne "" (by decide)
  have hdot := hne "." (by decide)
  have htwo := hne ".." (by decide)
  exact ⟨by simp [isIdle, hempty, hdot], by simpa using htwo⟩

end Path

namespace Disk

variable {d : Disk} {root : Path} {n : Nat} {p file folder : Path}

/-! ## One folder -/

/-- A folder holds a recording: its path leads to a directory in which a regular file stands, with
a name that ends in `.wav`. -/
def Holds (d : Disk) (folder file : Path) : Prop :=
  ∃ v stem bytes, d.directoryOf folder = .ok v ∧ stem ≠ "" ∧
    d.at? (v ++ [stem ++ ".wav"]) = some (.file bytes) ∧ file = folder.child (stem ++ ".wav")

/-- The entries that a scan lists are those that are regular files. -/
theorem mem_listed_files (ht : d.IsTree) {v : Place} {name : String} :
    (name, Kind.file) ∈ (d.entriesAt v).map (fun e => (e.1, e.2.kind)) ↔
      ∃ bytes, d.at? (v ++ [name]) = some (.file bytes) := by
  rw [List.mem_map]
  constructor
  · rintro ⟨⟨other, node⟩, hmem, he⟩
    obtain ⟨rfl, hkind⟩ := Prod.mk.inj he
    cases node with
    | file bytes => exact ⟨bytes, (mem_entriesAt_iff ht).1 hmem⟩
    | directory => cases hkind
    | link target => cases hkind
  · rintro ⟨bytes, hat⟩
    exact ⟨(name, .file bytes), (mem_entriesAt_iff ht).2 hat, rfl⟩

/-- A scan of a session folder lists what the folder holds. -/
theorem mem_recordingsIn_iff (ht : d.IsTree) :
    file ∈ d.recordingsIn (sessionFolder root n) ↔ d.Holds (sessionFolder root n) file := by
  -- the name is taken from the path one way, and put to it the other; the disk is asked for the
  -- same place
  constructor
  · intro h
    obtain ⟨name, entries, hname, rfl, hlist, hmem, hext⟩ := recordingsIn_spec h
    rw [list_eq] at hlist
    cases hdir : d.directoryOf (sessionFolder root n) with
    | error why =>
      rw [hdir] at hlist
      cases hlist
    | ok v =>
      rw [hdir] at hlist
      obtain rfl := Except.ok.inj hlist
      obtain ⟨bytes, hat⟩ := (mem_listed_files ht).1 hmem
      obtain ⟨stem, hstem, rfl⟩ := (Path.extension?_child_eq_wav hname).1 hext
      exact ⟨v, stem, bytes, hdir, hstem, hat, rfl⟩
  · rintro ⟨v, stem, bytes, hdir, hstem, hat, rfl⟩
    unfold recordingsIn
    rw [list_eq, hdir]
    refine List.mem_filter.2 ⟨List.mem_map.2 ⟨(stem ++ ".wav", .file), ?_, rfl⟩, ?_⟩
    · exact List.mem_filter.2 ⟨(mem_listed_files ht).2 ⟨bytes, hat⟩, rfl⟩
    · rw [beq_iff_eq]
      exact (Path.extension?_child_eq_wav (Path.isPlain_wav stem)).2 ⟨stem, hstem, rfl⟩

/-- A recording that a session folder holds has the folder as its parent. -/
theorem Holds.parent? (h : d.Holds (sessionFolder root n) file) :
    file.parent? = some (sessionFolder root n) := by
  obtain ⟨v, stem, bytes, -, -, -, rfl⟩ := h
  exact Path.parent?_child (isPlain_sessionName n) (Path.isPlain_wav stem)

/-- What a directory lists under a name stands right below it. -/
theorem place_of_entry {place u : Place} {node node' : Node} {name : String}
    (h : (match u.getLast? with
      | some last => if u.dropLast == place then some (last, node) else none
      | none => none) = some (name, node')) : u = place ++ [name] := by
  rcases List.eq_nil_or_concat u with rfl | ⟨front, last, rfl⟩
  · cases h
  · simp only [List.concat_eq_append, List.getLast?_concat, List.dropLast_concat] at h ⊢
    split at h
    · next hplace =>
      cases h
      rw [beq_iff_eq.1 hplace]
    · cases h

/-- The entries of a directory have different names. -/
theorem entriesAt_names (ht : d.IsTree) (place : Place) :
    (d.entriesAt place).Pairwise fun e f => e.1 ≠ f.1 := by
  have hkeys : d.nodes.entries.Pairwise fun e f => e.1 ≠ f.1 := List.pairwise_map.1 ht.keys
  unfold entriesAt
  rw [List.pairwise_filterMap]
  refine hkeys.imp ?_
  rintro ⟨u, node⟩ ⟨v, node'⟩ hne ⟨name, _⟩ he ⟨other, _⟩ hf rfl
  exact hne ((place_of_entry he).trans (place_of_entry hf).symm)

/-- A scan of a session folder lists no file twice. -/
theorem recordingsIn_distinct (ht : d.IsTree) :
    (d.recordingsIn (sessionFolder root n)).Pairwise fun p q => (p == q) = false := by
  unfold recordingsIn
  rw [list_eq]
  cases d.directoryOf (sessionFolder root n) with
  | error why => exact List.Pairwise.nil
  | ok v =>
    have hnames : ((d.entriesAt v).map fun e => (e.1, e.2.kind)).Pairwise fun e f => e.1 ≠ f.1 :=
      List.pairwise_map.2 (entriesAt_names ht v)
    refine List.pairwise_filter.2 (List.pairwise_map.2 ((hnames.filter _).imp ?_))
    intro e f hne he hf
    have hplain : IsPlain e.1 := isPlain_of_wav (beq_iff_eq.1 he)
    have hplain' : IsPlain f.1 := isPlain_of_wav (beq_iff_eq.1 hf)
    rw [← Bool.not_eq_true, Path.child_beq_child hplain hplain']
    exact fun hsame => hne hsame.2

/-! ## Several folders -/

/-- A scan of different session folders lists their files in strictly ascending order. -/
theorem recordings_strict (ht : d.IsTree) {folders : List Path}
    (hsession : ∀ folder ∈ folders, ∃ n, folder = sessionFolder root n)
    (hdistinct : folders.Pairwise fun p q => (p == q) = false) :
    (d.recordings folders).Pairwise fun p q => p.compare q = .lt := by
  refine Path.sort_strict (List.pairwise_flatMap.2 ⟨?_, ?_⟩)
  · intro folder hfolder
    obtain ⟨n, rfl⟩ := hsession folder hfolder
    exact recordingsIn_distinct ht
  · refine hdistinct.imp_of_mem ?_
    intro folder other hfolder hother hne p hp q hq
    obtain ⟨m, rfl⟩ := hsession folder hfolder
    obtain ⟨n, rfl⟩ := hsession other hother
    obtain ⟨-, stem, -, -, -, -, rfl⟩ := (mem_recordingsIn_iff ht).1 hp
    obtain ⟨-, stem', -, -, -, -, rfl⟩ := (mem_recordingsIn_iff ht).1 hq
    rw [← Bool.not_eq_true, Path.child_beq_child (Path.isPlain_wav stem) (Path.isPlain_wav stem'),
      hne]
    exact fun hsame => Bool.noConfusion hsame.1

end Disk

end PushToTalk

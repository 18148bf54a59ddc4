import PushToTalk.Proofs.Disk.Scan
import PushToTalk.Proofs.Numeral
import PushToTalk.Proofs.RawPath

/-
  The user of a recording, from the name of its file.

  A recording is named by its user's id, and behind the id by whatever the recorder likes: `12.wav`,
  `12-alice.wav` and `0012_mix.2.wav` are all recordings of user 12.  The directory it lies in has
  no part in it.  A name can be anything that the system allows, so it need not be a text, and then
  it is nobody's, whatever digits it begins with.

  1. **Spellings**: the last name of a path is found again when the path is written down and read,
     unless there is a slash in the name (`fileName?_ofBytes_child`).  This carries the statement
     about directories: a path that is joined to a name ends in that name.

  2. **Stems**: the digits in front of a stem end where the first other character stands (`Leads`),
     and the number that they spell in base ten is the id, if it is no larger than an id can be.
     Leading zeros count as digits and add nothing to the number.  One equation says all of this
     (`ofStem_eq`); the two characterisations of a result and of an error are read off it.

  3. **Names**: a name that begins with an id belongs to that user, in every directory, because the
     digits of the id are the longest run of digits in front of the stem: what the recorder puts
     behind them does not begin with a digit, and the last dot of the name is the one of `.wav`.

  The result hangs on the stem and on nothing else, with one exception: where there is no stem to
  speak of, the error quotes the path.  Both limits are shown at paths that go beyond them
  (`id_unread`).

  Main statement: `ofRaw_outcome`.
-/

namespace PushToTalk

/-! ## Spellings -/

namespace Text

/-- A separator divides a text wherever it stands. -/
theorem split_append_sep {α : Type} [DecidableEq α] (sep : α) (front rest : List α) :
    split sep (front ++ sep :: rest) = split sep front ++ split sep rest := by
  induction front with
  | nil => simp [split]
  | cons c more ih =>
    by_cases hc : c = sep
    · simp [split, hc, ih]
    · obtain ⟨piece, others, hs⟩ := List.exists_cons_of_ne_nil (split_ne_nil sep more)
      simp [split, hc, ih, hs]

/-- A piece that is added comes behind one more separator. -/
theorem join_concat {α : Type} {sep : α} {pieces : List (List α)} (h : pieces ≠ [])
    (piece : List α) : join sep (pieces ++ [piece]) = join sep pieces ++ sep :: piece := by
  induction pieces with
  | nil => exact absurd rfl h
  | cons first more ih =>
    cases more with
    | nil => rfl
    | cons next others =>
      rw [List.cons_append, join_cons (by simp), join_cons (by simp), ih (by simp),
        List.append_assoc]
      rfl

/-- The last piece is found again, whatever stands before it. -/
theorem getLast?_split_join {α : Type} [DecidableEq α] {sep : α} {piece : List α}
    (h : sep ∉ piece) (pieces : List (List α)) :
    (split sep (join sep (pieces ++ [piece]))).getLast? = some piece := by
  by_cases hp : pieces = []
  · rw [hp, List.nil_append, join, split_of_not_mem h]
    rfl
  · rw [join_concat hp, split_append_sep, split_of_not_mem h, List.getLast?_concat]

end Text

namespace RawPath

variable {p : RawPath} {name : List UInt8}

/-- An entry stands behind all the pieces of its directory that count. -/
theorem pieces_child (p : RawPath) (name : List UInt8) :
    ∃ front, (p.child name).pieces = front ++ [name] := by
  unfold child
  split
  · exact ⟨_, rfl⟩
  · exact ⟨_, rfl⟩

/-- A name at the end of a path is its file name, unless it is a dot, two dots or nothing. -/
theorem fileName?_of_getLast (hlast : p.pieces.getLast? = some name) (hidle : isIdle name = false)
    (hup : name ≠ ['.'.toUInt8, '.'.toUInt8]) : p.fileName? = some name := by
  obtain ⟨front, hp⟩ := List.getLast?_eq_some_iff.1 hlast
  have hkept : (p.pieces.filter (!isIdle ·)).getLast? = some name := by
    rw [hp, List.filter_append, List.filter_cons_of_pos (by simp [hidle]), List.filter_nil,
      List.getLast?_concat]
  rw [fileName?, hkept]
  simp [Option.filter, hup]

/-- A name without a slash is the last one of a path that is written down and read again. -/
theorem fileName?_ofBytes_child (p : RawPath) (hslash : '/'.toUInt8 ∉ name)
    (hidle : isIdle name = false) (hup : name ≠ ['.'.toUInt8, '.'.toUInt8]) :
    (ofBytes (p.child name).bytes).fileName? = some name := by
  obtain ⟨front, hp⟩ := p.pieces_child name
  refine fileName?_of_getLast ?_ hidle hup
  unfold ofBytes bytes
  rw [hp, Text.getLast?_split_join hslash]

/-- The stem is a text if its bytes are those of one. -/
theorem stemText?_eq_some_iff {stem : String} :
    p.stemText? = some stem ↔ p.stem? = some (Text.utf8 stem.toList) := by
  unfold stemText?
  rw [Option.bind_eq_some_iff]
  constructor
  · rintro ⟨bytes, hstem, htext⟩
    rw [hstem, Text.ofUtf8?_eq_some_iff.1 htext]
  · intro hstem
    exact ⟨_, hstem, Text.ofUtf8?_eq_some_iff.2 rfl⟩

/-- A path has a stem that is a text, or it has none. -/
theorem stem_cases (p : RawPath) : (∃ stem : String, p.stem? = some (Text.utf8 stem.toList)) ∨
    ∀ stem : String, p.stem? ≠ some (Text.utf8 stem.toList) := by
  by_cases h : ∃ stem : String, p.stem? = some (Text.utf8 stem.toList)
  · exact Or.inl h
  · exact Or.inr fun stem hstem => h ⟨stem, hstem⟩

end RawPath

namespace UserId

open Text.Numeral (digits digitValue isDigit value)

variable {p q : RawPath} {user : UserId} {stem suffix : String} {run : List Char}

/-! ## Stems -/

/-- The digits in front of a stem: all of them, up to the first character that is none. -/
structure Leads (run : List Char) (stem : String) : Prop where
  areDigits : ∀ c ∈ run, isDigit c = true
  ends : ∃ rest, stem.toList = run ++ rest ∧ ∀ c ∈ rest.head?, isDigit c = false

/-- The number that a run of digits spells in base ten. -/
def decimal (run : List Char) : Nat := Nat.ofDigits 10 (run.reverse.map digitValue)

/-- The digits in front of a stem are found by taking digits as long as there are any. -/
theorem leads_iff : Leads run stem ↔ stem.toList.takeWhile isDigit = run := by
  constructor
  · rintro ⟨hdigits, rest, he, hrest⟩
    rw [he]
    exact (Text.divide_append hdigits rest hrest).1
  · rintro rfl
    refine ⟨List.all_eq_true.1 List.all_takeWhile, stem.toList.dropWhile isDigit,
      List.takeWhile_append_dropWhile.symm, ?_⟩
    intro c hc
    have hnot := List.head?_dropWhile_not isDigit stem.toList
    rw [Option.mem_def.1 hc] at hnot
    exact hnot

/-- Every stem begins with a run of digits, which may be empty. -/
theorem exists_leads (stem : String) : ∃ run, Leads run stem := ⟨_, leads_iff.2 rfl⟩

/-- A stem begins with one run of digits only. -/
theorem Leads.unique {run' : List Char} (h : Leads run stem) (h' : Leads run' stem) : run = run' :=
  (leads_iff.1 h).symm.trans (leads_iff.1 h')

/-- What is read off a stem: its digits, if there are any and their number is no larger than an id
can be. -/
theorem ofStem_eq (hrun : Leads run stem) :
    ofStem stem =
      if run = [] then .error (.withoutId stem)
      else if decimal run < 2 ^ 32 then .ok (UInt32.ofNat (decimal run))
      else .error (.idTooLarge (String.ofList run) stem) := by
  have hvalue : value run = decimal run := Text.Numeral.value_eq_ofDigits run
  unfold ofStem
  simp only [leads_iff.1 hrun, hvalue, List.isEmpty_iff]
  rfl

/-- Where the stem is a text, the id is read off it. -/
theorem ofRaw_of_stem (h : p.stem? = some (Text.utf8 stem.toList)) : ofRaw p = ofStem stem := by
  rw [ofRaw, RawPath.stemText?_eq_some_iff.2 h]

/-- Without a stem that is a text there is no id, and the error quotes the path. -/
theorem ofRaw_of_nameless (h : ∀ stem : String, p.stem? ≠ some (Text.utf8 stem.toList)) :
    ofRaw p = .error (.nameless p) := by
  have hnone : p.stemText? = none :=
    Option.eq_none_iff_forall_ne_some.2 fun stem hs => h stem (RawPath.stemText?_eq_some_iff.1 hs)
  rw [ofRaw, hnone]

/-- An id is read exactly if the digits in front of the stem spell it. -/
theorem ofStem_eq_ok_iff : ofStem stem = .ok user ↔
    ∃ run, Leads run stem ∧ run ≠ [] ∧ decimal run = user.toNat := by
  obtain ⟨run, hrun⟩ := exists_leads stem
  rw [ofStem_eq hrun]
  constructor
  · intro h
    split at h
    · cases h
    · next hne =>
      split at h
      · next hsmall =>
        obtain rfl := Except.ok.inj h
        exact ⟨run, hrun, hne, (UInt32.toNat_ofNat_of_lt hsmall).symm⟩
      · cases h
  · rintro ⟨run', hrun', hne, hvalue⟩
    obtain rfl := hrun.unique hrun'
    rw [if_neg hne, hvalue, if_pos user.toNat_lt, UInt32.ofNat_toNat]

/-- Why no id is read: there is no digit in front of the stem, or too large a number. -/
theorem ofStem_eq_error_iff {why : Misread} : ofStem stem = .error why ↔
    (Leads [] stem ∧ why = .withoutId stem) ∨
    ∃ run, Leads run stem ∧ 2 ^ 32 ≤ decimal run ∧
      why = .idTooLarge (String.ofList run) stem := by
  obtain ⟨run, hrun⟩ := exists_leads stem
  rw [ofStem_eq hrun]
  constructor
  · intro h
    split at h
    · next hnil =>
      cases h
      exact Or.inl ⟨hnil ▸ hrun, rfl⟩
    · split at h
      · cases h
      · next hlarge =>
        cases h
        exact Or.inr ⟨run, hrun, Nat.not_lt.1 hlarge, rfl⟩
  · rintro (⟨hrun', rfl⟩ | ⟨run', hrun', hlarge, rfl⟩)
    · rw [if_pos (hrun.unique hrun')]
    · obtain rfl := hrun.unique hrun'
      -- No digits at all spell zero, which is not too large.
      have hne : run ≠ [] := by
        rintro rfl
        exact absurd hlarge (by decide)
      rw [if_neg hne, if_neg (Nat.not_lt.2 hlarge)]

/-- The id hangs on the stem: an id is read exactly if there is a stem that is a text, and the
digits in front of it spell the id. -/
theorem ofRaw_eq_ok_iff : ofRaw p = .ok user ↔
    ∃ (stem : String) (run : List Char), p.stem? = some (Text.utf8 stem.toList) ∧
      Leads run stem ∧ run ≠ [] ∧ decimal run = user.toNat := by
  rcases p.stem_cases with ⟨stem, hstem⟩ | hnone
  · rw [ofRaw_of_stem hstem, ofStem_eq_ok_iff]
    constructor
    · rintro ⟨run, hrun⟩
      exact ⟨stem, run, hstem, hrun⟩
    · rintro ⟨stem', run, hstem', hrun⟩
      rw [hstem, Option.some_inj, Text.utf8_inj, String.toList_inj] at hstem'
      exact ⟨run, hstem' ▸ hrun⟩
  · rw [ofRaw_of_nameless hnone]
    constructor
    · intro h
      cases h
    · rintro ⟨stem, run, hstem, -⟩
      exact absurd hstem (hnone stem)

/-- Why no id is read: there is no stem that is a text, or no digit in front of it, or too large a
number. -/
theorem ofRaw_eq_error_iff {why : Misread} : ofRaw p = .error why ↔
    ((∀ stem : String, p.stem? ≠ some (Text.utf8 stem.toList)) ∧ why = .nameless p) ∨
    ∃ stem : String, p.stem? = some (Text.utf8 stem.toList) ∧
      ((Leads [] stem ∧ why = .withoutId stem) ∨
      ∃ run, Leads run stem ∧ 2 ^ 32 ≤ decimal run ∧
        why = .idTooLarge (String.ofList run) stem) := by
  rcases p.stem_cases with ⟨stem, hstem⟩ | hnone
  · rw [ofRaw_of_stem hstem, ofStem_eq_error_iff]
    constructor
    · intro h
      exact Or.inr ⟨stem, hstem, h⟩
    · rintro (⟨hnone, -⟩ | ⟨stem', hstem', h⟩)
      · exact absurd hstem (hnone stem)
      · rw [hstem, Option.some_inj, Text.utf8_inj, String.toList_inj] at hstem'
        rwa [hstem']
  · rw [ofRaw_of_nameless hnone]
    constructor
    · intro h
      cases h
      exact Or.inl ⟨hnone, rfl⟩
    · rintro (⟨-, rfl⟩ | ⟨stem, hstem, -⟩)
      · rfl
      · exact absurd hstem (hnone stem)

/-- Paths with the same stem have the same result, but for the path that is quoted where the stem
is no text. -/
theorem ofRaw_of_same_stem (h : q.stem? = p.stem?) :
    (ofRaw q).toOption = (ofRaw p).toOption ∧
    ((∃ stem : String, p.stem? = some (Text.utf8 stem.toList)) → ofRaw q = ofRaw p) := by
  rcases p.stem_cases with ⟨stem, hstem⟩ | hnone
  · have hsame : ofRaw q = ofRaw p := by rw [ofRaw_of_stem hstem, ofRaw_of_stem (h.trans hstem)]
    exact ⟨congrArg _ hsame, fun _ => hsame⟩
  · refine ⟨?_, fun ⟨stem, hstem⟩ => absurd hstem (hnone stem)⟩
    have hnone' : ∀ stem : String, q.stem? ≠ some (Text.utf8 stem.toList) := by rwa [h]
    rw [ofRaw_of_nameless hnone, ofRaw_of_nameless hnone']
    rfl

/-! ## Names -/

/-- The name of a recording: the id of its user, what the recorder puts behind it, `.wav`. -/
def recordingName (user : UserId) (suffix : String) : String :=
  Text.Numeral.ofNat user.toNat ++ suffix ++ ".wav"

/-- The digits of an id end where the recorder's part of the name begins. -/
theorem leads_digits (hsuffix : ∀ c ∈ suffix.toList.head?, isDigit c = false) :
    Leads (digits user.toNat) (Text.Numeral.ofNat user.toNat ++ suffix) := by
  refine ⟨Text.Numeral.isDigit_of_mem_digits user.toNat, suffix.toList, ?_, hsuffix⟩
  rw [String.toList_append, Text.Numeral.ofNat, String.toList_ofList]

/-- The last dot of a recording's name is the one of its extension. -/
theorem stem?_of_recordingName
    (h : p.fileName? = some (Text.utf8 (recordingName user suffix).toList)) :
    p.stem? = some (Text.utf8 (Text.Numeral.ofNat user.toNat ++ suffix).toList) := by
  have hname : (recordingName user suffix).toList =
      (Text.Numeral.ofNat user.toNat ++ suffix).toList ++ '.' :: ['w', 'a', 'v'] := by
    rw [recordingName, String.toList_append]
    rfl
  have hfront : (Text.Numeral.ofNat user.toNat ++ suffix).toList ≠ [] := by
    rw [String.toList_append, Text.Numeral.ofNat, String.toList_ofList]
    exact List.append_ne_nil_of_left_ne_nil (Text.Numeral.digits_ne_nil _) _
  unfold RawPath.stem?
  rw [h, Option.map_some, Text.divideLast_utf8 Path.dot_isMark, hname,
    Text.divideLast_append (by decide), if_neg hfront]

/-- A recording that is named after its user is found to be that user's. -/
theorem ofRaw_of_recordingName
    (h : p.fileName? = some (Text.utf8 (recordingName user suffix).toList))
    (hsuffix : ∀ c ∈ suffix.toList.head?, isDigit c = false) : ofRaw p = .ok user := by
  refine ofRaw_eq_ok_iff.2 ⟨_, _, stem?_of_recordingName h, leads_digits hsuffix,
    Text.Numeral.digits_ne_nil _, ?_⟩
  rw [decimal, ← Text.Numeral.value_eq_ofDigits, Text.Numeral.value_digits]

/-- There is no slash in a recording's name, unless the recorder puts one there. -/
theorem slash_not_mem_recordingName (h : '/' ∉ suffix.toList) :
    '/' ∉ (recordingName user suffix).toList := by
  have hdigits : '/' ∉ digits user.toNat := fun hmem =>
    absurd (Text.Numeral.isDigit_of_mem_digits _ _ hmem) (by decide)
  rw [recordingName, String.toList_append, String.toList_append, Text.Numeral.ofNat,
    String.toList_ofList, List.mem_append, List.mem_append]
  rintro ((hmem | hmem) | hmem)
  · exact hdigits hmem
  · exact h hmem
  · exact absurd hmem (by decide)

/-- A recording's name names an entry of a directory: it is longer than two dots. -/
theorem fileName?_of_recordingName (p : RawPath) (hslash : '/' ∉ suffix.toList) :
    (RawPath.ofBytes (p.child (Text.utf8 (recordingName user suffix).toList)).bytes).fileName? =
      some (Text.utf8 (recordingName user suffix).toList) := by
  have hplain := Path.isPlain_wav (Text.Numeral.ofNat user.toNat ++ suffix)
  apply RawPath.fileName?_ofBytes_child
  · rw [Text.mark_mem_utf8_iff Path.slash_isMark]
    exact slash_not_mem_recordingName hslash
  · rw [Path.isIdle_utf8]
    exact hplain.1
  · intro hup
    have hdots : (recordingName user suffix).toList = ['.', '.'] := Text.utf8_inj.1 hup
    have hname : recordingName user suffix = ".." := String.toList_inj.1 hdots
    exact absurd (beq_iff_eq.2 hname) (Bool.eq_false_iff.1 hplain.2)

/-- The id of a file is the number in front of its stem.

1. An id is read exactly if the path has a stem that is a text, starts with a digit, and all its
   digits up to the first other character spell, in base ten, a number that an id can be; the id is
   that number.
2. Otherwise it is an error, and the error says which of these conditions does not hold.
3. Paths with the same stem give the same id, or none of them gives one; and then the error is the
   same too, unless the stem is missing or no text and each error quotes its own path.
4. A name that starts with an id gives back that id, in whatever directory the file is. -/
theorem ofRaw_outcome (p : RawPath) :
    (∀ user, ofRaw p = .ok user ↔
      ∃ (stem : String) (run : List Char), p.stem? = some (Text.utf8 stem.toList) ∧
        Leads run stem ∧ run ≠ [] ∧ decimal run = user.toNat) ∧
    (∀ why, ofRaw p = .error why ↔
      ((∀ stem : String, p.stem? ≠ some (Text.utf8 stem.toList)) ∧ why = .nameless p) ∨
      ∃ stem : String, p.stem? = some (Text.utf8 stem.toList) ∧
        ((Leads [] stem ∧ why = .withoutId stem) ∨
        ∃ run, Leads run stem ∧ 2 ^ 32 ≤ decimal run ∧
          why = .idTooLarge (String.ofList run) stem)) ∧
    (∀ q : RawPath, q.stem? = p.stem? → (ofRaw q).toOption = (ofRaw p).toOption ∧
      ((∃ stem : String, p.stem? = some (Text.utf8 stem.toList)) → ofRaw q = ofRaw p)) ∧
    ∀ (user : UserId) (suffix : String), '/' ∉ suffix.toList →
      (∀ c ∈ suffix.toList.head?, isDigit c = false) →
      ofRaw (.ofBytes (p.child (Text.utf8 (recordingName user suffix).toList)).bytes) = .ok user :=
  ⟨fun _ => ofRaw_eq_ok_iff, fun _ => ofRaw_eq_error_iff, fun _ h => ofRaw_of_same_stem h,
    fun _ _ hslash hsuffix => ofRaw_of_recordingName (fileName?_of_recordingName p hslash) hsuffix⟩

/-- A recording of user 42 with two dots in its name, in a directory whose name is no text; and two
spellings of a directory, neither of them a recording's. -/
theorem ofRaw_outcome_sample :
    '/' ∉ "_mix.2".toList ∧ (∀ c ∈ "_mix.2".toList.head?, isDigit c = false) ∧
    ofRaw (.ofBytes ((RawPath.ofBytes [0xFF, 0x2F]).child
      (Text.utf8 (recordingName 42 "_mix.2").toList)).bytes) = .ok 42 ∧
    (Path.ofText "rec/voice0/").raw.stem? = (Path.ofText "voice0.d").raw.stem? ∧
    (Path.ofText "voice0.d").raw.stem? = some (Text.utf8 "voice0".toList) ∧
    ofRaw (Path.ofText "rec/voice0/").raw = ofRaw (Path.ofText "voice0.d").raw := by
  have hslash : '/' ∉ "_mix.2".toList := by decide
  have hsuffix : ∀ c ∈ "_mix.2".toList.head?, isDigit c = false := by
    intro c hc
    obtain rfl : '_' = c := Option.some.inj hc
    decide
  have hsame : (Path.ofText "rec/voice0/").raw.stem? = (Path.ofText "voice0.d").raw.stem? := by
    decide +kernel
  have hstem : (Path.ofText "voice0.d").raw.stem? = some (Text.utf8 "voice0".toList) := by
    decide +kernel
  obtain ⟨-, -, -, hnamed⟩ := ofRaw_outcome (.ofBytes [0xFF, 0x2F])
  obtain ⟨-, -, hresult, -⟩ := ofRaw_outcome (Path.ofText "voice0.d").raw
  exact ⟨hslash, hsuffix, hnamed 42 "_mix.2" hslash hsuffix, hsame, hstem,
    (hresult _ hsame).2 ⟨"voice0", hstem⟩⟩

/-- What does not hold of all paths.  The file `12␣.wav`, where the third byte is 255, has a stem
that begins with the digits of 12 and goes on with no digit, and no id is read from it, as its stem
is no text.  And `/` and `..` have the same stem, none, and different errors, as each is quoted. -/
theorem id_unread :
    ((RawPath.ofBytes [0x31, 0x32, 0xFF, 0x2E, 0x77, 0x61, 0x76]).stem? =
      some (Text.utf8 "12".toList ++ [0xFF]) ∧
    ofRaw (.ofBytes [0x31, 0x32, 0xFF, 0x2E, 0x77, 0x61, 0x76]) =
      .error (.nameless (.ofBytes [0x31, 0x32, 0xFF, 0x2E, 0x77, 0x61, 0x76]))) ∧
    (Path.ofText "/").raw.stem? = (Path.ofText "..").raw.stem? ∧
    ofRaw (Path.ofText "/").raw ≠ ofRaw (Path.ofText "..").raw := by
  have hbroken : (RawPath.ofBytes [0x31, 0x32, 0xFF, 0x2E, 0x77, 0x61, 0x76]).stem? =
      some (Text.utf8 "12".toList ++ [0xFF]) := by
    decide +kernel
  have hroot : (Path.ofText "/").raw.stem? = none := by decide +kernel
  have hparent : (Path.ofText "..").raw.stem? = none := by decide +kernel
  refine ⟨⟨hbroken, ofRaw_of_nameless ?_⟩, hroot.trans hparent.symm, ?_⟩
  · intro stem hstem
    rw [hbroken, Option.some_inj] at hstem
    have hmem : (0xFF : UInt8) ∈ Text.utf8 stem.toList := by
      rw [← hstem]
      exact List.mem_append_right _ (List.mem_singleton_self _)
    exact absurd (Text.lt_of_mem_utf8 hmem) (by decide)
  · rw [ofRaw_of_nameless (by simp [hroot]), ofRaw_of_nameless (by simp [hparent])]
    intro h
    have hpaths : (Path.ofText "/").raw = (Path.ofText "..").raw := by
      injection h with hwhy
      injection hwhy
    exact absurd hpaths (by decide +kernel)

/-- For the paths that the relay works with, which are texts: an id is read exactly if there is a
stem and the digits in front of it spell the id. -/
theorem ofPath_eq_ok_iff {p : Path} : ofPath p = .ok user ↔
    ∃ (stem : String) (run : List Char), p.stem? = some stem ∧ Leads run stem ∧ run ≠ [] ∧
      decimal run = user.toNat := by
  cases hstem : p.stem? with
  | none => simp [ofPath_of_nameless hstem]
  | some stem =>
    rw [ofPath_of_stem? hstem, ofStem_eq_ok_iff]
    simp

/-- Leading zeros, a second dot and a trailing slash change nothing. -/
example : ofPath (.ofText "rec/0042_mix.2.wav/") = .ok 42 := by cbv

end UserId

end PushToTalk

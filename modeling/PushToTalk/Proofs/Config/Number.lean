import PushToTalk.CommandLine
import PushToTalk.Proofs.Config.Setting
import PushToTalk.Proofs.Control

/-
  The numbers of a configuration.

  A file of settings gives ports, times and limits as numbers.  Seven fields hold whole numbers, and
  two of them are ports.  A number is read as one of 64 bits; of the number of a port only the lower
  sixteen bits are kept, so a port that is too large is taken for another one.  The command line and
  the control interface refuse such a port.  This module says for each field and every whole number
  what is kept of it, in each of the six formats.

  1. **Ports elsewhere** — who else reads a port reads the number that is written, or none.

  2. **Groups** — a group that is read has read each of its fields; the reader of a group is a chain
     of binds, which `ok_of_bind` takes apart.

  3. **Numbers by their paths** — so down to the values, and a field of a configuration that was
     read holds what is kept of the number at the end of its path, or its default (`held`).

  4. **Scalars** — a whole number is read as itself, and so is its numeral where it is a text; one
     below zero is refused.  This takes a numeral to be none of the words that are read as numbers
     too, such as `yes` and `no`.

  5. **Files** — what was loaded has been read (`load_of_stands`), and a file that gives the
     backend's port alone is loaded with what is kept of it (`load_portText`).

  6. **A port that is too large** — one file in which this happens.

  Real numbers are left out: a file may give one, and what is kept of it is not said here.

  Main statement: `numbers_kept`, and `port_taken_for_another` for a port that is too large.
-/

/-! ## Ports elsewhere -/

namespace PushToTalk.CommandLine

open Text.Numeral (digits digitValue isDigit ofInt signed signed_cases value)

/-- Digits are read as their number, if it is below the limit. -/
theorem readDigits_eq_ok_iff {limit m k : Nat} {overflow : PortFlaw} {ds : List Char}
    (hds : ∀ c ∈ ds, isDigit c = true) (hm : m < limit) : readDigits limit overflow m ds = .ok k ↔
      ds.foldl (fun n c => 10 * n + digitValue c) m = k ∧ k < limit := by
  -- on the digits; once the limit is passed, no further digit gets the number below it again
  induction ds generalizing m with
  | nil =>
    rw [readDigits, Except.ok.injEq]
    exact ⟨fun h => ⟨h, h ▸ hm⟩, And.left⟩
  | cons c ds ih =>
    rw [readDigits, hds c List.mem_cons_self, List.foldl_cons, if_neg (by decide)]
    split
    · next hlarge =>
      have hle := Json.le_foldl_digits (10 * m + digitValue c) ds
      constructor
      · intro h
        cases h
      · rintro ⟨hk, hlimit⟩
        omega
    · next hsmall =>
      exact ih (fun d hd => hds d (List.mem_cons_of_mem c hd)) (Nat.lt_of_not_le hsmall)

/-- A numeral is read as its number, if it has 64 bits with the sign. -/
theorem readWhole_ofInt_eq_ok_iff {n k : Int} :
    readWhole (ofInt n) = .ok k ↔ n = k ∧ Config.fits n = true := by
  have hdigits : ∀ (m limit k : Nat) (overflow : PortFlaw), 0 < limit →
      (readDigits limit overflow 0 (digits m) = .ok k ↔ m = k ∧ k < limit) := by
    intro m limit k overflow hlimit
    rw [readDigits_eq_ok_iff (Text.Numeral.isDigit_of_mem_digits m) hlimit, ← value,
      Text.Numeral.value_digits]
  have hmap : ∀ (r : Except PortFlaw Nat) (f : Int → Int),
      Except.map f (do let j ← r; pure (j : Int)) = .ok k ↔ ∃ j : Nat, r = .ok j ∧ f j = k := by
    intro r f
    cases r with
    | error flaw =>
      constructor
      · intro h
        cases h
      · rintro ⟨_, h, -⟩
        cases h
    | ok j =>
      constructor
      · exact fun h => ⟨j, rfl, Except.ok.inj h⟩
      · rintro ⟨_, hj, rfl⟩
        cases hj
        rfl
  have hlow : Nat.pow 2 63 + 1 = 9223372036854775809 := rfl
  have hhigh : Nat.pow 2 63 = 9223372036854775808 := rfl
  -- of the six forms that the reader tells apart a numeral has two: digits, and a minus sign in
  -- front of digits
  rw [Config.fits_iff, readWhole, ofInt, String.toList_ofList]
  split
  · next he =>
    obtain ⟨m, -, h⟩ := Config.signed_eq_digits (n := n) (by simp [he])
    exact absurd (h ▸ he) (Text.Numeral.digits_ne_nil m)
  · next he => exact absurd (he ▸ List.mem_cons_self) (Config.not_mem_signed (by decide))
  · next he =>
    obtain ⟨m, -, h⟩ := Config.signed_eq_minus he
    exact absurd h (Text.Numeral.digits_ne_nil m)
  · next ds _ he =>
    obtain ⟨m, rfl, rfl⟩ := Config.signed_eq_minus he
    rw [hmap]
    simp only [hdigits _ _ _ _ (Nat.succ_pos _)]
    constructor
    · rintro ⟨j, ⟨rfl, hj⟩, hk⟩
      omega
    · rintro ⟨hk, hfits⟩
      exact ⟨m, ⟨rfl, by omega⟩, hk⟩
  · next he => exact absurd (he ▸ List.mem_cons_self) (Config.not_mem_signed (by decide))
  · next hminus _ =>
    obtain ⟨m, rfl, h⟩ := Config.signed_eq_digits hminus
    rw [hmap, h]
    simp only [hdigits _ _ _ _ (by decide : 0 < Nat.pow 2 63)]
    constructor
    · rintro ⟨j, ⟨rfl, hj⟩, hk⟩
      omega
    · rintro ⟨hk, hfits⟩
      exact ⟨m, ⟨rfl, by omega⟩, hk⟩

/-- A port on the command line is read as the number that is written, or refused. -/
theorem readPort_ofInt_eq_ok_iff {n : Int} {p : UInt16} :
    readPort (ofInt n) = .ok p ↔ n = p.toNat := by
  have hp : p.toNat < 65536 := p.toNat_lt
  unfold readPort
  constructor
  · intro h
    cases hread : readWhole (ofInt n) with
    | error flaw =>
      rw [hread] at h
      cases h
    | ok k =>
      rw [hread] at h
      obtain ⟨rfl, -⟩ := readWhole_ofInt_eq_ok_iff.1 hread
      have hif : (if 0 ≤ n && n ≤ 65535 then Except.ok (UInt16.ofNat n.toNat)
        else .error (PortFlaw.outOfRange n)) = Except.ok p := h
      split at hif
      · -- within the range of ports nothing is cut off the number
        next hrange =>
        rw [Bool.and_eq_true, decide_eq_true_eq, decide_eq_true_eq] at hrange
        cases hif
        rw [UInt16.toNat_ofNat_of_lt' (by show n.toNat < 65536; omega)]
        omega
      · cases hif
  · rintro rfl
    have hread := (readWhole_ofInt_eq_ok_iff (n := p.toNat) (k := p.toNat)).2
      ⟨rfl, Config.fits_iff.2 (by omega)⟩
    rw [hread]
    show (if 0 ≤ (p.toNat : Int) && (p.toNat : Int) ≤ 65535 then
      Except.ok (UInt16.ofNat (p.toNat : Int).toNat) else .error (PortFlaw.outOfRange p.toNat)) = .ok p
    rw [if_pos (by rw [Bool.and_eq_true, decide_eq_true_eq, decide_eq_true_eq]; omega),
      Int.toNat_natCast, UInt16.ofNat_toNat]

end PushToTalk.CommandLine

namespace PushToTalk.Control

/-- A port in the body of a change of settings is the number that is written; where it is not one
of 16 bits, the body is refused. -/
theorem port_of_decodeBody {call : Call} {host topic : Option Json.Scalar} {n : Int}
    (h : decodeBody ConfigUpdate.shape call = .ok [host, some (.integer n), topic]) :
    ∃ p : UInt16, (ConfigUpdate.ofFields [host, some (.integer n), topic]).port = some p ∧
      n = p.toNat := by
  have hvalues := ConfigUpdate.values_ofFields (decodeBody_eq_ok_iff.1 h)
  refine ⟨UInt16.ofNat n.toNat, rfl, ?_⟩
  have hport : some (Json.Scalar.integer (UInt16.ofNat n.toNat).toNat) = some (.integer n) :=
    (List.cons.inj (List.cons.inj hvalues).2).1
  exact (Json.Scalar.integer.inj (Option.some.inj hport)).symm

end PushToTalk.Control

namespace PushToTalk.Config

open Text.Numeral (digits isDigit ofInt signed signed_cases value)

variable {v w : Value} {path : List (Nat × String)} {isPort : Bool} {standard x m : Nat} {n : Int}
  {s : Scalar} {origin : Option String}

/-! ## Groups -/

/-- A chain that comes to a result has come to one in its first step. -/
theorem ok_of_bind {ε α β : Type} {r : Except ε α} {f : α → Except ε β} {b : β}
    (h : r >>= f = .ok b) : ∃ a, r = .ok a ∧ f a = .ok b := by
  cases r with
  | error e => cases h
  | ok a => exact ⟨a, rfl, h⟩

/-- A listener that was read has read its port. -/
theorem Listener.of_ofValue {l : Listener} (h : Listener.ofValue v = .ok l) :
    v.field 1 "port" readPort Listener.standard.port = .ok l.port := by
  unfold ofValue at h
  obtain ⟨_, -, h⟩ := ok_of_bind h
  obtain ⟨_, -, h⟩ := ok_of_bind h
  obtain ⟨port, hport, h⟩ := ok_of_bind h
  cases h
  exact hport

/-- A service that was read has read its listener. -/
theorem Service.of_ofValue {s : Service} (h : Service.ofValue v = .ok s) :
    v.field 1 "http" Listener.ofValue .standard = .ok s.listener := by
  unfold ofValue at h
  obtain ⟨_, -, h⟩ := ok_of_bind h
  obtain ⟨_, -, h⟩ := ok_of_bind h
  obtain ⟨listener, hlistener, h⟩ := ok_of_bind h
  cases h
  exact hlistener

/-- A backend that was read has read its port and its timeout. -/
theorem Backend.of_ofValue {b : Backend} (h : Backend.ofValue v = .ok b) :
    v.field 1 "port" readPort Backend.standard.port = .ok b.port ∧
      v.field 2 "request_timeout_secs" readNumber Backend.standard.timeout = .ok b.timeout := by
  unfold ofValue at h
  obtain ⟨_, -, h⟩ := ok_of_bind h
  obtain ⟨_, -, h⟩ := ok_of_bind h
  obtain ⟨port, hport, h⟩ := ok_of_bind h
  obtain ⟨timeout, htimeout, h⟩ := ok_of_bind h
  cases h
  exact ⟨hport, htimeout⟩

/-- What was read about recording has read both of its times. -/
theorem Recording.of_ofValue {r : Recording} (h : Recording.ofValue v = .ok r) :
    v.field 1 "poll_interval_ms" readNumber Recording.standard.pollInterval =
        .ok r.pollInterval ∧
      v.field 2 "speaking_timeout_ms" readNumber Recording.standard.speakingTimeout =
        .ok r.speakingTimeout := by
  unfold ofValue at h
  obtain ⟨_, -, h⟩ := ok_of_bind h
  obtain ⟨_, -, h⟩ := ok_of_bind h
  obtain ⟨poll, hpoll, h⟩ := ok_of_bind h
  obtain ⟨speaking, hspeaking, h⟩ := ok_of_bind h
  obtain ⟨_, -, h⟩ := ok_of_bind h
  cases h
  exact ⟨hpoll, hspeaking⟩

/-- Limits that were read have read both of their numbers. -/
theorem Limits.of_ofValue {l : Limits} (h : Limits.ofValue v = .ok l) :
    v.field 0 "max_concurrent_uploads" readNumber Limits.standard.uploads = .ok l.uploads ∧
      v.field 1 "max_concurrent_tick_fetches" readNumber Limits.standard.fetches =
        .ok l.fetches := by
  unfold ofValue at h
  obtain ⟨_, -, h⟩ := ok_of_bind h
  obtain ⟨uploads, huploads, h⟩ := ok_of_bind h
  obtain ⟨fetches, hfetches, h⟩ := ok_of_bind h
  cases h
  exact ⟨huploads, hfetches⟩

/-- The groups of a configuration that have numbers in them. -/
theorem of_ofValue {c : Config} (h : ofValue v = .ok c) :
    v.field 0 "service" Service.ofValue .standard = .ok c.service ∧
      v.field 1 "backend" Backend.ofValue .standard = .ok c.backend ∧
      v.field 3 "recording" Recording.ofValue .standard = .ok c.recording ∧
      v.field 4 "limits" Limits.ofValue .standard = .ok c.limits := by
  unfold ofValue at h
  obtain ⟨_, -, h⟩ := ok_of_bind h
  obtain ⟨service, hservice, h⟩ := ok_of_bind h
  obtain ⟨backend, hbackend, h⟩ := ok_of_bind h
  obtain ⟨_, -, h⟩ := ok_of_bind h
  obtain ⟨recording, hrecording, h⟩ := ok_of_bind h
  obtain ⟨limits, hlimits, h⟩ := ok_of_bind h
  cases h
  exact ⟨hservice, hbackend, hrecording, hlimits⟩

/-! ## Numbers by their paths -/

/-- The value at the end of a path of fields.  A field of a table is found by its name, one of a
list by its place in the group. -/
def Value.place? : List (Nat × String) → Value → Option Value
  | [], v => some v
  | (index, key) :: path, v => (v.given? index key).bind fun found => place? path found.2

/-- What a field keeps of a number. -/
def kept (isPort : Bool) (n : Nat) : Nat := if isPort then n % 65536 else n

/-- `x` is what is kept of the number at the end of a path, or the default if nothing is there. -/
structure Holds (v : Value) (path : List (Nat × String)) (isPort : Bool) (standard x : Nat) :
    Prop where
  given : ∀ w, v.place? path = some w → ∃ n, readNumber w = .ok n ∧ x = kept isPort n
  missing : v.place? path = none → x = standard

/-- A field that was read is its default, or what its reader makes of the value given for it. -/
theorem given_of_field {α : Type} {index : Nat} {key : String} {read : Value → Except Problem α}
    {default a : α} (h : v.field index key read default = .ok a) :
    (v.given? index key = none ∧ a = default) ∨
      ∃ step w, v.given? index key = some (step, w) ∧ read w = .ok a := by
  cases hg : v.given? index key with
  | none =>
    rw [field_eq_of_missing hg] at h
    exact Or.inl ⟨rfl, (Except.ok.inj h).symm⟩
  | some found => exact Or.inr ⟨found.1, found.2, rfl, (field_eq_ok_iff hg read default a).1 h⟩

/-- A field of a group is a field of what the group stands in. -/
theorem Holds.above {α : Type} {index : Nat} {key : String} {read : Value → Except Problem α}
    {default a : α} (h : v.field index key read default = .ok a)
    (hread : ∀ w, read w = .ok a → Holds w path isPort standard x)
    (hdefault : a = default → x = standard) : Holds v ((index, key) :: path) isPort standard x := by
  rcases given_of_field h with ⟨hnone, ha⟩ | ⟨step, w, hsome, hw⟩
  · refine ⟨fun u hu => ?_, fun _ => hdefault ha⟩
    rw [Value.place?, hnone] at hu
    cases hu
  · have hplace : v.place? ((index, key) :: path) = w.place? path := by
      rw [Value.place?, hsome]
      rfl
    obtain ⟨hgiven, hmissing⟩ := hread w hw
    exact ⟨hplace ▸ hgiven, hplace ▸ hmissing⟩

/-- A field that is read as a number holds it. -/
theorem Holds.of_readNumber {n : Nat} (h : readNumber v = .ok n) :
    Holds v [] false standard n := by
  refine ⟨fun w hw => ?_, fun hnone => by cases hnone⟩
  cases hw
  exact ⟨n, h, rfl⟩

/-- A field that is read as a port holds the lower sixteen bits. -/
theorem Holds.of_readPort {p : UInt16} (h : readPort v = .ok p) :
    Holds v [] true standard p.toNat := by
  refine ⟨fun w hw => ?_, fun hnone => by cases hnone⟩
  cases hw
  unfold readPort at h
  cases hn : readNumber v with
  | error e =>
    rw [hn] at h
    cases h
  | ok n =>
    rw [hn] at h
    cases h
    exact ⟨n, rfl, UInt16.toNat_ofNat'⟩

/-- A field that holds a number. -/
structure NumberField where
  /-- The groups down to the field, each with its place among the fields of its group. -/
  path : List (Nat × String)
  isPort : Bool
  /-- Its default. -/
  standard : Nat
  /-- Its place in a configuration. -/
  get : Config → Nat

/-- The fields that hold numbers. -/
def numbers : List NumberField :=
  [⟨[(0, "service"), (1, "http"), (1, "port")], true, 8090, fun c => c.service.listener.port.toNat⟩,
    ⟨[(1, "backend"), (1, "port")], true, 8080, fun c => c.backend.port.toNat⟩,
    ⟨[(1, "backend"), (2, "request_timeout_secs")], false, 8, fun c => c.backend.timeout⟩,
    ⟨[(3, "recording"), (1, "poll_interval_ms")], false, 100, fun c => c.recording.pollInterval⟩,
    ⟨[(3, "recording"), (2, "speaking_timeout_ms")], false, 100,
      fun c => c.recording.speakingTimeout⟩,
    ⟨[(4, "limits"), (0, "max_concurrent_uploads")], false, 4, fun c => c.limits.uploads⟩,
    ⟨[(4, "limits"), (1, "max_concurrent_tick_fetches")], false, 16, fun c => c.limits.fetches⟩]

/-- Each number of a configuration is what is kept of the number at its path, or its default. -/
theorem held {c : Config} (h : ofValue v = .ok c) :
    ∀ f ∈ numbers, Holds v f.path f.isPort f.standard (f.get c) := by
  obtain ⟨hservice, hbackend, hrecording, hlimits⟩ := of_ofValue h
  intro f hf
  simp only [numbers, List.mem_cons, List.not_mem_nil, or_false] at hf
  rcases hf with rfl | rfl | rfl | rfl | rfl | rfl | rfl
  · refine .above hservice (fun w hw => ?_) fun he => congrArg (·.listener.port.toNat) he
    refine .above (Service.of_ofValue hw) (fun u hu => ?_) fun he => congrArg (·.port.toNat) he
    exact .above (Listener.of_ofValue hu) (fun _ => .of_readPort) (congrArg UInt16.toNat)
  · refine .above hbackend (fun w hw => ?_) fun he => congrArg (·.port.toNat) he
    exact .above (Backend.of_ofValue hw).1 (fun _ => .of_readPort) (congrArg UInt16.toNat)
  · refine .above hbackend (fun w hw => ?_) fun he => congrArg (·.timeout) he
    exact .above (Backend.of_ofValue hw).2 (fun _ => .of_readNumber) id
  · refine .above hrecording (fun w hw => ?_) fun he => congrArg (·.pollInterval) he
    exact .above (Recording.of_ofValue hw).1 (fun _ => .of_readNumber) id
  · refine .above hrecording (fun w hw => ?_) fun he => congrArg (·.speakingTimeout) he
    exact .above (Recording.of_ofValue hw).2 (fun _ => .of_readNumber) id
  · refine .above hlimits (fun w hw => ?_) fun he => congrArg (·.uploads) he
    exact .above (Limits.of_ofValue hw).1 (fun _ => .of_readNumber) id
  · refine .above hlimits (fun w hw => ?_) fun he => congrArg (·.fetches) he
    exact .above (Limits.of_ofValue hw).2 (fun _ => .of_readNumber) id

/-! ## Scalars -/

/-- A scalar is a whole number, or its numeral as a text. -/
def Scalar.Stands (s : Scalar) (n : Int) : Prop := s = .whole n ∨ s = .text (ofInt n)

/-- A numeral has no letters, so it is the same in lower case. -/
theorem lower_ofInt (n : Int) : Text.lower (ofInt n) = ofInt n := by
  have hsame : ∀ c ∈ signed n, Text.lowerChar c = [c] := fun c hc => by
    have hall := forall_numeralChar (p := fun c => Text.lowerChar c == [c]) (by decide +kernel)
      (by decide +kernel) (isNumeralChar_of_mem c hc)
    exact beq_iff_eq.1 hall
  have hflat : ∀ cs : List Char, (∀ c ∈ cs, Text.lowerChar c = [c]) →
      cs.flatMap Text.lowerChar = cs := by
    intro cs hcs
    induction cs with
    | nil => rfl
    | cons c cs ih =>
      rw [List.flatMap_cons, hcs c List.mem_cons_self,
        ih fun d hd => hcs d (List.mem_cons_of_mem c hd)]
      rfl
  rw [Text.lower, ofInt, String.toList_ofList, hflat _ hsame]

/-- A numeral is read up to a limit if it has no sign and its number is below the limit. -/
theorem bounded?_ofInt (limit : Nat) (n : Int) :
    Text.Numeral.bounded? limit (ofInt n) =
      if 0 ≤ n ∧ n.toNat < limit then some n.toNat else none := by
  unfold Text.Numeral.bounded?
  extract_lets ds
  have hds : ds = signed n := by
    simp only [ds, ofInt, String.toList_ofList]
    split
    · next he => exact absurd (he ▸ List.mem_cons_self) (not_mem_signed (by decide))
    · rfl
  rw [hds]
  obtain ⟨m, rfl, h⟩ | ⟨m, rfl, hm, h⟩ := signed_cases n
  · have hall : (digits m).all isDigit = true :=
      List.all_eq_true.2 (Text.Numeral.isDigit_of_mem_digits m)
    rw [h, isEmpty_digits, hall, Text.Numeral.value_digits]
    simp
  · have hminus : isDigit '-' = false := by decide
    have hsign : ('-' :: digits m).all isDigit = false := by rw [List.all_cons, hminus]; rfl
    rw [h, hsign, if_neg (fun hn : 0 ≤ -(m : Int) ∧ _ => absurd hn.1 (by omega))]
    rfl

/-- The numeral of a whole number of 64 bits without a sign is read as that number, and no other
numeral is. -/
theorem numberOf?_ofInt (n : Int) :
    numberOf? (ofInt n) = if 0 ≤ n ∧ n.toNat < wordLimit then some n.toNat else none := by
  have hword : ∀ word : String, word.toList.all isNumeralChar = false → (ofInt n == word) = false :=
    fun word h => beq_eq_false_iff_ne.2 (ofList_signed_ne h)
  have hyes : isYes (ofInt n) = false := by
    unfold isYes
    rw [hword "true" (by decide), hword "on" (by decide), hword "yes" (by decide)]
    rfl
  have hno : isNo (ofInt n) = false := by
    unfold isNo
    rw [hword "false" (by decide), hword "off" (by decide), hword "no" (by decide)]
    rfl
  unfold numberOf?
  rw [lower_ofInt, hyes, hno, bounded?_ofInt]
  rfl

/-- What stands for a whole number is read as that number, or not at all. -/
theorem readNumber_of_stands (hs : s.Stands n) (h : readNumber (.scalar origin s) = .ok m) :
    n = m := by
  rcases hs with rfl | rfl
  · rw [readNumber] at h
    split at h
    · cases h
      omega
    · cases h
  · rw [readNumber, numberOf?_ofInt] at h
    split at h
    · next number hnumber =>
      cases h
      split at hnumber
      · cases hnumber
        omega
      · cases hnumber
    · cases h

/-- Whatever stands for a number of 64 bits is read as that number. -/
theorem readNumber_eq_of_stands (hs : s.Stands m) (hm : m < wordLimit) :
    readNumber (.scalar origin s) = .ok m := by
  rcases hs with rfl | rfl
  · rw [readNumber, if_pos (Int.natCast_nonneg m), Int.toNat_natCast]
  · rw [readNumber, numberOf?_ofInt, if_pos ⟨Int.natCast_nonneg m, hm⟩, Int.toNat_natCast]

/-! ## A number alone -/

/-- A value that gives one field and nothing else. -/
def Value.alone : List (Nat × String) → Value → Value
  | [], w => w
  | (_, key) :: path, w => .table none [(key, alone path w)]

/-- A number that is given alone makes a configuration. -/
theorem ofValue_alone (h : readNumber w = .ok m) : ∀ f ∈ numbers,
    ∃ c, ofValue (.alone f.path w) = .ok c ∧ f.get c = kept f.isPort m := by
  have hport : readPort w = .ok (UInt16.ofNat m) := by rw [readPort, h]; rfl
  have hkept : (UInt16.ofNat m).toNat = kept true m := UInt16.toNat_ofNat'
  have hnumber : kept false m = m := rfl
  intro f hf
  simp only [numbers, List.mem_cons, List.not_mem_nil, or_false] at hf
  -- each group on the way has the field, and its other fields have their defaults
  rcases hf with rfl | rfl | rfl | rfl | rfl | rfl | rfl <;>
    simp [ofValue, Service.ofValue, Listener.ofValue, Backend.ofValue, Recording.ofValue,
      Limits.ofValue, Value.alone, Value.checkGroup, Value.field, Value.given?, Value.lookup?,
      Value.entries, h, hport, hkept, hnumber, Except.mapError, pure, Except.pure, bind,
      Except.bind]

/-! ## Files -/

/-- Of the number of a field, the field holds what is kept, or the file is refused. -/
theorem load_of_stands {d : Disk} {here : Path} {name : String} {f : NumberField}
    (hload : loadValue d here name = .ok v) (hf : f ∈ numbers)
    (hplace : v.place? f.path = some (.scalar origin s)) (hs : s.Stands n) :
    (∃ failure, load d here name = .error failure) ∨
      ∃ c, ∃ m : Nat, load d here name = .ok c ∧ n = m ∧ f.get c = kept f.isPort m := by
  have hread : load d here name = (ofValue v).mapError (.invalid name) := by rw [load, hload]
  cases hc : ofValue v with
  | error problem => exact Or.inl ⟨.invalid name problem, by rw [hread, hc]; rfl⟩
  | ok c =>
    obtain ⟨m, hm, hkept⟩ := (held hc f hf).given _ hplace
    exact Or.inr ⟨c, m, by rw [hread, hc]; rfl, readNumber_of_stands hs hm, hkept⟩

/-- Only a port that is too large is not kept as it is. -/
theorem kept_eq_iff : kept isPort m = m ↔ (isPort = true → m < 65536) := by
  cases isPort with
  | false =>
    refine ⟨fun _ h => ?_, fun _ => rfl⟩
    cases h
  | true =>
    rw [kept, if_pos rfl]
    constructor
    · intro h _
      omega
    · intro h
      exact Nat.mod_eq_of_lt (h rfl)

/-! ## All numbers -/

/-- What becomes of a whole number that is written for a field.

* If it stands at the path of the field, as a number or as its numeral in a text, then the field
  keeps it, or the file is refused; below zero the file is always refused.  What is kept is the
  number itself, but for a port that is too large.
* A number of 64 bits that is given alone is never refused.
* A file gives the number that a numeral stands for, where that has 64 bits with the sign.
* The command line and the control interface never take a port for another one. -/
theorem numbers_kept (f : NumberField) (hf : f ∈ numbers) (n : Int) :
    (∀ d here name v origin s, loadValue d here name = .ok v →
      v.place? f.path = some (.scalar origin s) → s.Stands n →
        (∃ failure, load d here name = .error failure) ∨
          ∃ c, ∃ m : Nat, load d here name = .ok c ∧ n = m ∧ f.get c = kept f.isPort m ∧
            (f.get c = m ↔ (f.isPort = true → m < 65536))) ∧
    (∀ origin s (m : Nat), s.Stands n → n = m → m < wordLimit →
      ∃ c, ofValue (.alone f.path (.scalar origin s)) = .ok c ∧ f.get c = kept f.isPort m) ∧
    (∀ format : Format,
      (fits n = true → format.scalar? (signed n) =
        some (if format = .ini then .text (ofInt n) else .whole n)) ∧
      (fits n = false → ∀ s, format.scalar? (signed n) = some s →
        format = .ini ∧ s = .text (ofInt n) ∨
          (format = .json ∨ format = .yaml ∨ format = .ron) ∧ ∃ x, s = .real x)) ∧
    (∀ p, CommandLine.readPort (ofInt n) = .ok p ↔ n = p.toNat) ∧
    (∀ call host topic, Control.decodeBody Control.ConfigUpdate.shape call =
        .ok [host, some (.integer n), topic] →
      ∃ p : UInt16, (Control.ConfigUpdate.ofFields [host, some (.integer n), topic]).port = some p ∧
        n = p.toNat) := by
  refine ⟨?_, ?_, fun format => format.scalar?_signed n,
    fun _ => CommandLine.readPort_ofInt_eq_ok_iff, fun _ _ _ => Control.port_of_decodeBody⟩
  · intro d here name v origin s hload hplace hs
    rcases load_of_stands hload hf hplace hs with hfailed | ⟨c, m, hc, hm, hkept⟩
    · exact Or.inl hfailed
    · exact Or.inr ⟨c, m, hc, hm, hkept, hkept ▸ kept_eq_iff⟩
  · rintro origin s m hs rfl hm
    exact ofValue_alone (readNumber_eq_of_stands hs hm) f hf

/-! ## Whole files -/

/-- The port of the backend. -/
def backendPort : NumberField := numbers[1]

/-- A file that gives the backend's port alone comes to the value that gives that field and
nothing else. -/
theorem ofTop_portValue (origin : Option String) (s : Scalar) :
    Value.ofTop (portValue origin s).entries = .alone backendPort.path (.scalar origin s) := by
  have hkey : KeyStep.ofKey "backend" = [.name "backend"] := by decide
  have hpath : backendPort.path = [(1, "backend"), (1, "port")] := rfl
  rw [hpath]
  simp [Value.ofTop, portValue, single, hkey, KeyStep.store, Value.alone, Value.entries, Value.put,
    Value.putIn, Value.made, Value.lookup?, Value.lay, Value.layAll]

/-- A file of any format that gives the backend a port of 64 bits, and nothing else, is loaded, and
the backend is looked for at the lower sixteen bits of that port. -/
theorem load_portText {d : Disk} {here : Path} {name : String} {p : Path} {format : Format} {m : Nat}
    (hlocate : locate d ((Path.ofText name).under here) = some (p, format))
    (htext : fileText? d p = some (format.portText (signed m))) (hfits : fits m = true) :
    ∃ c, load d here name = .ok c ∧ c.backend.port.toNat = m % 65536 := by
  have hscalar := (format.scalar?_signed m).1 hfits
  have hstands : Scalar.Stands (if format = .ini then .text (ofInt m) else .whole m) m := by
    split
    · exact Or.inr rfl
    · exact Or.inl rfl
  -- a number that has 64 bits with the sign has 64 bits without
  have hword : m < wordLimit := by
    have hlimit := (fits_iff.1 hfits).2
    have hword : wordLimit = 18446744073709551616 := rfl
    omega
  have hnumber : readNumber (.scalar (some (p.relativeTo here).text)
      (if format = .ini then .text (ofInt m) else .whole m)) = .ok m :=
    readNumber_eq_of_stands hstands hword
  obtain ⟨c, hc, hport⟩ := ofValue_alone hnumber backendPort (List.getElem_mem (by decide))
  refine ⟨c, ?_, hport⟩
  have hload : loadValue d here name = .ok (.alone backendPort.path (.scalar
      (some (p.relativeTo here).text) (if format = .ini then .text (ofInt m) else .whole m))) := by
    rw [loadValue, hlocate]
    dsimp only
    rw [htext]
    dsimp only
    rw [Format.read_portText, hscalar]
    exact congrArg Except.ok (ofTop_portValue _ _)
  rw [load, hload]
  dsimp only
  rw [hc]
  rfl

/-! ## A port that is too large -/

/-- The whole number at the end of a path. -/
def Value.whole? (v : Value) (path : List (Nat × String)) : Option Int :=
  match v.place? path with
  | some (.scalar _ (.whole n)) => some n
  | _ => none

/-- A whole number at the end of a path is what stands there. -/
theorem Value.place?_of_whole? (h : v.whole? path = some n) :
    ∃ origin, v.place? path = some (.scalar origin (.whole n)) := by
  unfold whole? at h
  split at h
  · next origin _ hplace =>
    cases h
    exact ⟨origin, hplace⟩
  · cases h

/-- A file that gives the backend a port that is too large. -/
def largePort : String := "[backend]\nport = 70000\n"

/-- The disk with that file. -/
def largePortDisk : Disk :=
  ⟨⟨[(["srv"], .directory), (["srv", "relay.toml"], .file largePort.toUTF8.data.toList)]⟩⟩

/-- The file is found, and the port in it is taken for another one. -/
theorem load_largePort : ∃ v origin c,
    loadValue largePortDisk (.ofText "/srv") "relay" = .ok v ∧
      v.place? backendPort.path = some (.scalar origin (.whole 70000)) ∧
        load largePortDisk (.ofText "/srv") "relay" = .ok c ∧ c.backend.port = 4464 := by
  have hlocate : locate largePortDisk ((Path.ofText "relay").under (.ofText "/srv")) =
      some (⟨["", "srv", "relay.toml"]⟩, .toml) := by cbv
  have htext : fileText? largePortDisk ⟨["", "srv", "relay.toml"]⟩ = some largePort := by cbv
  have horigin : (Path.relativeTo ⟨["", "srv", "relay.toml"]⟩ (.ofText "/srv")).text =
      "relay.toml" := by cbv
  -- the file is read once, and both results are taken from it
  have hread : ((Format.read .toml (some "relay.toml") largePort).map fun v =>
        let top := Value.ofTop v.entries
        (top.whole? backendPort.path, (ofValue top).toOption.map (·.backend.port))) =
      some (some 70000, some 4464) := by decide +kernel
  obtain ⟨v, hv, hboth⟩ := Option.map_eq_some_iff.1 hread
  obtain ⟨hwhole, hport⟩ := Prod.mk.inj hboth
  obtain ⟨origin, hplace⟩ := Value.place?_of_whole? hwhole
  have hload : loadValue largePortDisk (.ofText "/srv") "relay" = .ok (.ofTop v.entries) := by
    rw [loadValue, hlocate]
    dsimp only
    rw [htext, horigin]
    dsimp only
    rw [hv]
  cases hc : ofValue (.ofTop v.entries) with
  | error problem =>
    rw [hc] at hport
    cases hport
  | ok c =>
    rw [hc] at hport
    refine ⟨.ofTop v.entries, origin, c, hload, hplace, ?_, Option.some.inj hport⟩
    rw [load, hload]
    show (ofValue (.ofTop v.entries)).mapError (Failure.invalid "relay") = .ok c
    rw [hc]
    rfl

/-- The port in that file stands at its path, and what is kept of it is another number. -/
theorem numbers_kept_sample : backendPort ∈ numbers ∧ ∃ v origin c,
    loadValue largePortDisk (.ofText "/srv") "relay" = .ok v ∧
      v.place? backendPort.path = some (.scalar origin (.whole 70000)) ∧
        load largePortDisk (.ofText "/srv") "relay" = .ok c ∧
          backendPort.get c = kept backendPort.isPort 70000 := by
  have hf : backendPort ∈ numbers := List.getElem_mem (by decide)
  obtain ⟨v, origin, c, hload, hplace, hc, -⟩ := load_largePort
  refine ⟨hf, v, origin, c, hload, hplace, hc, ?_⟩
  rcases (numbers_kept backendPort hf 70000).1 _ _ _ v origin _ hload hplace (Or.inl rfl) with
    ⟨failure, herror⟩ | ⟨c', m, hc', hm, hkept, -⟩
  · rw [hc] at herror
    cases herror
  · rw [hc] at hc'
    cases hc'
    cases Int.ofNat.inj hm
    exact hkept

/-- A port that is too large is taken for another one, where the command line and the control
interface refuse it. -/
theorem port_taken_for_another :
    ¬ (∀ d here name v, loadValue d here name = .ok v → ∀ f ∈ numbers, ∀ origin (n : Int),
      v.place? f.path = some (.scalar origin (.whole n)) →
        (∃ failure, load d here name = .error failure) ∨
          ∃ c, load d here name = .ok c ∧ (f.get c : Int) = n) ∧
    (load largePortDisk (.ofText "/srv") "relay").toOption.map (·.backend.port) = some 4464 ∧
    CommandLine.readPort "70000" = .error (.outOfRange 70000) ∧
    (Control.decodeBody Control.ConfigUpdate.shape ⟨"PUT", "/config", some "application/json",
      "\x7b\"port\":70000\x7d"⟩).toOption = none := by
  obtain ⟨v, origin, c, hload, hplace, hc, hport⟩ := load_largePort
  refine ⟨fun h => ?_, ?_, by decide +kernel, by decide +kernel⟩
  · rcases h _ _ _ v hload backendPort (List.getElem_mem (by decide)) origin _ hplace with
      ⟨failure, herror⟩ | ⟨c', hc', hn⟩
    · rw [hc] at herror
      cases herror
    · have hsmall : backendPort.get c' < 65536 := c'.backend.port.toNat_lt
      omega
  · rw [hc]
    exact congrArg some hport

end PushToTalk.Config

import PushToTalk.Url.Host

/-
  The characters of hosts.

  The host of the backend is a text that somebody has typed.  It becomes part of every address that
  is asked, between the user and the port, and it would do harm there if it had a mark in it with
  which one of these parts ends: what is behind the mark would be read as something else.  However a
  host was given, it is spelled without the marks that divide an address.  Only an address of eight
  groups has colons, and that one stands in square brackets.

  1. **Marks** — the characters that divide an address in front of its path.  A text without any of
     them is plain (`IsPlain`), and plain texts may be put together.

  2. **Punycode** — a label with other characters than ASCII is spelled by the ASCII characters in
     it and by a number in letters and digits.  The number is written by a loop in a loop in a loop,
     and each of the three keeps what is written plain (`isPlain_writeStep`, `isPlain_foldl_pass`,
     `isPlain_placeAll`).

  3. **Names** — a label is checked before it is written, and marks are forbidden in it
     (`isPlain_toAscii?`).

  4. **Numbers** — addresses have digits, dots and colons whatever their value.

  Which names and numbers are hosts at all is not told of here: the statements begin with a host
  that has been read.

  Main statement: `Host.spelled_of_parse`.
-/

namespace PushToTalk.Url

/-! ## Marks -/

/-- The marks that divide what stands in front of the path, and the brackets. The question mark
and the number sign are among them, since they end what stands there as well as the path. -/
def marks : List Char := "#/:?@[\\]".toList

/-- A text without marks. -/
def IsPlain (cs : List Char) : Prop := ∀ c ∈ cs, c ∉ marks

-- The list is gone through, not all characters there are.
instance (cs : List Char) : Decidable (IsPlain cs) :=
  List.decidableBAll (fun c => c ∉ marks) cs

/-- Two plain texts make a plain one. -/
theorem isPlain_append {cs ds : List Char} (hc : IsPlain cs) (hd : IsPlain ds) :
    IsPlain (cs ++ ds) := by
  intro c h
  rcases List.mem_append.1 h with h | h
  · exact hc c h
  · exact hd c h

/-- A class of characters that no mark belongs to. The condition is checked on the eight marks,
by computation. -/
theorem not_mem_marks {p : Char → Bool} {c : Char} (hc : p c = true)
    (hmarks : marks.any p = false) : c ∉ marks := by
  intro hm
  exact List.any_eq_false.1 hmarks c hm hc

/-- Plain pieces, with something between them that is no mark, make a plain text. -/
theorem isPlain_join {sep : Char} {pieces : List (List Char)} (hsep : sep ∉ marks)
    (h : ∀ piece ∈ pieces, IsPlain piece) : IsPlain (Text.join sep pieces) := by
  intro c hc
  rcases Text.mem_join hc with rfl | ⟨piece, hp, hc⟩
  · exact hsep
  · exact h piece hp c hc

/-- The digits of a number are plain. -/
theorem isPlain_digits (n : Nat) : IsPlain (Text.Numeral.digits n) := by
  intro c hc
  exact not_mem_marks (Text.Numeral.isDigit_of_mem_digits n c hc) (by decide)

/-! ## Punycode -/

namespace Punycode

/-- The digits of Punycode, which are letters and digits of ASCII. -/
theorem digitChar_not_mem_marks {d : Nat} (h : d < 36) : digitChar d ∉ marks := by
  have all : ∀ e ∈ List.range 36, digitChar e ∉ marks := by decide
  exact all d (List.mem_range.2 h)

/-- A number in Punycode is written digit by digit, the last one in a base that depends on where
it stands. Every digit is below 36, because the base is. -/
theorem isPlain_writeStep (bias k step : Nat) : IsPlain (writeStep bias k step) := by
  have low := threshold_pos k bias
  have high := threshold_le k bias
  intro c hc
  rw [writeStep] at hc
  split at hc
  · obtain rfl := List.mem_singleton.1 hc
    exact digitChar_not_mem_marks (by omega)
  · rcases List.mem_cons.1 hc with rfl | hc
    · -- the threshold is at least one, so the remainder and the threshold together stay below 36
      have hmod : (step - threshold k bias) % (36 - threshold k bias) < 36 - threshold k bias :=
        Nat.mod_lt _ (by omega)
      exact digitChar_not_mem_marks (by omega)
    · exact isPlain_writeStep bias (k + 1) _ c hc
termination_by step
decreasing_by
  have := Nat.div_le_self (step - threshold k bias) (36 - threshold k bias)
  omega

/-- For one character of the label either nothing is written or a number. -/
theorem isPlain_pass {basic n : Nat} {w : Writing} (h : IsPlain w.written) (c : Char) :
    IsPlain (w.pass basic n c).written := by
  unfold Writing.pass
  split
  · exact h
  · split
    · exact isPlain_append h (isPlain_writeStep _ _ _)
    · exact h

/-- In a pass over all characters of a label only numbers are written. -/
theorem isPlain_foldl_pass {basic n : Nat} {w : Writing} (h : IsPlain w.written)
    (label : List Char) : IsPlain (label.foldl (Writing.pass basic n) w).written := by
  induction label generalizing w with
  | nil => exact h
  | cons c rest ih => exact ih (isPlain_pass h c)

/-- In the passes over all numbers that have to be placed only numbers are written. -/
theorem isPlain_placeAll (label : List Char) (basic : Nat) {todo : List Nat} {n : Nat}
    {w : Writing} (h : IsPlain w.written) : IsPlain (placeAll label basic todo n w).written := by
  induction todo generalizing n w with
  | nil => exact h
  | cons m later ih =>
    rw [placeAll]
    apply ih
    apply isPlain_foldl_pass
    exact h

/-- A label without marks has none in Punycode either. -/
theorem isPlain_encode {label : List Char} (h : IsPlain label) : IsPlain (encode label) := by
  apply isPlain_placeAll
  show IsPlain (if (label.filter fun c => c.toNat < 128).isEmpty then [] else _)
  split
  · exact fun c hc => absurd hc List.not_mem_nil
  · apply isPlain_append
    · exact fun c hc => h c (List.mem_filter.1 hc).1
    · decide

end Punycode

/-! ## Names -/

/-- A label is written as it is, or in Punycode behind a prefix of its own. -/
theorem isPlain_write {label : List Char} (h : IsPlain label) : IsPlain (Label.write label) := by
  unfold Label.write
  split
  · exact h
  · exact isPlain_append (by decide) (Punycode.isPlain_encode h)

/-- A mark is forbidden in a name. -/
theorem isPlain_of_areWellFormed {labels : List (List Char)}
    (h : Domain.areWellFormed labels = true) : ∀ label ∈ labels, IsPlain label := by
  intro label hl c hc
  -- of all that is checked, only the first part is needed: no character is forbidden
  have hall := (Bool.and_eq_true_iff.1 h).1
  have hlabel := (Bool.and_eq_true_iff.1 (List.all_eq_true.1 hall label hl)).1
  exact not_mem_marks (p := fun c => !Domain.isForbidden c)
    (List.all_eq_true.1 hlabel c hc) (by decide)

/-- The labels that a text is read as are plain, since they are checked before they are written. -/
theorem isPlain_toAscii? {cs : List Char} {labels : List (List Char)}
    (h : Domain.toAscii? cs = some labels) : ∀ label ∈ labels, IsPlain label := by
  obtain ⟨read, hread, rfl⟩ := Option.map_eq_some_iff.1 h
  have hformed := (Option.filter_eq_some_iff.1 hread).2
  intro label hl
  obtain ⟨l, hmem, rfl⟩ := List.mem_map.1 hl
  exact isPlain_write (isPlain_of_areWellFormed hformed l hmem)

/-! ## Numbers -/

/-- Four numbers with dots between them are plain. -/
theorem isPlain_ipv4 (a : Ipv4) : IsPlain a.text := by
  have hdot : IsPlain ['.'] := by decide
  have hlast : IsPlain (Text.Numeral.digits (a.toNat % 256) ++ []) :=
    isPlain_append (isPlain_digits _) (by decide)
  exact isPlain_append (isPlain_digits _) (isPlain_append hdot (isPlain_append (isPlain_digits _)
    (isPlain_append hdot (isPlain_append (isPlain_digits _) (isPlain_append hdot hlast)))))

/-- Hexadecimal digits are plain, however many. -/
theorem isPlain_hexDigits (n : Nat) : IsPlain (Text.hexDigits n) := by
  have all : ∀ d ∈ List.range 16, Nat.digitChar d ∉ marks := by decide
  induction n using Nat.strongRecOn with
  | _ n ih =>
    rw [Text.hexDigits]
    split
    · next h =>
      intro c hc
      obtain rfl := List.mem_singleton.1 hc
      exact all n (List.mem_range.2 h)
    · refine isPlain_append (ih (n / 16) (by omega)) ?_
      intro c hc
      obtain rfl := List.mem_singleton.1 hc
      exact all _ (List.mem_range.2 (Nat.mod_lt _ (by omega)))

/-- The only mark in groups is the colon between them. -/
theorem mem_groupsText {gs : List UInt16} {c : Char} (h : c ∈ Ipv6.groupsText gs) :
    c = ':' ∨ c ∉ marks := by
  rcases Text.mem_join h with rfl | ⟨piece, hp, hc⟩
  · exact Or.inl rfl
  · obtain ⟨g, -, rfl⟩ := List.mem_map.1 hp
    exact Or.inr (isPlain_hexDigits _ c hc)

/-- The only mark in an address of eight groups is the colon, also where the longest run of zeros
is left out. -/
theorem mem_ipv6 {a : Ipv6} {c : Char} (h : c ∈ a.text) : c = ':' ∨ c ∉ marks := by
  unfold Ipv6.text at h
  split at h
  split at h
  · exact mem_groupsText h
  · rcases List.mem_append.1 h with h | h
    · exact mem_groupsText h
    · rcases List.mem_cons.1 h with h | h
      · exact Or.inl h
      · rcases List.mem_cons.1 h with h | h
        · exact Or.inl h
        · exact mem_groupsText h

/-! ## Hosts -/

/-- How hosts are spelled: without marks, or with colons in brackets. -/
inductive Host.Spelled : List Char → Prop
  | plain {cs : List Char} (h : IsPlain cs) : Spelled cs
  | bracketed {cs : List Char} (h : ∀ c ∈ cs, c = ':' ∨ c ∉ marks) : Spelled ('[' :: (cs ++ [']']))

/-- A host that is no address in brackets has only plain characters: it is four numbers, or
labels with dots between them. -/
theorem Host.spelled_ofLabels {labels : List (List Char)} {host : Host}
    (hplain : ∀ label ∈ labels, IsPlain label) (h : Host.ofLabels labels = .ok host) :
    Host.Spelled host.text := by
  unfold Host.ofLabels at h
  split at h
  · cases h
  · split at h
    · split at h
      · next a ha =>
        cases h
        exact .plain (isPlain_ipv4 a)
      · cases h
    · cases h
      exact .plain (isPlain_join (by decide) hplain)

/-- A host that was read is spelled in one of these two ways. The cases are those of the reader,
in its order: brackets first, then labels. -/
theorem Host.spelled_of_parse {cs : List Char} {host : Host} (h : Host.parse cs = .ok host) :
    Host.Spelled host.text := by
  unfold Host.parse at h
  split at h
  · cases h
  · -- Between square brackets there are eight groups.
    unfold Host.ofBracketed at h
    split at h
    · cases h
      exact .bracketed fun c hc => mem_ipv6 hc
    · cases h
  · split at h
    · next labels hlabels =>
      obtain ⟨t, -, ht⟩ := Option.bind_eq_some_iff.1 hlabels
      exact Host.spelled_ofLabels (isPlain_toAscii? ht) h
    · cases h

/-- In front of the path, only colons and brackets stand in a host. -/
theorem Host.Spelled.mem {cs : List Char} {c : Char} (h : Host.Spelled cs) (hc : c ∈ cs) :
    c ∈ ":[]".toList ∨ c ∉ marks := by
  cases h with
  | plain h => exact Or.inr (h c hc)
  | bracketed h =>
    rcases List.mem_cons.1 hc with rfl | hc
    · exact Or.inl (by decide)
    · rcases List.mem_append.1 hc with hc | hc
      · rcases h c hc with rfl | hc
        · exact Or.inl (by decide)
        · exact Or.inr hc
      · obtain rfl := List.mem_singleton.1 hc
        exact Or.inl (by decide)

end PushToTalk.Url

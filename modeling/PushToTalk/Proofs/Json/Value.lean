import PushToTalk.Proofs.Json.Token

/-
  The values of JSON as a grammar, and passing over one.

  The reader of a record meets members that it does not know, and passes over their values without
  making anything of them (`skipValue`).  A text that goes wrong there is refused all the same, so
  to tell which texts are read at all one has to tell which texts are passed over.  Here it is shown
  that these are the values of the grammar and nothing else.

  A value is a token, or a list or an object.  What stands inside of a list or an object is
  described from between two of its members on (`IsInside`), because that is where `skipFrom` looks
  for the next one.  The two descriptions refer to each other as deep as the value is nested,
  whereas `skipFrom` is a loop with a stack of what is still open.  To bring the two together is the
  point of this module.

  1. **Scalars** — words, texts and numbers (`scalar_of_skipScalar`, `skipScalar_append`).  A number
     has no end of its own: it is over where nothing follows that it could go on with, which is why
     `EndsNumber` stands in every statement about what comes behind a value.

  2. **Keys** — a text and a colon, with blanks around them (`skipKey_eq_ok_iff`).

  3. **What is in the grammar is passed over**, by recursion on the value (`skipFrom_value`).  The
     stack below is arbitrary there, so that the statement can be used at every depth.

  4. **What is passed over is in the grammar.**  Here the recursion is that of the loop, and what is
     left of the text is the end of every list and object that is still open (`IsRest`).  Each turn
     of the loop puts its part in front of what the next one gives (`passes_of_skipFrom`).

  A value that is passed over may be nested as deep as it likes: the loop has no limit, and neither
  has the grammar.

  Main statements: `skipValue_append` and `value_of_skipValue`.
-/

namespace PushToTalk.Json

open Text.Numeral (isDigit)

variable {s t v rest g : List Char} {c : Char} {frame : Frame} {frames outer : List Frame}
  {first : Bool}

/-! ## The grammar -/

/-- The characters that stand around the members of a list or an object. -/
def Frame.opening : Frame → Char
  | .list => '['
  | .object => '\x7b'

/-- The character that ends a list or an object. -/
def Frame.closing : Frame → Char
  | .list => ']'
  | .object => '\x7d'

/-- What separates a member from the one in front of it; the first has none in front. -/
inductive IsSeparator : Bool → List Char → Prop
  | first : IsSeparator true []
  | later {g : List Char} (hg : AreGaps g) : IsSeparator false (g ++ [','])

/-- What stands in front of the value of a member: its key with the colon, or nothing in a list. -/
inductive IsKey : Frame → List Char → Prop
  | none : IsKey .list []
  | text {g t g' : List Char} (hg : AreGaps g) (ht : IsText t) (hg' : AreGaps g') :
      IsKey .object (g ++ '"' :: (t ++ '"' :: (g' ++ [':'])))

/-- A value that is neither a list nor an object. -/
inductive IsScalar : List Char → Prop
  | null : IsScalar "null".toList
  | yes : IsScalar "true".toList
  | no : IsScalar "false".toList
  | text {t : List Char} (ht : IsText t) : IsScalar ('"' :: (t ++ ['"']))
  | number {t : List Char} (ht : IsNumber t) : IsScalar t

mutual

/-- A value. -/
inductive IsValue : List Char → Prop
  | scalar {t : List Char} (ht : IsScalar t) : IsValue t
  | nested {frame : Frame} {t : List Char} (ht : IsInside frame true t) :
      IsValue (frame.opening :: t)

/-- What is left of a list or an object in front of its first member or behind a later one. -/
inductive IsInside : Frame → Bool → List Char → Prop
  | done {frame : Frame} {first : Bool} {g : List Char} (hg : AreGaps g) :
      IsInside frame first (g ++ [frame.closing])
  | more {frame : Frame} {first : Bool} {sep key g v t : List Char} (hsep : IsSeparator first sep)
      (hkey : IsKey frame key) (hg : AreGaps g) (hv : IsValue v) (ht : IsInside frame false t) :
      IsInside frame first (sep ++ (key ++ (g ++ (v ++ t))))

end

/-! ## Scalars -/

/-- A word is read off the front of a text that has it. -/
theorem readWord_append (word rest : List Char) : readWord word (word ++ rest) = .ok rest := by
  induction word with
  | nil => rfl
  | cons w word ih =>
    rw [List.cons_append, readWord, if_pos (beq_self_eq_true w)]
    exact ih

/-- A word is read only where it stands. -/
theorem word_of_readWord {word : List Char} (h : readWord word s = .ok rest) :
    s = word ++ rest := by
  induction word generalizing s with
  | nil =>
    cases h
    rfl
  | cons w word ih =>
    cases s with
    | nil => cases h
    | cons c s =>
      rw [readWord] at h
      split at h
      · next hc =>
        rw [beq_iff_eq.1 hc, ih h]
        rfl
      · cases h

/-- A number without its sign starts with a digit, a zero or another one. -/
theorem unsigned_eq_cons (h : IsUnsigned t) : ∃ c t', t = c :: t' ∧ isDigit c = true := by
  obtain ⟨whole, fraction, exponent, hwhole, -, -, rfl⟩ := h
  rcases hwhole with rfl | ⟨⟨hne, hdigits⟩, -⟩
  · exact ⟨'0', _, rfl, by decide⟩
  · obtain ⟨c, ds, rfl⟩ := List.exists_cons_of_ne_nil hne
    exact ⟨c, _, rfl, hdigits c List.mem_cons_self⟩

/-- A number starts with a digit or with a minus sign. -/
theorem number_eq_cons (h : IsNumber t) : ∃ c t', t = c :: t' ∧ (c = '-' ∨ isDigit c = true) := by
  rcases h with h | ⟨u, -, rfl⟩
  · obtain ⟨c, t', rfl, hc⟩ := unsigned_eq_cons h
    exact ⟨c, t', rfl, Or.inr hc⟩
  · exact ⟨'-', u, rfl, Or.inl rfl⟩

/-- A number is passed over where nothing follows that it could go on with. -/
theorem skipScalar_number (h : IsNumber t) (hrest : EndsNumber rest) :
    skipScalar (t ++ rest) = .ok rest := by
  rcases h with h | ⟨u, hu, rfl⟩
  · have hskip := skipDigits_unsigned h hrest
    obtain ⟨c, t', rfl, hc⟩ := unsigned_eq_cons h
    rw [List.cons_append] at hskip ⊢
    unfold skipScalar
    split
    all_goals first
      | next he =>
        cases he
        exact absurd hc (by decide)
      | skip
    · next he =>
      cases he
      rw [if_pos hc]
      exact hskip
    · next he => cases he
  · exact skipDigits_unsigned hu hrest

/-- A scalar is passed over up to its end. Words and texts end by themselves, so only a number
needs to know what comes behind. -/
theorem skipScalar_append (h : IsScalar t) (hrest : EndsNumber rest) :
    skipScalar (t ++ rest) = .ok rest := by
  cases h with
  | null => exact readWord_append "ull".toList rest
  | yes => exact readWord_append "rue".toList rest
  | no => exact readWord_append "alse".toList rest
  | @text t ht =>
    show skipText (t ++ ['"'] ++ rest) = .ok rest
    exact skipText_eq_ok_iff.2 ⟨t, ht, by simp⟩
  | number ht => exact skipScalar_number ht hrest

/-- What is passed over as a scalar is one: the first character decides which kind it is, and the
rest is read as that kind. -/
theorem scalar_of_skipScalar (h : skipScalar s = .ok rest) :
    ∃ t, IsScalar t ∧ s = t ++ rest := by
  unfold skipScalar at h
  split at h
  · exact ⟨_, .null, congrArg ('n' :: ·) (word_of_readWord h)⟩
  · exact ⟨_, .yes, congrArg ('t' :: ·) (word_of_readWord h)⟩
  · exact ⟨_, .no, congrArg ('f' :: ·) (word_of_readWord h)⟩
  · obtain ⟨t, ht, rfl⟩ := skipText_eq_ok_iff.1 h
    exact ⟨_, .text ht, by simp⟩
  · obtain ⟨u, hu, rfl⟩ := unsigned_of_skipDigits h
    exact ⟨_, .number (Or.inr ⟨u, hu, rfl⟩), rfl⟩
  · split at h
    · obtain ⟨u, hu, hs⟩ := unsigned_of_skipDigits h
      exact ⟨u, .number (Or.inl hu), hs⟩
    · cases h
  · cases h

/-- The first character of a scalar. None of them opens or closes anything, or separates. -/
def StartsScalar (c : Char) : Prop :=
  c = 'n' ∨ c = 't' ∨ c = 'f' ∨ c = '"' ∨ c = '-' ∨ isDigit c = true

/-- By its first character a scalar is told from all else that may come. -/
theorem scalar_eq_cons (h : IsScalar t) : ∃ c t', t = c :: t' ∧ StartsScalar c := by
  unfold StartsScalar
  cases h with
  | null => exact ⟨'n', _, rfl, by simp⟩
  | yes => exact ⟨'t', _, rfl, by simp⟩
  | no => exact ⟨'f', _, rfl, by simp⟩
  | text ht => exact ⟨'"', _, rfl, by simp⟩
  | number ht =>
    obtain ⟨c, t', rfl, hc⟩ := number_eq_cons ht
    exact ⟨c, t', rfl, by simp [hc]⟩

/-- A character that starts no scalar is not the first one of a scalar. With a character that is
written out the hypothesis holds by computation. -/
theorem StartsScalar.ne {d : Char} (h : StartsScalar c) (hd : ¬ StartsScalar d) : c ≠ d := by
  rintro rfl
  exact hd h

instance (c : Char) : Decidable (StartsScalar c) :=
  inferInstanceAs (Decidable (_ ∨ _))

/-- No scalar starts with a blank, so blanks in front of it end where it starts. -/
theorem StartsScalar.not_gap (h : StartsScalar c) : isGap c = false := by
  by_contra hgap
  simp only [isGap, Bool.or_eq_true, beq_iff_eq, Bool.not_eq_false] at hgap
  -- a blank is one of four characters
  rcases hgap with ((rfl | rfl) | rfl) | rfl <;> exact absurd h (by decide)

/-- A value does not start with a blank, nor with what ends a list or an object. -/
theorem value_eq_cons (h : IsValue v) :
    ∃ c v', v = c :: v' ∧ isGap c = false ∧ ∀ frame : Frame, c ≠ frame.closing := by
  cases h with
  | scalar ht =>
    obtain ⟨c, t', rfl, hc⟩ := scalar_eq_cons ht
    refine ⟨c, t', rfl, hc.not_gap, fun frame => ?_⟩
    cases frame with
    | list | object => exact hc.ne (by decide)
  | @nested frame t ht =>
    refine ⟨frame.opening, t, rfl, ?_, fun other => ?_⟩
    · cases frame <;> rfl
    · cases frame <;> cases other <;> decide

/-! ## Keys -/

/-- A key is passed over up to the end of its colon, and only a key is. -/
theorem skipKey_eq_ok_iff : skipKey s = .ok rest ↔
    ∃ key, IsKey .object key ∧ s = key ++ rest := by
  constructor
  · -- blanks, a quote, a text and a colon, as they are looked for
    intro h
    unfold skipKey at h
    split at h
    · cases h
    · next r he =>
      obtain ⟨g, hg, rfl⟩ := exists_gaps he
      split at h
      · cases h
      · next r' htext =>
        obtain ⟨t, ht, rfl⟩ := skipText_eq_ok_iff.1 htext
        split at h
        · cases h
        · next r'' he' =>
          cases h
          obtain ⟨g', hg', rfl⟩ := exists_gaps he'
          exact ⟨_, .text hg ht hg', by simp⟩
        · cases h
    · cases h
  · rintro ⟨key, hkey, rfl⟩
    cases hkey with
    | @text g t g' hg ht hg' =>
      have htext : skipText (t ++ '"' :: (g' ++ ':' :: rest)) = .ok (g' ++ ':' :: rest) :=
        skipText_eq_ok_iff.2 ⟨t, ht, rfl⟩
      have hcolon : skipGaps (g' ++ ':' :: rest) = ':' :: rest := skipGaps_front hg' (by decide)
      have hfront : g ++ '"' :: (t ++ '"' :: (g' ++ [':'])) ++ rest =
          g ++ '"' :: (t ++ '"' :: (g' ++ ':' :: rest)) := by simp
      unfold skipKey
      rw [hfront, skipGaps_front hg (by decide)]
      simp only [htext, hcolon]

/-! ## Passing over a value -/

/-- The two ways to say that a list or an object ends here. -/
theorem closes_iff : closes frame c = true ↔ c = frame.closing := by
  cases frame <;> exact beq_iff_eq

/-! What `skipFrom` does in one turn. -/

/-- In the place of a value comes a scalar: it is passed over, and the next member is looked for. -/
theorem skipFrom_scalar {after : List Char} (he : skipGaps s = c :: t) (hc : StartsScalar c)
    (hskip : skipScalar (c :: t) = .ok after) :
    skipFrom frames .value s = skipFrom frames (.next true) after := by
  rw [skipFrom.eq_def]
  dsimp only
  split
  · next he' =>
    rw [he] at he'
    exact absurd (List.cons.inj he').1 (hc.ne (by decide))
  · next he' =>
    rw [he] at he'
    exact absurd (List.cons.inj he').1 (hc.ne (by decide))
  · -- neither bracket stands here, so it is taken for a scalar
    next hlist hobject =>
    split
    · next hskip' =>
      rw [he, hskip] at hskip'
      cases hskip'
    · next hskip' =>
      rw [he, hskip] at hskip'
      cases hskip'
      rfl

/-- In the place of a value comes a bracket: what it opens is put on the stack, and nothing has
been in it so far. -/
theorem skipFrom_nested (he : skipGaps s = frame.opening :: t) :
    skipFrom frames .value s = skipFrom (frame :: frames) (.next false) t := by
  rw [skipFrom.eq_def]
  dsimp only
  split
  · next he' =>
    rw [he] at he'
    cases frame <;> cases he'
    rfl
  · next he' =>
    rw [he] at he'
    cases frame <;> cases he'
    rfl
  · next hlist hobject =>
    cases frame
    · exact absurd he (hlist t)
    · exact absurd he (hobject t)

/-- In the place of a member comes the bracket that closes: what was opened last is taken off the
stack. -/
theorem skipFrom_done {comma : Bool} (he : skipGaps s = frame.closing :: t) :
    skipFrom (frame :: outer) (.next comma) s = skipFrom outer (.next true) t := by
  rw [skipFrom.eq_def]
  dsimp only
  split
  · next he' =>
    rw [he] at he'
    cases he'
  · next he' =>
    rw [he] at he'
    cases he'
    rw [if_pos (closes_iff.2 rfl)]

/-- In the place of a member comes one: behind its comma, if there was a member before it, and
behind its key, if it stands in an object, a value is looked for. -/
theorem skipFrom_member {comma : Bool} {key r : List Char} (he : skipGaps s = c :: r)
    (hclosing : c ≠ frame.closing) (hcomma : comma = true → c = ',')
    (hitem : (if comma then r else c :: r) = key ++ t) (hkey : IsKey frame key) :
    skipFrom (frame :: outer) (.next comma) s = skipFrom (frame :: outer) .value t := by
  have hmember : (comma && c != ',') = false := by
    cases comma with
    | false => rfl
    | true => simp [hcomma rfl]
  rw [skipFrom.eq_def]
  dsimp only
  split
  · next he' =>
    rw [he] at he'
    cases he'
  · next he' =>
    rw [he] at he'
    cases he'
    rw [if_neg (fun h => hclosing (closes_iff.1 h)), hmember, if_neg Bool.false_ne_true]
    -- a list has no keys, and in an object the key is passed over
    cases hkey with
    | none =>
      dsimp only
      rw [hitem]
      rfl
    | text hg ht hg' =>
      have hskip := skipKey_eq_ok_iff.2 ⟨_, .text hg ht hg', hitem⟩
      dsimp only
      split
      · next hskip' =>
        rw [hskip] at hskip'
        cases hskip'
      · next hskip' =>
        rw [hskip] at hskip'
        cases hskip'
        rfl

/-- Behind the separator and the key of a member comes its value. Blanks may be left in front of
it, because a list has no key that would take them. -/
theorem skipFrom_more (outer : List Frame) {sep key : List Char} (hsep : IsSeparator first sep)
    (hkey : IsKey frame key) (hg : AreGaps g) (hc : isGap c = false)
    (hclosing : c ≠ frame.closing) :
    ∃ g', AreGaps g' ∧
      skipFrom (frame :: outer) (.next (!first)) (sep ++ (key ++ (g ++ c :: t))) =
        skipFrom (frame :: outer) .value (g' ++ c :: t) := by
  cases hsep with
  | first =>
    rw [List.nil_append]
    cases hkey with
    | none =>
      exact ⟨[], areGaps_nil, skipFrom_member (skipGaps_front hg hc) hclosing nofun rfl .none⟩
    | @text gaps t' gaps' hgaps ht hgaps' =>
      have he : skipGaps (gaps ++ '"' :: (t' ++ '"' :: (gaps' ++ [':'])) ++ (g ++ c :: t)) =
          '"' :: (t' ++ '"' :: (gaps' ++ [':']) ++ (g ++ c :: t)) := by
        rw [List.append_assoc]
        exact skipGaps_front hgaps (by decide)
      exact ⟨g, hg, skipFrom_member he (by decide) nofun rfl (.text areGaps_nil ht hgaps')⟩
  | @later gaps hgaps =>
    have hcomma : ',' ≠ frame.closing := by cases frame <;> decide
    exact ⟨g, hg, skipFrom_member (skipGaps_comma hgaps _) hcomma (fun _ => rfl) rfl hkey⟩

/-! ## What is in the grammar is passed over -/

/-- What is left of a list or an object does not go on with a number. -/
theorem IsInside.endsNumber (h : IsInside frame false t) (rest : List Char) :
    EndsNumber (t ++ rest) := by
  have hgap : ∀ c, isGap c = true → isDigit c = false ∧ c ≠ '.' ∧ c ≠ 'e' ∧ c ≠ 'E' := by
    intro c hc
    simp only [isGap, Bool.or_eq_true, beq_iff_eq] at hc
    rcases hc with ((rfl | rfl) | rfl) | rfl <;> decide
  -- in front of the separator or the end there are blanks, or there is nothing
  have hfront : ∀ {g t : List Char} {d : Char}, AreGaps g →
      (isDigit d = false ∧ d ≠ '.' ∧ d ≠ 'e' ∧ d ≠ 'E') → EndsNumber (g ++ d :: t) := by
    intro g t d hg hd c hc
    cases g with
    | nil =>
      obtain rfl : d = c := Option.some.inj hc
      exact hd
    | cons b g =>
      obtain rfl : b = c := Option.some.inj hc
      exact hgap b (hg b List.mem_cons_self)
  -- a first member has no separator in front, which is why this is said of later ones only
  cases h with
  | done hg =>
    rw [List.append_assoc]
    refine hfront hg ?_
    cases frame <;> decide
  | more hsep hkey hg' hv ht =>
    cases hsep with
    | later hg =>
      simp only [List.append_assoc]
      exact hfront hg (by decide)

/-- There is at least a bracket left. This is what makes the recursion on members end. -/
theorem IsInside.length_pos (h : IsInside frame first t) : 0 < t.length := by
  cases h with
  | done => simp
  | more _ _ _ hv _ =>
    obtain ⟨c, v', rfl, -⟩ := value_eq_cons hv
    simp only [List.length_append, List.length_cons]
    omega

mutual

/-- A value is passed over where nothing follows that a number could go on with, whatever is
still open around it. -/
theorem skipFrom_value {v : List Char} (h : IsValue v) {frames : List Frame} {g rest : List Char}
    (hg : AreGaps g) (hrest : EndsNumber rest) :
    skipFrom frames .value (g ++ (v ++ rest)) = skipFrom frames (.next true) rest := by
  cases h with
  | scalar ht =>
    have hskip := skipScalar_append ht hrest
    obtain ⟨c, t', rfl, hc⟩ := scalar_eq_cons ht
    exact skipFrom_scalar (skipGaps_front hg hc.not_gap) hc hskip
  | @nested frame t ht =>
    have hopening : isGap frame.opening = false := by cases frame <;> rfl
    rw [List.cons_append, skipFrom_nested (skipGaps_front hg hopening)]
    exact skipFrom_inside ht
termination_by v.length

/-- What is left of a list or an object is passed over up to its end. -/
theorem skipFrom_inside {frame : Frame} {first : Bool} {t : List Char} (h : IsInside frame first t)
    {outer : List Frame} {rest : List Char} :
    skipFrom (frame :: outer) (.next (!first)) (t ++ rest) = skipFrom outer (.next true) rest := by
  cases h with
  | @done _ _ g hg =>
    have hclosing : isGap frame.closing = false := by cases frame <;> rfl
    rw [List.append_assoc]
    exact skipFrom_done (skipGaps_front hg hclosing)
  | @more _ _ sep key g v t hsep hkey hg hv ht =>
    have hroom := ht.length_pos
    -- the value shows by its first character that the list or object does not end here
    obtain ⟨c, v', hv', hc, hclosing⟩ := value_eq_cons hv
    obtain ⟨g', hg', hmore⟩ :=
      skipFrom_more outer (t := v' ++ (t ++ rest)) hsep hkey hg hc (hclosing frame)
    calc skipFrom (frame :: outer) (.next (!first)) (sep ++ (key ++ (g ++ (v ++ t))) ++ rest)
        = skipFrom (frame :: outer) (.next (!first))
            (sep ++ (key ++ (g ++ c :: (v' ++ (t ++ rest))))) := by simp [hv']
      _ = skipFrom (frame :: outer) .value (g' ++ (v ++ (t ++ rest))) := by rw [hmore, hv']; rfl
      _ = skipFrom (frame :: outer) (.next true) (t ++ rest) :=
        skipFrom_value hv hg' (ht.endsNumber rest)
      _ = skipFrom outer (.next true) rest := skipFrom_inside ht
termination_by t.length

end

/-- A value is passed over. -/
theorem skipValue_append (h : IsValue v) (hg : AreGaps g) (hrest : EndsNumber rest) :
    skipValue (g ++ (v ++ rest)) = .ok rest := by
  unfold skipValue
  rw [skipFrom_value h hg hrest, skipFrom.eq_def]

/-! ## What is passed over is in the grammar -/

/-- What is left of the lists and objects that are still open, innermost first. -/
inductive IsRest : List Frame → Bool → List Char → Prop
  | none {first : Bool} : IsRest [] first []
  | inside {frame : Frame} {outer : List Frame} {first : Bool} {t t' : List Char}
      (ht : IsInside frame first t) (ht' : IsRest outer false t') :
      IsRest (frame :: outer) first (t ++ t')

/-- What is passed over from a turn on, up to the end of all that is open. -/
def Passes (frames : List Frame) (s rest : List Char) : Turn → Prop
  | .value => ∃ g v t, AreGaps g ∧ IsValue v ∧ IsRest frames false t ∧
      s = g ++ (v ++ (t ++ rest))
  | .next comma => ∃ t, IsRest frames (!comma) t ∧ s = t ++ rest

/-- A bracket that opens, in front of what is inside, is a value. -/
theorem Passes.opened {r : List Char} (he : skipGaps s = frame.opening :: r)
    (h : Passes (frame :: frames) r rest (.next false)) : Passes frames s rest .value := by
  obtain ⟨g, hg, rfl⟩ := exists_gaps he
  obtain ⟨_, hinside, rfl⟩ := h
  cases hinside with
  | @inside _ _ _ t t' ht ht' =>
    exact ⟨g, frame.opening :: t, t', hg, .nested ht, ht', by simp⟩

/-- A bracket that closes is the end of what was opened last. -/
theorem Passes.done {comma : Bool} {r : List Char} (he : skipGaps s = frame.closing :: r)
    (h : Passes outer r rest (.next true)) : Passes (frame :: outer) s rest (.next comma) := by
  obtain ⟨g, hg, rfl⟩ := exists_gaps he
  obtain ⟨t, ht, rfl⟩ := h
  exact ⟨(g ++ [frame.closing]) ++ t, .inside (.done hg) ht, by simp⟩

/-- What stands in front of a member: its separator and blanks. -/
theorem exists_separator {comma : Bool} {r : List Char} (he : skipGaps s = c :: r)
    (hcomma : ¬ (comma && c != ',') = true) :
    ∃ sep g, IsSeparator (!comma) sep ∧ AreGaps g ∧
      s = sep ++ (g ++ if comma then r else c :: r) := by
  obtain ⟨g, hg, hs⟩ := exists_gaps he
  cases comma with
  | false => exact ⟨[], g, .first, hg, hs⟩
  | true =>
    obtain rfl : c = ',' := by simpa using hcomma
    exact ⟨g ++ [','], [], .later hg, areGaps_nil, by simpa using hs⟩

/-- Blanks in front of a key belong to it; where there is none they belong to the value. -/
theorem IsKey.exists_gaps {key : List Char} (hkey : IsKey frame key) (hg : AreGaps g) :
    ∃ key' g', IsKey frame key' ∧ AreGaps g' ∧ g ++ key = key' ++ g' := by
  cases hkey with
  | none => exact ⟨[], g, .none, hg, List.append_nil g⟩
  | @text gaps t gaps' hgaps ht hgaps' =>
    exact ⟨_, [], .text (hg.append hgaps) ht hgaps', areGaps_nil, by simp⟩

/-- A separator, a key and a value, in front of what is left, are one member more. -/
theorem Passes.more {comma : Bool} {r key item : List Char} (he : skipGaps s = c :: r)
    (hcomma : ¬ (comma && c != ',') = true) (hkey : IsKey frame key)
    (hitem : (if comma then r else c :: r) = key ++ item)
    (h : Passes (frame :: outer) item rest .value) :
    Passes (frame :: outer) s rest (.next comma) := by
  obtain ⟨sep, g, hsep, hg, hs⟩ := exists_separator he hcomma
  obtain ⟨key', g', hkey', hg', hfront⟩ := hkey.exists_gaps hg
  obtain ⟨gaps, v, _, hgaps, hv, hinside, rfl⟩ := h
  -- the value is followed by the end of the innermost that is open, which takes the member in
  cases hinside with
  | @inside _ _ _ t t' ht ht' =>
    refine ⟨(sep ++ (key' ++ ((g' ++ gaps) ++ (v ++ t)))) ++ t',
      .inside (.more hsep hkey' (hg'.append hgaps) hv ht) ht', ?_⟩
    rw [hs, hitem, ← List.append_assoc g, hfront]
    simp

/-- Whatever the loop passes over is a value and the end of all that is open. The induction is
that of the loop, and each of its cases puts what it has read in front. -/
theorem passes_of_skipFrom {turn : Turn} (h : skipFrom frames turn s = .ok rest) :
    Passes frames s rest turn := by
  fun_induction skipFrom frames turn s with
  | case1 frames s r he ih =>
    exact Passes.opened (show _ = Frame.list.opening :: r from he) (ih h)
  | case2 frames s r he ih =>
    exact Passes.opened (show _ = Frame.object.opening :: r from he) (ih h)
  | case3 => cases h
  -- a scalar, and behind it the next member
  | case4 frames s _ _ r hr ih =>
    obtain ⟨v, hv, hscalar⟩ := scalar_of_skipScalar hr
    obtain ⟨g, hg, rfl⟩ := exists_gaps hscalar
    obtain ⟨t, ht, rfl⟩ := ih h
    exact ⟨g, v, t, hg, .scalar hv, ht, rfl⟩
  | case5 =>
    cases h
    exact ⟨[], .none, rfl⟩
  | case6 => cases h
  | case7 s comma frame outer c r he hc ih =>
    rw [closes_iff.1 hc] at he
    exact Passes.done he (ih h)
  | case8 => cases h
  -- a member of a list, and below one of an object
  | case9 s comma outer c r he hcomma item _ ih =>
    exact Passes.more he hcomma .none rfl (ih h)
  | case10 => cases h
  | case11 s comma outer c r he hcomma item item' hkey _ ih =>
    obtain ⟨key, hkey, hitem⟩ := skipKey_eq_ok_iff.1 hkey
    exact Passes.more he hcomma hkey hitem (ih h)

/-- What is passed over is a value, with blanks in front of it. -/
theorem value_of_skipValue (h : skipValue s = .ok rest) :
    ∃ g v, AreGaps g ∧ IsValue v ∧ s = g ++ (v ++ rest) := by
  obtain ⟨g, v, t, hg, hv, ht, rfl⟩ := passes_of_skipFrom h
  cases ht with
  | none => exact ⟨g, v, hg, hv, rfl⟩

end PushToTalk.Json

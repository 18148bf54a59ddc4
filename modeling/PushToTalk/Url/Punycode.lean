import PushToTalk.Text.Numeral

/-
  Punycode: the characters of a label written with letters, digits and hyphens.

  The ASCII characters come first, then a hyphen, then every other character in ascending order
  as a step from the one before.  A step counts places: each round over the label is as many
  places as the label has so far.  It is written in base 36 with the lowest digit first; the
  threshold of each digit depends on a bias that follows the size of the steps.
-/

namespace PushToTalk.Url.Punycode

/-! ## Digits -/

/-- The character of a digit: letters first, then the decimal digits. -/
def digitChar (d : Nat) : Char := if d < 26 then Char.ofNat (97 + d) else Char.ofNat (22 + d)

/-- The digit that a lower-case character stands for. -/
def digit? (c : Char) : Option Nat :=
  if 'a' ≤ c && c ≤ 'z' then some (c.toNat - 97)
  else if Text.Numeral.isDigit c then some (c.toNat - 22)
  else none

/-- The threshold of the digit with weight number `k`: a digit below it ends a step. -/
def threshold (k bias : Nat) : Nat := min 26 (max 1 (36 * k - bias))

/-- A threshold is at least one. -/
theorem threshold_pos (k bias : Nat) : 1 ≤ threshold k bias := by
  unfold threshold
  omega

/-- A threshold is at most twenty-six. -/
theorem threshold_le (k bias : Nat) : threshold k bias ≤ 26 := by
  unfold threshold
  omega

/-- How often a step is divided by 35 before it is small, and what is left of it. -/
def scale (step k : Nat) : Nat × Nat :=
  if 455 < step then scale (step / 35) (k + 1) else (step, k)
termination_by step
decreasing_by omega

/-- The bias after a step to the `count`-th character. -/
def adapt (step count : Nat) (first : Bool) : Nat :=
  let step := if first then step / 700 else step / 2
  let (step, k) := scale (step + step / count) 0
  36 * k + 36 * step / (step + 38)

/-- The bias before the first step. -/
def startBias : Nat := 72

/-! ## Writing -/

/-- The digits of a step, from weight number `k` on. -/
def writeStep (bias : Nat) (k step : Nat) : List Char :=
  let t := threshold k bias
  if step < t then [digitChar step]
  else digitChar (t + (step - t) % (36 - t)) :: writeStep bias (k + 1) ((step - t) / (36 - t))
termination_by step
decreasing_by
  have low := threshold_pos k bias
  have := Nat.div_le_self (step - threshold k bias) (36 - threshold k bias)
  omega

/-- A label that is being written. -/
structure Writing where
  written : List Char
  /-- The places passed since the last character. -/
  step : Nat
  bias : Nat
  /-- How many characters are dealt with. -/
  count : Nat

/-- Passes one place of the label while the character `n` is being placed. -/
def Writing.pass (basic n : Nat) (w : Writing) (c : Char) : Writing :=
  if c.toNat < n then { w with step := w.step + 1 }
  else if c.toNat = n then
    { written := w.written ++ writeStep w.bias 1 w.step
      step := 0
      bias := adapt w.step (w.count + 1) (w.count == basic)
      count := w.count + 1 }
  else w

/-- Places the characters of `todo`, all from `n` on and ascending. -/
def placeAll (label : List Char) (basic : Nat) : List Nat → Nat → Writing → Writing
  | [], _, w => w
  | m :: later, n, w =>
    let w := { w with step := w.step + (m - n) * (w.count + 1) }
    let w := label.foldl (Writing.pass basic m) w
    placeAll label basic later (m + 1) { w with step := w.step + 1 }

/-- The characters of a label beyond ASCII, ascending, each once. -/
def strangers (label : List Char) : List Nat :=
  (((label.filter fun c => 128 ≤ c.toNat).map Char.toNat).mergeSort (· ≤ ·)).eraseDups

/-- A label written in Punycode. -/
def encode (label : List Char) : List Char :=
  let basic := label.filter fun c => c.toNat < 128
  let front := if basic.isEmpty then [] else basic ++ ['-']
  (placeAll label basic.length (strangers label) 128 ⟨front, 0, startBias, basic.length⟩).written

/-! ## Reading -/

/-- Reads the digits of a step with the given weight, from weight number `k` on, and adds them
to `sum`. -/
def readStep (bias : Nat) : List Char → Nat → Nat → Nat → Option (Nat × List Char)
  | [], _, _, _ => none
  | c :: rest, k, weight, sum =>
    match digit? c with
    | none => none
    | some d =>
      if d < threshold k bias then some (sum + d * weight, rest)
      else readStep bias rest (k + 1) (weight * (36 - threshold k bias)) (sum + d * weight)

/-- A number that is read takes at least one character. -/
theorem readStep_shorter {bias : Nat} {cs rest : List Char} {k weight sum total : Nat}
    (h : readStep bias cs k weight sum = some (total, rest)) : rest.length < cs.length := by
  induction cs generalizing k weight sum with
  | nil => cases h
  | cons c cs ih =>
    rw [readStep] at h
    split at h
    · cases h
    · split at h
      · obtain ⟨-, rfl⟩ := Prod.mk.inj (Option.some.inj h)
        simp
      · have := ih h
        simp only [List.length_cons]
        omega

/-- Reads steps and puts the character of each into `label`; `n` is the last character and
`place` the place after it. -/
def readSteps (bias n place : Nat) (label : List Char) (cs : List Char) : Option (List Char) :=
  match _h : cs with
  | [] => some label
  | _ :: _ =>
    match _hs : readStep bias cs 1 1 place with
    | none => none
    | some (total, rest) =>
      let count := label.length + 1
      let n := n + total / count
      if n.isValidChar then
        readSteps (adapt (total - place) count (place == 0)) n (total % count + 1)
          (label.insertIdx (total % count) (Char.ofNat n)) rest
      else none
termination_by cs.length
decreasing_by
  rw [← _h]
  exact readStep_shorter _hs

/-- Divides a text at its last hyphen. -/
def splitLast (cs : List Char) : List Char × List Char :=
  let back := cs.reverse.takeWhile (· != '-')
  ((cs.reverse.drop (back.length + 1)).reverse, back.reverse)

/-- The label that a text in lower-case Punycode stands for. -/
def decode (cs : List Char) : Option (List Char) :=
  let (basic, steps) := splitLast cs
  readSteps startBias 128 0 basic steps

example : encode "bücher".toList = "bcher-kva".toList := by decide +kernel

example : decode "bcher-kva".toList = some "bücher".toList := by decide +kernel

end PushToTalk.Url.Punycode

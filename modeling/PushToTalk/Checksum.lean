import PushToTalk.Disk

/-
  The fingerprint of a body.

  Where a run is written down, a body is too long to be shown: its length and its Adler-32 checksum
  stand for it.  The checksum is two sums modulo 65521: of the bytes, starting at one, and of the
  first sum after every byte.  The relay itself computes no checksum, and no proof is about this
  one.
-/

namespace PushToTalk

/-- The two running sums. -/
structure Adler where
  /-- One plus the sum of the bytes. -/
  low : UInt32
  /-- The sum of `low` after each byte. -/
  high : UInt32

namespace Adler

/-- The largest prime below 2^16. -/
def modulus : UInt32 := 65521

/-- The sums before any byte. -/
def start : Adler := ⟨1, 0⟩

/-- Takes in one byte. -/
def push (s : Adler) (b : UInt8) : Adler :=
  let low := (s.low + b.toUInt32) % modulus
  ⟨low, (s.high + low) % modulus⟩

/-- The checksum of a run of bytes. -/
def checksum (bytes : Bytes) : Nat :=
  let s := bytes.foldl push start
  s.high.toNat * 65536 + s.low.toNat

end Adler

end PushToTalk

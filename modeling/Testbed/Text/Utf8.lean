/-!
# Text in UTF-8

Bytes read as text: strictly, and with a replacement character for every part that is not
well-formed.
-/

namespace Testbed.Text

/-- The character that stands for bytes that are not well-formed. -/
def replacementChar : Char := '\ufffd'

/-- The bytes that may follow a given first byte: how many, and the range of the first of them.
No range for a byte that begins no character. -/
def followers? (b : UInt8) : Option (Nat × UInt8 × UInt8) :=
  if b < 0x80 then some (0, 0, 0)
  else if 0xC2 ≤ b && b ≤ 0xDF then some (1, 0x80, 0xBF)
  else if b = 0xE0 then some (2, 0xA0, 0xBF)
  else if b = 0xED then some (2, 0x80, 0x9F)
  else if 0xE1 ≤ b && b ≤ 0xEF then some (2, 0x80, 0xBF)
  else if b = 0xF0 then some (3, 0x90, 0xBF)
  else if b = 0xF4 then some (3, 0x80, 0x8F)
  else if 0xF1 ≤ b && b ≤ 0xF3 then some (3, 0x80, 0xBF)
  else none

/-- The leading part of a byte's own bits. -/
def leadBits (b : UInt8) : Nat :=
  if b < 0x80 then b.toNat
  else if b < 0xE0 then b.toNat % 32
  else if b < 0xF0 then b.toNat % 16
  else b.toNat % 8

/-- Take up to `n` continuation bytes, the first within a range; the bits so far, whether all
were there, and the rest. -/
def continuation (n : Nat) (low high : UInt8) (bits : Nat) : List UInt8 → Nat × Bool × List UInt8
  | [] => (bits, n = 0, [])
  | b :: rest =>
    match n with
    | 0 => (bits, true, b :: rest)
    | n + 1 =>
      if low ≤ b && b ≤ high then continuation n 0x80 0xBF (bits * 64 + b.toNat % 64) rest
      else (bits, false, b :: rest)

theorem continuation_length (n : Nat) (low high : UInt8) (bits : Nat) (bs : List UInt8) :
    (continuation n low high bits bs).2.2.length ≤ bs.length := by
  induction bs generalizing n low high bits with
  | nil => simp [continuation]
  | cons b rest ih =>
    cases n with
    | zero => simp [continuation]
    | succ n =>
      simp only [continuation]
      split
      · exact Nat.le_succ_of_le (ih ..)
      · exact Nat.le_refl _

/-- Read bytes as text; each longest run of bytes that begins a character and does not finish
it, and each byte that begins none, becomes one replacement character. -/
def lossyChars : List UInt8 → List Char
  | [] => []
  | b :: rest =>
    match followers? b with
    | none => replacementChar :: lossyChars rest
    | some (n, low, high) =>
      let r := continuation n low high (leadBits b) rest
      (if r.2.1 then Char.ofNat r.1 else replacementChar) :: lossyChars r.2.2
termination_by bs => bs.length
decreasing_by
  · simp
  · have := continuation_length n low high (leadBits b) rest
    simp only [List.length_cons]
    omega

/-- Read bytes as text with replacement characters. -/
def lossy (bytes : ByteArray) : String :=
  match String.fromUTF8? bytes with
  | some s => s
  | none => String.ofList (lossyChars bytes.toList)

end Testbed.Text

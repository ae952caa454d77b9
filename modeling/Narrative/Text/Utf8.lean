/-!
Decoding UTF-8. A sequence is rejected at the first byte that no character can have there, so the
report gives the number of bytes that were sound and the length of the broken sequence, or that the
text stops inside a character.
-/
namespace Narrative.Text

/-- Where bytes stop being UTF-8; `length` is missing if they end inside a character. -/
structure BrokenUtf8 where
  validUpTo : Nat
  length : Option Nat
  deriving DecidableEq

/-- What is wrong with the bytes, in words. -/
def BrokenUtf8.message (e : BrokenUtf8) : String :=
  match e.length with
  | some n => s!"invalid utf-8 sequence of {n} bytes from index {e.validUpTo}"
  | none => s!"incomplete utf-8 byte sequence from index {e.validUpTo}"

/-- Whether a byte lies between two bounds. -/
def byteIn (low high b : UInt8) : Bool := low ≤ b && b ≤ high

/-- Whether a byte continues a character. -/
def isContinuation (b : UInt8) : Bool := byteIn 0x80 0xBF b

/-- The second bytes that may follow the first byte of a character of three bytes. -/
def secondOfThree (a : UInt8) : UInt8 × UInt8 :=
  if a == 0xE0 then (0xA0, 0xBF) else if a == 0xED then (0x80, 0x9F) else (0x80, 0xBF)

/-- The second bytes that may follow the first byte of a character of four bytes. -/
def secondOfFour (a : UInt8) : UInt8 × UInt8 :=
  if a == 0xF0 then (0x90, 0xBF) else if a == 0xF4 then (0x80, 0x8F) else (0x80, 0xBF)

/-- The bits of a continuation byte, put after the bits read so far. -/
def shiftIn (n : Nat) (b : UInt8) : Nat := n * 64 + b.toNat % 64

/-- Decodes bytes that follow `pos` sound ones. -/
def decodeFrom (pos : Nat) : List UInt8 → Except BrokenUtf8 (List Char)
  | [] => .ok []
  | a :: rest =>
    if a < 0x80 then (Char.ofNat a.toNat :: ·) <$> decodeFrom (pos + 1) rest
    else if byteIn 0xC2 0xDF a then
      match rest with
      | [] => .error ⟨pos, none⟩
      | b :: rest =>
        if !isContinuation b then .error ⟨pos, some 1⟩
        else (Char.ofNat (shiftIn (a.toNat % 32) b) :: ·) <$> decodeFrom (pos + 2) rest
    else if byteIn 0xE0 0xEF a then
      match rest with
      | [] => .error ⟨pos, none⟩
      | b :: rest =>
        if !byteIn (secondOfThree a).1 (secondOfThree a).2 b then .error ⟨pos, some 1⟩
        else
          match rest with
          | [] => .error ⟨pos, none⟩
          | c :: rest =>
            if !isContinuation c then .error ⟨pos, some 2⟩
            else (Char.ofNat (shiftIn (shiftIn (a.toNat % 16) b) c) :: ·) <$> decodeFrom (pos + 3) rest
    else if byteIn 0xF0 0xF4 a then
      match rest with
      | [] => .error ⟨pos, none⟩
      | b :: rest =>
        if !byteIn (secondOfFour a).1 (secondOfFour a).2 b then .error ⟨pos, some 1⟩
        else
          match rest with
          | [] => .error ⟨pos, none⟩
          | c :: rest =>
            if !isContinuation c then .error ⟨pos, some 2⟩
            else
              match rest with
              | [] => .error ⟨pos, none⟩
              | d :: rest =>
                if !isContinuation d then .error ⟨pos, some 3⟩
                else
                  (Char.ofNat (shiftIn (shiftIn (shiftIn (a.toNat % 8) b) c) d) :: ·) <$>
                    decodeFrom (pos + 4) rest
    else .error ⟨pos, some 1⟩

/-- The text that bytes encode. -/
def decode (bytes : List UInt8) : Except BrokenUtf8 String := String.ofList <$> decodeFrom 0 bytes

/-- The bytes of a text. -/
def encode (s : String) : List UInt8 := s.toUTF8.toList

/-- The number of bytes that characters take. -/
def byteLength : List Char → Nat
  | [] => 0
  | c :: cs => c.utf8Size + byteLength cs

end Narrative.Text

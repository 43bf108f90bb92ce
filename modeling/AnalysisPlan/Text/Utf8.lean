/-!
# Decoding UTF-8

Bytes become characters, or decoding stops at the first character that is not
well formed and says where it begins and what is wrong with it: its first byte
cannot begin a character, a later byte cannot continue it, or the bytes end
before it does. Overlong forms, surrogates and code points beyond the last one
are excluded by the bounds on the second byte.

`unifyNewlines` is the other half of reading a text file: every line break,
however it is written, becomes a single line feed.
-/

namespace AnalysisPlan
namespace Text

/-- What can be wrong with bytes that should be UTF-8. -/
inductive Utf8Complaint where
  | startByte
  | continuationByte
  | endOfData
deriving Repr, DecidableEq

def Utf8Complaint.message : Utf8Complaint → String
  | startByte => "invalid start byte"
  | continuationByte => "invalid continuation byte"
  | endOfData => "unexpected end of data"

/-- A character that is not well formed: what is wrong, and where it begins. -/
structure Utf8Fault where
  complaint : Utf8Complaint
  offset : Nat
deriving Repr, DecidableEq

def isContinuation (b : UInt8) : Bool := 0x80 ≤ b.toNat && b.toNat < 0xC0

/-- Whether a byte can come second after the given first byte. -/
def isSecond (first b : UInt8) : Bool :=
  isContinuation b &&
    (first.toNat != 0xE0 || 0xA0 ≤ b.toNat) && (first.toNat != 0xED || b.toNat < 0xA0) &&
    (first.toNat != 0xF0 || 0x90 ≤ b.toNat) && (first.toNat != 0xF4 || b.toNat < 0x90)

def lowBits (b : UInt8) : Nat := b.toNat % 0x40

/-- Decodes bytes of which the first stands at `offset`. -/
def decodeUtf8From (offset : Nat) : List UInt8 → Except Utf8Fault (List Char)
  | [] => .ok []
  | b :: rest =>
    let n := b.toNat
    if n < 0x80 then (Char.ofNat n :: ·) <$> decodeUtf8From (offset + 1) rest
    else if n < 0xC2 ∨ 0xF5 ≤ n then .error ⟨.startByte, offset⟩
    else
      match rest with
      | [] => .error ⟨.endOfData, offset⟩
      | b₁ :: rest₁ =>
        if !isSecond b b₁ then .error ⟨.continuationByte, offset⟩
        else if n < 0xE0 then
          (Char.ofNat (n % 0x20 * 0x40 + lowBits b₁) :: ·) <$> decodeUtf8From (offset + 2) rest₁
        else
          match rest₁ with
          | [] => .error ⟨.endOfData, offset⟩
          | b₂ :: rest₂ =>
            if !isContinuation b₂ then .error ⟨.continuationByte, offset⟩
            else if n < 0xF0 then
              (Char.ofNat ((n % 0x10 * 0x40 + lowBits b₁) * 0x40 + lowBits b₂) :: ·) <$>
                decodeUtf8From (offset + 3) rest₂
            else
              match rest₂ with
              | [] => .error ⟨.endOfData, offset⟩
              | b₃ :: rest₃ =>
                if !isContinuation b₃ then .error ⟨.continuationByte, offset⟩
                else
                  (Char.ofNat (((n % 0x08 * 0x40 + lowBits b₁) * 0x40 + lowBits b₂) * 0x40 +
                    lowBits b₃) :: ·) <$> decodeUtf8From (offset + 4) rest₃

def decodeUtf8 (bytes : List UInt8) : Except Utf8Fault (List Char) := decodeUtf8From 0 bytes

/-- The text with every line break written as a line feed. -/
def unifyNewlines : List Char → List Char
  | [] => []
  | '\r' :: '\n' :: rest => '\n' :: unifyNewlines rest
  | c :: rest => (if c = '\r' then '\n' else c) :: unifyNewlines rest

end Text
end AnalysisPlan

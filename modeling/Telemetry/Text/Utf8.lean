/-!
UTF-8: the bytes of a text, and the text of any bytes. Reading is lossy, a part that begins no
character becomes one U+FFFD.
-/

namespace Telemetry.Text.Utf8

def encode (cs : List Char) : List UInt8 :=
  cs.flatMap String.utf8EncodeChar

def isContinuation (b : UInt8) : Bool :=
  0x80 ≤ b && b ≤ 0xBF

/-- Whether `a` may begin a character of more than one byte whose second byte is `b`. -/
def mayFollow (a b : UInt8) : Bool :=
  if a < 0xC2 then false
  else if a = 0xE0 then 0xA0 ≤ b && b ≤ 0xBF
  else if a = 0xED then 0x80 ≤ b && b ≤ 0x9F
  else if a = 0xF0 then 0x90 ≤ b && b ≤ 0xBF
  else if a = 0xF4 then 0x80 ≤ b && b ≤ 0x8F
  else if a < 0xF4 then isContinuation b
  else false

def replacement : Char := '\ufffd'

/-- The six low bits of a continuation byte. -/
def payload (b : UInt8) : Nat := b.toNat % 64

def char2 (a b : UInt8) : Char :=
  Char.ofNat (a.toNat % 32 * 64 + payload b)

def char3 (a b c : UInt8) : Char :=
  Char.ofNat (a.toNat % 16 * 4096 + payload b * 64 + payload c)

def char4 (a b c d : UInt8) : Char :=
  Char.ofNat (a.toNat % 8 * 262144 + payload b * 4096 + payload c * 64 + payload d)

/-- The text of `bytes`, with one U+FFFD for each longest part that could begin a character. -/
def decodeLossy : List UInt8 → List Char
  | [] => []
  | a :: r =>
    if a < 0x80 then Char.ofNat a.toNat :: decodeLossy r
    else match r with
      | [] => [replacement]
      | b :: r =>
        if !mayFollow a b then replacement :: decodeLossy (b :: r)
        else if a < 0xE0 then char2 a b :: decodeLossy r
        else match r with
          | [] => [replacement]
          | c :: r =>
            if !isContinuation c then replacement :: decodeLossy (c :: r)
            else if a < 0xF0 then char3 a b c :: decodeLossy r
            else match r with
              | [] => [replacement]
              | d :: r =>
                if !isContinuation d then replacement :: decodeLossy (d :: r)
                else char4 a b c d :: decodeLossy r

/-- The text of `bytes` if they are the encoding of one. -/
def decode? (bytes : List UInt8) : Option (List Char) :=
  let text := decodeLossy bytes
  if encode text = bytes then some text else none

end Telemetry.Text.Utf8

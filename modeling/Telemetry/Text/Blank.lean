/-!
Characters that may not stand inside a name: blanks and controls, and how such a character is
shown in a message.
-/

namespace Telemetry.Text

/-- The Unicode property White_Space. -/
def isBlank (c : Char) : Bool :=
  let n := c.toNat
  (9 ≤ n && n ≤ 13) || n == 0x20 || n == 0x85 || n == 0xA0 || n == 0x1680 ||
    (0x2000 ≤ n && n ≤ 0x200A) || n == 0x2028 || n == 0x2029 || n == 0x202F || n == 0x205F ||
    n == 0x3000

/-- The general category Cc. -/
def isControl (c : Char) : Bool :=
  c.toNat < 0x20 || (0x7F ≤ c.toNat && c.toNat ≤ 0x9F)

/-- Drops the blanks at both ends. -/
def trim (cs : List Char) : List Char :=
  ((cs.dropWhile isBlank).reverse.dropWhile isBlank).reverse

def hexDigitLower (n : Nat) : Char :=
  Char.ofNat (if n < 10 then 0x30 + n else 0x57 + n)

/-- The digits of `n` in base 16, most significant first and without padding. -/
def hexLower (n : Nat) : List Char :=
  if n < 16 then [hexDigitLower n] else hexLower (n / 16) ++ [hexDigitLower (n % 16)]
termination_by n
decreasing_by omega

/--
A blank or control character between single quotes: the space stands for itself, tab, line feed,
carriage return and NUL have a letter, and all others are given by their code point.
-/
def quoteBlank (c : Char) : String :=
  let body : List Char :=
    if c = ' ' then [' ']
    else if c = '\t' then ['\\', 't']
    else if c = '\n' then ['\\', 'n']
    else if c = '\r' then ['\\', 'r']
    else if c = '\x00' then ['\\', '0']
    else '\\' :: 'u' :: '\x7b' :: hexLower c.toNat ++ ['\x7d']
  String.ofList ('\'' :: body ++ ['\''])

end Telemetry.Text

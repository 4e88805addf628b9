/-!
The keys of a configuration map: `baseName`, `base-name` and `base_name` spell the same key.
-/

namespace Telemetry.Config.Key

def isUpper (c : Char) : Bool := 0x41 ≤ c.toNat && c.toNat ≤ 0x5A

def isLowerOrDigit (c : Char) : Bool :=
  (0x61 ≤ c.toNat && c.toNat ≤ 0x7A) || (0x30 ≤ c.toNat && c.toNat ≤ 0x39)

def toLower (c : Char) : Char := Char.ofNat (c.toNat + 0x20)

/--
Hyphens become underscores and ASCII capitals small letters. A capital begins a new word, so an
underscore is put before it, if the character `joined` before it is a small letter or a digit.
-/
def normalizeChars (joined : Bool) : List Char → List Char
  | [] => []
  | c :: cs =>
    if c = '-' ∨ c = '_' then '_' :: normalizeChars false cs
    else if isUpper c then
      if joined then '_' :: toLower c :: normalizeChars false cs
      else toLower c :: normalizeChars false cs
    else c :: normalizeChars (isLowerOrDigit c) cs

def normalize (key : String) : String := String.ofList (normalizeChars false key.toList)

end Telemetry.Config.Key

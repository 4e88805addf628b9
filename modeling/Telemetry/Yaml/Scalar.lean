import Telemetry.Number.Numeral
import Telemetry.Yaml.Value

/-!
The value of a scalar: by the form of its text if it is plain and has no tag, by its tag if it is
plain and has one, else its text.
-/

namespace Telemetry.Yaml

/-- Digits of a base up to 16, at least one. -/
def natOfBase? (base : Nat) (cs : List Char) : Option Nat :=
  let value? (c : Char) : Option Nat :=
    let n := c.toNat
    let v := if 0x30 ≤ n ∧ n ≤ 0x39 then n - 0x30
      else if 0x41 ≤ n ∧ n ≤ 0x46 then n - 0x37
      else if 0x61 ≤ n ∧ n ≤ 0x66 then n - 0x57
      else base
    if v < base then some v else none
  if cs = [] then none
  else cs.foldl (fun acc c => acc.bind fun n => (value? c).map (base * n + ·)) (some 0)

/-- An optional sign and digits that make an integer of 64 bits. -/
def int64? (base : Nat) (cs : List Char) : Option Int :=
  let (negative, ds) := Numeral.takeSign cs
  (natOfBase? base ds).bind fun n =>
    let i : Int := if negative then -n else n
    if fitsInt64 i then some i else none

/-- The words for values that no digits write, or a numeral with at least one digit. -/
def isReal (cs : List Char) : Bool :=
  match String.ofList cs with
  | ".inf" | ".Inf" | ".INF" | "+.inf" | "+.Inf" | "+.INF" | "-.inf" | "-.Inf" | "-.INF"
  | ".nan" | ".NaN" | ".NAN" => true
  | _ => cs.any Numeral.isDigit && (Numeral.ofChars? cs).isSome

/-- An integer in base 16 or 8, or one with a plus sign before another sign. -/
def markedInt? : List Char → Option Int
  | '0' :: 'x' :: cs => int64? 16 cs
  | '0' :: 'o' :: cs => int64? 8 cs
  | '+' :: cs => int64? 10 cs
  | _ => none

/-- The value that a plain text stands for. -/
def ofPlain (text : String) : Yaml :=
  let cs := text.toList
  match markedInt? cs with
  | some i => .int i
  | none => match text with
    | "" | "~" | "null" => .null
    | "true" | "True" | "TRUE" => .bool true
    | "false" | "False" | "FALSE" => .bool false
    | _ => match int64? 10 cs with
      | some i => .int i
      | none => if isReal cs then .real text else .string text

structure Tag where
  handle : String
  suffix : String
deriving DecidableEq, Repr

/-- The handle of the tags of the core schema. -/
def coreHandle : String := "tag:yaml.org,2002:"

/-- The value of a plain text under a tag. -/
def ofTagged (tag : Tag) (text : String) : Yaml :=
  if tag.handle = coreHandle then
    match tag.suffix with
    | "bool" => match text with
      | "true" => .bool true
      | "false" => .bool false
      | _ => .bad
    | "int" => (int64? 10 text.toList).elim .bad .int
    | "float" => if isReal text.toList then .real text else .bad
    | "null" => match text with
      | "~" | "null" => .null
      | _ => .bad
    | _ => .string text
  else .string text

def ofScalar (plain : Bool) (tag : Option Tag) (text : String) : Yaml :=
  if plain then tag.elim (ofPlain text) (ofTagged · text) else .string text

end Telemetry.Yaml

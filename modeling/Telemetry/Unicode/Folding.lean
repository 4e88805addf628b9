import Telemetry.Unicode.Steps

/-!
Simple case folding: which characters differ by case only.
-/

namespace Telemetry.Unicode.Folding

/-- Pairs of characters: the first of a run of pairs, how many there are, and their distance. -/
structure Run where
  first : Nat
  second : Nat
  count : Nat
  stride : Nat

/-- Runs of pairs of characters that fold together with each other alone. -/
def pairTable : List String :=
    ["41 61 A 1  4C 6C 8 2  4D 6D 3 2  55 75 3 2  C0 E0 10 2  C1 E1 2 2  C7 E7 8 2  D9 F9 3 2",
     "DF 1E9E 1 1  FF 178 1 1  100 101 18 2  132 133 3 2  139 13A 8 2  14A 14B 17 2  179 17A 3 2",
     "180 243 1 1  181 253 1 1  182 183 2 2  186 254 1 1  187 188 1 1  189 256 2 1  18B 18C 1 1",
     "18E 1DD 1 1  18F 259 1 1  190 25B 1 1  191 192 1 1  193 260 1 1  194 263 1 1  195 1F6 1 1",
     "196 269 1 1  197 268 1 1  198 199 1 1  19A 23D 1 1  19C 26F 1 1  19D 272 1 1  19E 220 1 1",
     "19F 275 1 1  1A0 1A1 3 2  1A6 280 1 1  1A7 1A8 1 1  1A9 283 1 1  1AC 1AD 1 1  1AE 288 1 1",
     "1AF 1B0 1 1  1B1 28A 2 1  1B3 1B4 2 2  1B7 292 1 1  1B8 1B9 1 1  1BC 1BD 1 1  1BF 1F7 1 1",
     "1CD 1CE 8 2  1DE 1DF 9 2  1F4 1F5 1 1  1F8 1F9 14 2  222 223 9 2  23A 2C65 1 1  23B 23C 1 1",
     "23E 2C66 1 1  23F 2C7E 2 1  241 242 1 1  244 289 1 1  245 28C 1 1  246 247 5 2  250 2C6F 1 1",
     "251 2C6D 1 1  252 2C70 1 1  25C A7AB 1 1  261 A7AC 1 1  265 A78D 1 1  266 A7AA 1 1",
     "26A A7AE 1 1  26B 2C62 1 1  26C A7AD 1 1  271 2C6E 1 1  27D 2C64 1 1  282 A7C5 1 1",
     "287 A7B1 1 1  29D A7B2 1 1  29E A7B0 1 1  370 371 2 2  376 377 1 1  37B 3FD 3 1  37F 3F3 1 1",
     "386 3AC 1 1  388 3AD 3 1  38C 3CC 1 1  38E 3CD 2 1  391 3B1 2 2  394 3B4 2 2  397 3B7 1 1",
     "39B 3BB 3 2  39E 3BE 1 1  3A4 3C4 2 1  3A7 3C7 2 1  3AA 3CA 2 1  3CF 3D7 1 1  3D8 3D9 C 2",
     "3F2 3F9 1 1  3F7 3F8 1 1  3FA 3FB 1 1  400 450 10 1  410 430 2 1  413 433 7 2  416 436 4 2",
     "420 440 1 1  423 443 7 1  42B 44B 5 1  460 461 1 1  464 465 F 2  48A 48B 1B 2  4C0 4CF 1 1",
     "4C1 4C2 7 2  4D0 4D1 30 2  531 561 26 1  10A0 2D00 26 1  10C7 2D27 1 1  10CD 2D2D 1 1",
     "10D0 1C90 2B 1  10FD 1CBD 3 1  13A0 AB70 50 1  13F0 13F8 6 1  1D79 A77D 1 1  1D7D 2C63 1 1",
     "1D8E A7C6 1 1  1E00 1E01 30 2  1E62 1E63 1A 2  1EA0 1EA1 30 2  1F00 1F08 8 1  1F10 1F18 6 1",
     "1F20 1F28 8 1  1F30 1F38 8 1  1F40 1F48 6 1  1F51 1F59 4 2  1F60 1F68 8 1  1F70 1FBA 2 1",
     "1F72 1FC8 4 1  1F76 1FDA 2 1  1F78 1FF8 2 1  1F7A 1FEA 2 1  1F7C 1FFA 2 1  1F80 1F88 8 1",
     "1F90 1F98 8 1  1FA0 1FA8 8 1  1FB0 1FB8 2 1  1FB3 1FBC 1 1  1FC3 1FCC 1 1  1FD0 1FD8 2 1",
     "1FE0 1FE8 2 1  1FE5 1FEC 1 1  1FF3 1FFC 1 1  2132 214E 1 1  2160 2170 10 1  2183 2184 1 1",
     "24B6 24D0 1A 1  2C00 2C30 30 1  2C60 2C61 1 1  2C67 2C68 3 2  2C72 2C73 1 1  2C75 2C76 1 1",
     "2C80 2C81 32 2  2CEB 2CEC 2 2  2CF2 2CF3 1 1  A640 A641 5 2  A64C A64D 11 2  A680 A681 E 2",
     "A722 A723 7 2  A732 A733 1F 2  A779 A77A 2 2  A77E A77F 5 2  A78B A78C 1 1  A790 A791 2 2",
     "A794 A7C4 1 1  A796 A797 A 2  A7B3 AB53 1 1  A7B4 A7B5 8 2  A7C7 A7C8 2 2  A7D0 A7D1 1 1",
     "A7D6 A7D7 2 2  A7F5 A7F6 1 1  FF21 FF41 1A 1  10400 10428 28 1  104B0 104D8 24 1",
     "10570 10597 13 2  10571 10598 5 2  1057D 105A4 7 2  1058D 105B4 3 2  10595 105BC 1 1",
     "10C80 10CC0 33 1  118A0 118C0 20 1  16E40 16E60 20 1  1E900 1E922 22 1"]

/-- The characters that fold together, three or more at a time. -/
def groupTable : List String :=
    ["4B 6B 212A",
     "53 73 17F",
     "B5 39C 3BC",
     "C5 E5 212B",
     "1C4 1C5 1C6",
     "1C7 1C8 1C9",
     "1CA 1CB 1CC",
     "1F1 1F2 1F3",
     "345 399 3B9 1FBE",
     "392 3B2 3D0",
     "395 3B5 3F5",
     "398 3B8 3D1 3F4",
     "39A 3BA 3F0",
     "3A0 3C0 3D6",
     "3A1 3C1 3F1",
     "3A3 3C2 3C3",
     "3A6 3C6 3D5",
     "3A9 3C9 2126",
     "412 432 1C80",
     "414 434 1C81",
     "41E 43E 1C82",
     "421 441 1C83",
     "422 442 1C84 1C85",
     "42A 44A 1C86",
     "462 463 1C87",
     "1C88 A64A A64B",
     "1E60 1E61 1E9B"]

def runsOf : List Nat → List Run
  | a :: b :: n :: s :: rest => ⟨a, b, n, s⟩ :: runsOf rest
  | _ => []

def runs : List Run := runsOf (pairTable.flatMap fun line => (words line).map hexNat)

def groups : List (List Nat) := groupTable.map fun line => (words line).map hexNat

/-- The partner of `n` in a run of pairs. -/
def Run.partner? (r : Run) (n : Nat) : Option Nat :=
  let partnerFrom (base other : Nat) : Option Nat :=
    if base ≤ n ∧ (n - base) % r.stride = 0 ∧ (n - base) / r.stride < r.count then
      some (other + (n - base))
    else none
  (partnerFrom r.first r.second).or (partnerFrom r.second r.first)

/-- `c` and the characters that differ from it by case only. -/
def orbit (c : Char) : List Char :=
  let n := c.toNat
  match groups.find? (·.contains n) with
  | some g => g.map Char.ofNat
  | none => match runs.findSome? (·.partner? n) with
    | some m => [c, Char.ofNat m]
    | none => [c]

end Telemetry.Unicode.Folding

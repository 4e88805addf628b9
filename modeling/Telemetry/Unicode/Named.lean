import Telemetry.Text.Blank
import Telemetry.Unicode.Category
import Telemetry.Unicode.Property
import Telemetry.Unicode.Script

/-!
Sets of characters, and the properties that give them by name: general categories, scripts and the
binary properties that are kept here.
-/

namespace Telemetry.Unicode

structure CharSet where
  contains : Char → Bool
  /-- About how many runs of characters the set consists of. -/
  spread : Nat

namespace CharSet

def ofRanges (ranges : List (Char × Char)) : CharSet :=
  ⟨fun c => ranges.any fun r => r.1 ≤ c && c ≤ r.2, ranges.length⟩

def ofCategories (cs : List Category) : CharSet :=
  ⟨fun c => cs.contains (Category.ofChar c),
    (Category.steps.runs.filter fun r => cs.contains r.2).size⟩

def ofScript (code : String) : CharSet := ⟨fun c => Script.ofChar c == code, 1⟩

def alphabetic : CharSet := ⟨Property.isAlphabetic, Property.alphabeticSteps.runs.size / 2⟩

def lowercase : CharSet := ⟨Property.isLowercase, Property.lowercaseSteps.runs.size / 2⟩

def uppercase : CharSet := ⟨Property.isUppercase, Property.uppercaseSteps.runs.size / 2⟩

def blank : CharSet := ⟨Text.isBlank, 10⟩

def joiners : CharSet := .ofRanges [('\u200c', '\u200d')]

def union (s t : CharSet) : CharSet :=
  ⟨fun c => s.contains c || t.contains c, s.spread + t.spread⟩

def complement (s : CharSet) : CharSet := ⟨fun c => !s.contains c, s.spread + 1⟩

def digit : CharSet := .ofCategories [.decimalNumber]

/-- Letters, marks, decimal numbers, connectors and the two joiners, as in the words of a text. -/
def word : CharSet :=
  alphabetic.union
    ((ofCategories (Category.marks ++ [.decimalNumber, .connectorPunctuation])).union joiners)

end CharSet

/-- How a property is looked up: case, separators and a leading "is" do not count. -/
def looseName (name : String) : String :=
  let cs := name.toList
  let isLead := match cs with
    | a :: b :: _ => (a = 'i' || a = 'I') && (b = 's' || b = 'S')
    | _ => false
  let body := (if isLead then cs.drop 2 else cs).filter fun c =>
    c != ' ' && c != '_' && c != '-' && c.toNat ≤ 0x7F
  let lower := String.ofList (body.map Char.toLower)
  if isLead && lower = "c" then "isc" else lower

def categoryNamed? (loose : String) : Option CharSet :=
  match loose with
  | "any" => some (CharSet.ofRanges []).complement
  | "assigned" => some (CharSet.ofCategories [.unassigned]).complement
  | "ascii" => some (.ofRanges [('\x00', '\x7f')])
  | _ => (Category.named? loose).map .ofCategories

def scriptNamed? (loose : String) : Option CharSet := (Script.named? loose).map .ofScript

def binaryNamed? (loose : String) : Option CharSet :=
  match loose with
  | "alphabetic" | "alpha" => some .alphabetic
  | "lowercase" | "lower" => some .lowercase
  | "uppercase" | "upper" => some .uppercase
  | "whitespace" | "wspace" | "space" => some .blank
  | "joincontrol" | "joinc" => some .joiners
  | "hexdigit" | "hex" =>
    some (.ofRanges [('0', '9'), ('A', 'F'), ('a', 'f'), ('\uff10', '\uff19'),
      ('\uff21', '\uff26'), ('\uff41', '\uff46')])
  | "asciihexdigit" | "ahex" => some (.ofRanges [('0', '9'), ('A', 'F'), ('a', 'f')])
  | _ => none

/-- The characters with a property that is given by its name, or by its name and a value. -/
def property? (name : String) : Option String → Option CharSet
  | none =>
    let loose := looseName name
    ((binaryNamed? loose).or (categoryNamed? loose)).or (scriptNamed? loose)
  | some value => match looseName name with
    | "generalcategory" | "gc" => categoryNamed? (looseName value)
    | "script" | "sc" | "scriptextensions" | "scx" => scriptNamed? (looseName value)
    | _ => none

end Telemetry.Unicode

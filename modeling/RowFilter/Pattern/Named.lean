import RowFilter.Text.Age
import RowFilter.Text.Break
import RowFilter.Text.CharSet
import RowFilter.Text.Script

/-!
Sets of characters by the names that patterns have for them: the letters of classes, the names in
double brackets, and properties of the character standard with or without a value.
-/

namespace RowFilter

namespace Pattern

open Text (CharSet NamedSet)

/-! ## Classes -/

def asciiDigit : CharSet := .ofText "30-39"

def asciiWord : CharSet := .ofText "30-39 41-5A 5F 61-7A"

def asciiBlank : CharSet := .ofText "9-D 20"

/-- The set of a class letter, over all characters or those of ASCII. -/
def classSet? (unicode : Bool) : Char → Option CharSet
  | 'd' => some (if unicode then Text.Category.decimalNumber else asciiDigit)
  | 'w' => some (if unicode then Text.Property.word else asciiWord)
  | 's' => some (if unicode then Text.Property.whiteSpace else asciiBlank)
  | _ => none

/-- The sets that names such as `alpha` stand for in double brackets. -/
def asciiSets : List NamedSet := [
  ⟨["alnum"], .ofText "30-39 41-5A 61-7A"⟩,
  ⟨["alpha"], .ofText "41-5A 61-7A"⟩,
  ⟨["ascii"], .ofText "0-7F"⟩,
  ⟨["blank"], .ofText "9 20"⟩,
  ⟨["cntrl"], .ofText "0-1F 7F"⟩,
  ⟨["digit"], asciiDigit⟩,
  ⟨["graph"], .ofText "21-7E"⟩,
  ⟨["lower"], .ofText "61-7A"⟩,
  ⟨["print"], .ofText "20-7E"⟩,
  ⟨["punct"], .ofText "21-2F 3A-40 5B-60 7B-7E"⟩,
  ⟨["space"], asciiBlank⟩,
  ⟨["upper"], .ofText "41-5A"⟩,
  ⟨["word"], asciiWord⟩,
  ⟨["xdigit"], .ofText "30-39 41-46 61-66"⟩]

/-! ## Properties -/

/-- The letters of a name that count: those of ASCII, in lowercase, without blanks, hyphens and
underscores. -/
def propertyLetters (name : List Char) : List Char :=
  (name.filter fun c => c.toNat < 0x80 && c ≠ ' ' && c ≠ '-' && c ≠ '_').map Char.toLower

/-- A name as it is looked up: by the letters that count, without `is` in front. -/
def propertyKey (name : List Char) : String :=
  if propertyLetters (name.take 2) = ['i', 's'] then
    let rest := propertyLetters (name.drop 2)
    if rest = ['c'] then "isc" else String.ofList rest
  else String.ofList (propertyLetters name)

/-- The set of a property, a category or a script, whichever goes by the name. -/
def property? (name : List Char) : Option CharSet :=
  let key := propertyKey name
  (NamedSet.find? Text.properties key).or
    ((NamedSet.find? Text.categories key).or (NamedSet.find? Text.scripts key))

/-- The set of the characters whose property has a value. -/
def propertyValue? (name value : List Char) : Option CharSet :=
  let key := propertyKey value
  match propertyKey name with
  | "gc" | "generalcategory" => NamedSet.find? Text.categories key
  | "sc" | "script" => NamedSet.find? Text.scripts key
  | "scx" | "scriptextensions" => Text.scriptExtension? key
  | "age" => Text.age? key
  | "gcb" | "graphemeclusterbreak" => NamedSet.find? Text.graphemeBreaks key
  | "wb" | "wordbreak" => NamedSet.find? Text.wordBreaks key
  | "sb" | "sentencebreak" => NamedSet.find? Text.sentenceBreaks key
  | _ => none

/-- The parts of a text before and after the first `!=`, `before` being passed, in reverse. -/
def cutAtUnequal? (before : List Char) : List Char → Option (List Char × List Char)
  | '!' :: '=' :: value => some (before.reverse, value)
  | c :: rest => cutAtUnequal? (c :: before) rest
  | [] => none

/-- The parts of a text before and after the first `mark`. -/
def cutAt? (mark : Char) (s : List Char) : Option (List Char × List Char) :=
  match s.dropWhile (· ≠ mark) with
  | _ :: value => some (s.takeWhile (· ≠ mark), value)
  | [] => none

/-- The set that the text of a property stands for, and whether its complement is meant: a name
alone, or a name and its value with `!=`, `:` or `=` between them. -/
def propertySet? (text : List Char) : Option (Bool × CharSet) :=
  match cutAtUnequal? [] text with
  | some (name, value) => (propertyValue? name value).map (true, ·)
  | none =>
    match (cutAt? ':' text).or (cutAt? '=' text) with
    | some (name, value) => (propertyValue? name value).map (false, ·)
    | none => (property? text).map (false, ·)

end Pattern

end RowFilter

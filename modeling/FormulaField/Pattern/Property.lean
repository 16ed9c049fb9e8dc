import FormulaField.Pattern.AgeTable
import FormulaField.Pattern.BreakTable
import FormulaField.Pattern.CategoryTable
import FormulaField.Pattern.CharSet
import FormulaField.Pattern.PropertyTable
import FormulaField.Pattern.ScriptExtensionTable
import FormulaField.Pattern.ScriptTable

set_option autoImplicit false

namespace FormulaField.Pattern

open FormulaField.Text (Runs)

namespace Property

-- A name in lower case without spaces, hyphens, underscores and characters beyond ASCII, and
-- without `is` in front of it.
def plainName (name : List Char) : String :=
  let plain (cs : List Char) : List Char :=
    (cs.filter fun c => Text.isAscii c && c != ' ' && c != '_' && c != '-').map fun c =>
      if 'A' ≤ c && c ≤ 'Z' then Char.ofNat (c.toNat + 32) else c
  match name with
  | i :: s :: rest =>
      if (i == 'i' || i == 'I') && (s == 's' || s == 'S') then
        if plain rest = ['c'] then "isc" else String.ofList (plain rest)
      else String.ofList (plain name)
  | _ => String.ofList (plain name)

def unionOf (sets : List CharSet) : CharSet := sets.foldr .union .none

def ofCategories (names : List String) : CharSet :=
  unionOf (names.map fun name => ((categories.lookup name).map CharSet.runs).getD .none)

def assigned : CharSet := ofCategories (categories.map (·.1))

def visibleCategories : List String :=
  (categories.map (·.1)).filter (! ["Cc", "Cf", "Co"].contains ·)

def category? (plain : String) : Option CharSet :=
  if plain = "any" then some .all
  else if plain = "assigned" then some assigned
  else if plain = "ascii" then some .ascii
  else if plain = "cn" ∨ plain = "unassigned" then some (.compl assigned)
  else if plain = "c" ∨ plain = "other" then some (.compl (ofCategories visibleCategories))
  else (categoryNames.lookup plain).map ofCategories

def entry? (table : List (String × Runs)) (aliases : List (String × String)) (plain : String) :
    Option CharSet :=
  (table.lookup ((aliases.lookup plain).getD plain)).map .runs

def script? : String → Option CharSet := entry? scripts scriptAliases

def scriptExtension? : String → Option CharSet := entry? scriptExtensions scriptAliases

def binary? : String → Option CharSet := entry? properties propertyAliases

-- Short names that are both a category and a property of another kind.
def categoryFirst : List String := ["cf", "sc", "lc"]

def named? (name : List Char) : Option CharSet :=
  let plain := plainName name
  let property := if plain ∈ categoryFirst then none else binary? plain
  property.orElse fun _ => (category? plain).orElse fun _ => script? plain

-- The characters that a version of the character data knows: those of the tables up to the
-- version's own. A version is written `6.0` or `V6_0`.
def age? (plain : String) : Option CharSet :=
  let upTo (version : String × Runs) : List (String × Runs) :=
    ages.takeWhile (·.1 != version.1) ++ [version]
  let isNamed (version : String × Runs) : Bool :=
    version.1 == plain || "v" ++ String.ofList (version.1.toList.filter (· != '.')) == plain
  (ages.find? isNamed).map fun version => unionOf ((upTo version).map fun v => .runs v.2)

def valued? (name value : List Char) : Option CharSet :=
  let property := plainName name
  let plain := plainName value
  if property = "gc" ∨ property = "generalcategory" then category? plain
  else if property = "sc" ∨ property = "script" then script? plain
  else if property = "scx" ∨ property = "scriptextensions" then scriptExtension? plain
  else if property = "age" then age? plain
  else if property = "gcb" ∨ property = "graphemeclusterbreak" then
    entry? clusterBreaks clusterBreakAliases plain
  else if property = "wb" ∨ property = "wordbreak" then entry? wordBreaks wordBreakAliases plain
  else if property = "sb" ∨ property = "sentencebreak" then
    entry? sentenceBreaks sentenceBreakAliases plain
  else none

end Property

end FormulaField.Pattern

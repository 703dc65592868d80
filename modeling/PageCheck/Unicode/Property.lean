import PageCheck.Text.Basic
import PageCheck.Unicode.CodePoints
import PageCheck.Unicode.AgeTable
import PageCheck.Unicode.BreakTable
import PageCheck.Unicode.CategoryTable
import PageCheck.Unicode.PropertyTable
import PageCheck.Unicode.ScriptExtensionTable
import PageCheck.Unicode.ScriptTable

/-!
# Character properties by name

Names of properties and of their values are compared loosely: case, blanks,
underscores, hyphens and a leading "is" do not matter.  A name on its own is
looked up as a binary property, then as a general category and last as a
script.
-/

namespace PageCheck
namespace Unicode

/-- The form of a name that loose comparison is about. -/
def looseName (name : Text) : Text :=
  let plain (t : Text) : Text :=
    (t.filter fun c => c != ' ' && c != '_' && c != '-' && c.toNat < 0x80).map Char.toLower
  match name with
  | i :: s :: rest =>
      if i.toLower = 'i' ∧ s.toLower = 's' then
        if plain rest = ['c'] then ['i', 's', 'c'] else plain rest
      else
        plain name
  | _ => plain name

/-- A row of a property table: names in loose form, and a set. -/
structure NamedSet where
  names : List Text
  members : CodePoints

namespace NamedSet

/-- Reads the rows of a table of runs. -/
def ofTable (table : List (String × String)) : List NamedSet :=
  table.map fun row =>
    ⟨(Text.splitAll ' ' row.1.toList).map looseName, CodePoints.ofRuns row.2⟩

/-- The set under a name in loose form. -/
def find? (rows : List NamedSet) (name : Text) : Option CodePoints :=
  (rows.find? fun row => row.names.contains name).map members

end NamedSet

/-- The general categories of two letters. -/
def categories : List NamedSet := NamedSet.ofTable categoryRuns

/-- The scripts. -/
def scripts : List NamedSet := NamedSet.ofTable scriptRuns

/-- The scripts with the characters that they share. -/
def scriptExtensions : List NamedSet := NamedSet.ofTable scriptExtensionRuns

/-- The binary properties. -/
def properties : List NamedSet := NamedSet.ofTable propertyRuns

/-- The code points that are new in each version, oldest version first. -/
def ages : List NamedSet := NamedSet.ofTable ageRuns

/-- The classes of characters at the ends of user-perceived characters. -/
def graphemeBreaks : List NamedSet := NamedSet.ofTable graphemeBreakRuns

/-- The classes of characters at the ends of words. -/
def wordBreaks : List NamedSet := NamedSet.ofTable wordBreakRuns

/-- The classes of characters at the ends of sentences. -/
def sentenceBreaks : List NamedSet := NamedSet.ofTable sentenceBreakRuns

/-- The union of some general categories, given by their loose names. -/
def categoryUnion (names : List String) : CodePoints :=
  CodePoints.unions (names.filterMap fun name => NamedSet.find? categories name.toList)

/-- The code points without a general category. -/
def unassigned : CodePoints :=
  (CodePoints.unions (categories.map NamedSet.members)).complement

/-- The sets that group several general categories. -/
def categoryGroups : List NamedSet :=
  [ ⟨["c", "other"], (categoryUnion ["cc", "cf", "co"]).union unassigned⟩,
    ⟨["cn", "unassigned"], unassigned⟩,
    ⟨["lc", "casedletter"], categoryUnion ["ll", "lt", "lu"]⟩,
    ⟨["l", "letter"], categoryUnion ["ll", "lm", "lo", "lt", "lu"]⟩,
    ⟨["m", "mark", "combiningmark"], categoryUnion ["mc", "me", "mn"]⟩,
    ⟨["n", "number"], categoryUnion ["nd", "nl", "no"]⟩,
    ⟨["p", "punct", "punctuation"],
      categoryUnion ["pc", "pd", "pe", "pf", "pi", "po", "ps"]⟩,
    ⟨["s", "symbol"], categoryUnion ["sc", "sk", "sm", "so"]⟩,
    ⟨["z", "separator"], categoryUnion ["zl", "zp", "zs"]⟩,
    ⟨["any"], CodePoints.all⟩,
    ⟨["assigned"], unassigned.complement⟩,
    ⟨["ascii"], ⟨[(0, 0x7F)]⟩⟩ ]

/-- A general category, or a group of them, by its loose name. -/
def category? (name : Text) : Option CodePoints :=
  (NamedSet.find? categories name).or (NamedSet.find? categoryGroups name)

/-- A script by its loose name. -/
def script? (name : Text) : Option CodePoints :=
  NamedSet.find? scripts name

/-- A script with the characters it shares, by its loose name. -/
def scriptExtension? (name : Text) : Option CodePoints :=
  (NamedSet.find? scriptExtensions name).or (script? name)

/-- The code points that a version has, by its loose name. -/
def age? (name : Text) : Option CodePoints :=
  match ages.span fun row => !row.names.contains name with
  | (_, []) => none
  | (older, row :: _) => some (CodePoints.unions ((older ++ [row]).map NamedSet.members))

/-- The set that a property name on its own stands for. -/
def named? (name : Text) : Option CodePoints :=
  let loose := looseName name
  if loose = ("cf" : Text) ∨ loose = ("sc" : Text) ∨ loose = ("lc" : Text) then
    category? loose
  else
    (NamedSet.find? properties loose).or ((category? loose).or (script? loose))

/-- The set that a property with a value stands for. -/
def withValue? (name value : Text) : Option CodePoints :=
  let value := looseName value
  match String.ofList (looseName name) with
  | "gc" | "generalcategory" => category? value
  | "sc" | "script" => script? value
  | "scx" | "scriptextensions" => scriptExtension? value
  | "age" => age? value
  | "gcb" | "graphemeclusterbreak" => NamedSet.find? graphemeBreaks value
  | "wb" | "wordbreak" => NamedSet.find? wordBreaks value
  | "sb" | "sentencebreak" => NamedSet.find? sentenceBreaks value
  | _ => none

/-- The set of a binary property that is known to exist. -/
def propertyNamed (name : String) : CodePoints :=
  (NamedSet.find? properties name.toList).getD CodePoints.empty

/-- The letters of the property `Alphabetic`. -/
def alphabetic : CodePoints := propertyNamed "alphabetic"

/-- The numeric characters of all three categories. -/
def numeric : CodePoints := categoryUnion ["nd", "nl", "no"]

/-- The decimal digits of all scripts. -/
def digits : CodePoints := categoryUnion ["nd"]

/-- The blank characters. -/
def blanks : CodePoints := propertyNamed "whitespace"

/-- The characters that words are made of. -/
def wordCharacters : CodePoints :=
  CodePoints.unions
    [alphabetic, categoryUnion ["mc", "me", "mn", "nd", "pc"], propertyNamed "joincontrol"]

/-- The marks, which attach to the character before them. -/
def marks : CodePoints := categoryUnion ["mc", "me", "mn"]

end Unicode
end PageCheck

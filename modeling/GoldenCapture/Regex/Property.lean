import GoldenCapture.Regex.Category
import GoldenCapture.Regex.Script

/-!
# Character properties by name

Finds the set of characters that a name in a pattern stands for: a general category or a group of
them, a script, or a property of letters and blanks.
-/

namespace GoldenCapture.Property

/-- A name without case, blanks, dashes, underscores and a leading `is`. -/
def normalize (name : List Char) : String :=
  let cs := (name.filter fun c => c != ' ' && c != '_' && c != '-').map Char.toLower
  match cs with
  | 'i' :: 's' :: rest => if rest.isEmpty then "is" else String.ofList rest
  | cs => String.ofList cs

/-- The groups of categories, by name, as the letters that their short names start with. -/
def groups : List (String × List String) := [
  ("l", ["l"]), ("letter", ["l"]), ("lc", ["lu", "ll", "lt"]),
  ("casedletter", ["lu", "ll", "lt"]), ("m", ["m"]), ("mark", ["m"]), ("combiningmark", ["m"]),
  ("n", ["n"]), ("number", ["n"]), ("p", ["p"]), ("punctuation", ["p"]), ("punct", ["p"]),
  ("s", ["s"]), ("symbol", ["s"]), ("z", ["z"]), ("separator", ["z"]), ("c", ["c"]),
  ("other", ["c"]), ("cntrl", ["cc"]), ("digit", ["nd"])]

def category? (name : String) : Option CodeSet :=
  match Category.table.find? fun (short, long, _) => short == name || long == name with
  | some (_, _, set) => some set
  | none =>
    match groups.lookup name with
    | some starts =>
      some ((Category.table.filter fun (short, _, _) => starts.any (·.isPrefixOf short)).foldl
        (fun set entry => set.union entry.2.2) CodeSet.empty)
    | none =>
      if name = "any" then some CodeSet.all
      else if name = "ascii" then some (CodeSet.ofRanges [(0, 127)])
      else if name = "assigned" then some Category.unassigned.compl
      else none

def script? (name : String) : Option CodeSet := Script.scripts.lookup name

/-- What a name alone stands for. -/
def named? (name : String) : Option CodeSet :=
  match Script.properties.lookup name with
  | some set => some set
  | none =>
    match category? name with
    | some set => some set
    | none => script? name

/-- What a value of a named property stands for. -/
def valued? (property value : String) : Option CodeSet :=
  if property = "gc" || property = "generalcategory" then category? value
  else if property = "sc" || property = "script" || property = "scx" ||
      property = "scriptextensions" then script? value
  else none

/-- Splits at the first place where `mark` stands. -/
def splitAt? (mark : List Char) : List Char → Option (List Char × List Char)
  | [] => none
  | c :: rest =>
    if mark.isPrefixOf (c :: rest) then some ([], (c :: rest).drop mark.length)
    else (splitAt? mark rest).map fun (before, after) => (c :: before, after)

/-- What the text between the braces of a property escape stands for. -/
def ofText? (text : List Char) : Option CodeSet :=
  match splitAt? "!=".toList text with
  | some (property, value) => (valued? (normalize property) (normalize value)).map CodeSet.compl
  | none =>
    match (splitAt? [':'] text).orElse fun _ => splitAt? ['='] text with
    | some (property, value) => valued? (normalize property) (normalize value)
    | none => named? (normalize text)

end GoldenCapture.Property

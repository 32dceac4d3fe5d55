import MailFilter.Regex.CharSet
import MailFilter.Text.Ascii
import MailFilter.Unicode.CategoryData
import MailFilter.Unicode.PropertyData
import MailFilter.Unicode.ScriptData

/-!
# Named Classes

The classes of characters that have names: the letters behind a backslash, the names between
`[:` and `:]`, and the properties, categories and scripts of Unicode. Names of Unicode are compared
without regard to case, blanks, hyphens and underscores, and without `is` at the front.
-/

namespace MailFilter.Regex

open Unicode (categoryTable propertyTable scriptTable runsOf?)

namespace CharSet

/-- The runs under a name in a table, or nothing. -/
def ofTable (table : List Unicode.Row) (name : String) : CharSet :=
  .runs ((runsOf? table name).getD [])

/-! ### General categories -/

/-- The categories with their names, and the categories that group others. -/
def categoryNames : List (List String × List String) := [
  (["lu", "uppercaseletter"], ["lu"]), (["ll", "lowercaseletter"], ["ll"]),
  (["lt", "titlecaseletter"], ["lt"]), (["lm", "modifierletter"], ["lm"]),
  (["lo", "otherletter"], ["lo"]), (["mn", "nonspacingmark"], ["mn"]),
  (["mc", "spacingmark"], ["mc"]), (["me", "enclosingmark"], ["me"]),
  (["nd", "decimalnumber", "digit"], ["nd"]), (["nl", "letternumber"], ["nl"]),
  (["no", "othernumber"], ["no"]), (["pc", "connectorpunctuation"], ["pc"]),
  (["pd", "dashpunctuation"], ["pd"]), (["ps", "openpunctuation"], ["ps"]),
  (["pe", "closepunctuation"], ["pe"]), (["pi", "initialpunctuation"], ["pi"]),
  (["pf", "finalpunctuation"], ["pf"]), (["po", "otherpunctuation"], ["po"]),
  (["sm", "mathsymbol"], ["sm"]), (["sc", "currencysymbol"], ["sc"]),
  (["sk", "modifiersymbol"], ["sk"]), (["so", "othersymbol"], ["so"]),
  (["zs", "spaceseparator"], ["zs"]), (["zl", "lineseparator"], ["zl"]),
  (["zp", "paragraphseparator"], ["zp"]), (["cc", "control", "cntrl"], ["cc"]),
  (["cf", "format"], ["cf"]), (["co", "privateuse"], ["co"]),
  (["l", "letter"], ["lu", "ll", "lt", "lm", "lo"]),
  (["lc", "casedletter"], ["lu", "ll", "lt"]),
  (["m", "mark", "combiningmark"], ["mn", "mc", "me"]),
  (["n", "number"], ["nd", "nl", "no"]),
  (["p", "punctuation", "punct"], ["pc", "pd", "ps", "pe", "pi", "pf", "po"]),
  (["s", "symbol"], ["sm", "sc", "sk", "so"]),
  (["z", "separator"], ["zs", "zl", "zp"])]

/-- The union of categories. -/
def categories (codes : List String) : CharSet := unions (codes.map (ofTable categoryTable))

/-- The code points with a meaning. -/
def assigned : CharSet := unions (categoryTable.map fun row => .runs row.runs)

/-- The set of a general category. Three further names are read like categories. -/
def ofCategory? (name : String) : Option CharSet :=
  match name with
  | "any" => some everything
  | "assigned" => some assigned
  | "ascii" => some (.range 0 127)
  | "cn" => some (.complement assigned)
  | "unassigned" => some (.complement assigned)
  | "c" => some (.union (categories ["cc", "cf", "co"]) (.complement assigned))
  | "other" => some (.union (categories ["cc", "cf", "co"]) (.complement assigned))
  | _ => (categoryNames.find? (·.1.contains name)).map fun row => categories row.2

/-! ### Scripts and binary properties -/

/-- The set of a script. -/
def ofScript? (name : String) : Option CharSet := (runsOf? scriptTable name).map .runs

/-- The property `White_Space`. -/
def whiteSpace : CharSet :=
  unions [.range 9 13, .range 0x20 0x20, .range 0x85 0x85, .range 0xA0 0xA0,
    .range 0x1680 0x1680, .range 0x2000 0x200A, .range 0x2028 0x2029, .range 0x202F 0x202F,
    .range 0x205F 0x205F, .range 0x3000 0x3000]

/-- The property `Lowercase`. -/
def lowercase : CharSet := .union (categories ["ll"]) (ofTable propertyTable "otherlowercase")

/-- The property `Uppercase`. -/
def uppercase : CharSet := .union (categories ["lu"]) (ofTable propertyTable "otheruppercase")

/-- The property `Alphabetic`. -/
def alphabetic : CharSet :=
  unions [categories ["ll", "lu", "lt", "lm", "lo", "nl"],
    ofTable propertyTable "otherlowercase", ofTable propertyTable "otheruppercase",
    ofTable propertyTable "otheralphabetic"]

/-- The property `ID_Start`. -/
def idStart : CharSet :=
  .diff (.union (categories ["ll", "lu", "lt", "lm", "lo", "nl"])
    (ofTable propertyTable "otheridstart")) (ofTable propertyTable "patternsyntax")

/-- The property `ID_Continue`. -/
def idContinue : CharSet :=
  unions [idStart, categories ["mn", "mc", "nd", "pc"], ofTable propertyTable "otheridcontinue"]

/-- The digits of all scripts, `\d`. -/
def digit : CharSet := categories ["nd"]

/-- The characters of words, `\w`. -/
def word : CharSet :=
  unions [alphabetic, categories ["nd", "mn", "mc", "me", "pc"], .range 0x200C 0x200D]

/-- The set of a binary property. -/
def ofProperty? (name : String) : Option CharSet :=
  if ["alphabetic", "alpha"].contains name then some alphabetic
  else if ["lowercase", "lower"].contains name then some lowercase
  else if ["uppercase", "upper"].contains name then some uppercase
  else if ["whitespace", "wspace", "space"].contains name then some whiteSpace
  else if name = "cased" then some (unions [lowercase, uppercase, categories ["lt"]])
  else if ["caseignorable", "ci"].contains name then
    some (unions (Unicode.caseIgnorableRuns.map fun r => .range r.1 r.2))
  else if ["idstart", "ids"].contains name then some idStart
  else if ["idcontinue", "idc"].contains name then some idContinue
  else if ["xidstart", "xids"].contains name then
    some (.diff idStart (ofTable propertyTable "notxidstart"))
  else if ["xidcontinue", "xidc"].contains name then
    some (.diff idContinue (ofTable propertyTable "notxidcontinue"))
  else if "other".toList.isPrefixOf name.toList || "notxid".toList.isPrefixOf name.toList then
    Option.none
  else (runsOf? propertyTable name).map .runs

/-! ### Names as they are written -/

/-- A name without its case, blanks, hyphens and underscores, and without `is` at the front. -/
def looseName (s : List Char) : String :=
  let (stripped, rest) :=
    match s with
    | c :: d :: rest =>
      if (c = 'i' ∨ c = 'I') ∧ (d = 's' ∨ d = 'S') then (true, rest) else (false, s)
    | _ => (false, s)
  let kept := (rest.filter fun c => c.toNat < 128 && !"_ -".toList.contains c).map Char.toLower
  if stripped && kept == ['c'] then "isc" else String.ofList kept

/-- The set behind a single name: a binary property, a category or a script. Three short names
always mean categories. -/
def ofName? (s : List Char) : Option CharSet :=
  let name := looseName s
  let property := if ["cf", "sc", "lc"].contains name then Option.none else ofProperty? name
  property <|> ofCategory? name <|> ofScript? name

/-- The set behind the name and the value of a property. -/
def ofValue? (property value : List Char) : Option CharSet :=
  let property := looseName property
  let value := looseName value
  if ["generalcategory", "gc"].contains property then ofCategory? value
  else if ["script", "sc", "scriptextensions", "scx"].contains property then ofScript? value
  else Option.none

/-- The class of a letter behind a backslash, within ASCII or in all of Unicode. -/
def ofLetter? (unicode : Bool) (c : Char) : Option CharSet :=
  match unicode, c with
  | true, 'd' => some digit
  | true, 's' => some whiteSpace
  | true, 'w' => some word
  | false, 'd' => some (.range 48 57)
  | false, 's' => some (.union (.range 9 13) (.range 32 32))
  | false, 'w' => some (unions [.range 48 57, .range 65 90, .range 95 95, .range 97 122])
  | _, _ => Option.none

/-- The class of a name between `[:` and `:]`. -/
def ofPosixName? (name : String) : Option CharSet :=
  match name with
  | "alnum" => some (unions [.range 48 57, .range 65 90, .range 97 122])
  | "alpha" => some (.union (.range 65 90) (.range 97 122))
  | "ascii" => some (.range 0 127)
  | "blank" => some (.union (.range 9 9) (.range 32 32))
  | "cntrl" => some (.union (.range 0 31) (.range 127 127))
  | "digit" => some (.range 48 57)
  | "graph" => some (.range 33 126)
  | "lower" => some (.range 97 122)
  | "print" => some (.range 32 126)
  | "punct" => some (unions [.range 33 47, .range 58 64, .range 91 96, .range 123 126])
  | "space" => some (.union (.range 9 13) (.range 32 32))
  | "upper" => some (.range 65 90)
  | "word" => some (unions [.range 48 57, .range 65 90, .range 95 95, .range 97 122])
  | "xdigit" => some (unions [.range 48 57, .range 65 70, .range 97 102])
  | _ => Option.none

end CharSet

end MailFilter.Regex

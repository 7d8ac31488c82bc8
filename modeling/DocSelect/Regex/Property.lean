import DocSelect.Regex.CharClass
/-!
# Named properties of characters

A class of characters may be named by a general category or a group of them, by a script, or by
another property. The spelling of a name is loose: case, blanks, hyphens and underscores do not
matter, nor does `is` in front.

* `looseName` is what a name comes to.
* `CharClass.ofProperty?` is the class of a name, `CharClass.ofPropertyValue?` the one of a value of
  a named property.
-/

namespace DocSelect

/-- The name without what does not matter. -/
def looseName (name : List Char) : List Char :=
  let (stripped, body) : Bool × List Char := match name with
    | a :: b :: rest => if a.toLower = 'i' ∧ b.toLower = 's' then (true, rest) else (false, name)
    | _ => (false, name)
  let plain := (body.filter fun c => c.toNat < 0x80 && c != ' ' && c != '_' && c != '-').map
    Char.toLower
  if stripped ∧ plain = ['c'] then ['i', 's', 'c'] else plain

namespace CharClass

/-- The characters of one of several categories. -/
def categories (cs : List Category) : CharClass := unions (cs.map category)

/-- The categories of marks. -/
def markCategories : List Category := [.nonspacingMark, .spacingMark, .enclosingMark]

/-- The categories of numbers. -/
def numberCategories : List Category := [.decimalDigit, .letterNumber, .otherNumber]

/-- The categories of punctuation. -/
def punctuationCategories : List Category :=
  [.connector, .dash, .opening, .closing, .initialQuote, .finalQuote, .otherPunctuation]

/-- The categories of symbols. -/
def symbolCategories : List Category :=
  [.mathSymbol, .currencySymbol, .modifierSymbol, .otherSymbol]

/-- The categories of separators. -/
def separatorCategories : List Category := [.spaceSeparator, .lineSeparator, .paragraphSeparator]

/-- The characters without a category. -/
def unassigned : CharClass := .complement (categories Category.all)

/-- The class of a general category or of a group of them. -/
def ofCategoryName? (name : String) : Option CharClass :=
  match name with
  | "any" => some (.complement .none)
  | "assigned" => some (categories Category.all)
  | "ascii" => some (range 0 0x7F)
  | "l" | "letter" => some (categories letterCategories)
  | "lc" | "casedletter" => some (categories [.upperLetter, .lowerLetter, .titleLetter])
  | "lu" | "uppercaseletter" => some (category .upperLetter)
  | "ll" | "lowercaseletter" => some (category .lowerLetter)
  | "lt" | "titlecaseletter" => some (category .titleLetter)
  | "lm" | "modifierletter" => some (category .modifierLetter)
  | "lo" | "otherletter" => some (category .otherLetter)
  | "m" | "mark" | "combiningmark" => some (categories markCategories)
  | "mn" | "nonspacingmark" => some (category .nonspacingMark)
  | "mc" | "spacingmark" => some (category .spacingMark)
  | "me" | "enclosingmark" => some (category .enclosingMark)
  | "n" | "number" => some (categories numberCategories)
  | "nd" | "decimalnumber" | "digit" => some (category .decimalDigit)
  | "nl" | "letternumber" => some (category .letterNumber)
  | "no" | "othernumber" => some (category .otherNumber)
  | "p" | "punctuation" | "punct" => some (categories punctuationCategories)
  | "pc" | "connectorpunctuation" => some (category .connector)
  | "pd" | "dashpunctuation" => some (category .dash)
  | "ps" | "openpunctuation" => some (category .opening)
  | "pe" | "closepunctuation" => some (category .closing)
  | "pi" | "initialpunctuation" => some (category .initialQuote)
  | "pf" | "finalpunctuation" => some (category .finalQuote)
  | "po" | "otherpunctuation" => some (category .otherPunctuation)
  | "s" | "symbol" => some (categories symbolCategories)
  | "sm" | "mathsymbol" => some (category .mathSymbol)
  | "sc" | "currencysymbol" => some (category .currencySymbol)
  | "sk" | "modifiersymbol" => some (category .modifierSymbol)
  | "so" | "othersymbol" => some (category .otherSymbol)
  | "z" | "separator" => some (categories separatorCategories)
  | "zs" | "spaceseparator" => some (category .spaceSeparator)
  | "zl" | "lineseparator" => some (category .lineSeparator)
  | "zp" | "paragraphseparator" => some (category .paragraphSeparator)
  | "c" | "other" => some (.union unassigned (categories [.control, .format, .privateUse]))
  | "cc" | "control" | "cntrl" => some (category .control)
  | "cf" | "format" => some (category .format)
  | "cn" | "unassigned" => some unassigned
  | "co" | "privateuse" => some (category .privateUse)
  | _ => .none

/-- The class of a script, by one of its names. -/
def ofScriptName? (name : String) : Option CharClass :=
  let aliased := if name = "qaac" then "copt" else if name = "qaai" then "zinh" else name
  (Script.all.find? fun s =>
    [s.code, s.name].any fun n => String.ofList (looseName n.toList) = aliased).map fun s =>
      script s.name

/-- The class of a property that is neither a category nor a script. -/
def ofFlagName? (name : String) : Option CharClass :=
  match name with
  | "alphabetic" | "alpha" => some alphabetic
  | "uppercase" | "upper" => some uppercase
  | "lowercase" | "lower" => some lowercase
  | "whitespace" | "wspace" | "space" => some space
  | "asciihexdigit" | "ahex" => some (ranges [(0x30, 0x39), (0x41, 0x46), (0x61, 0x66)])
  | "hexdigit" | "hex" =>
    some (ranges [(0x30, 0x39), (0x41, 0x46), (0x61, 0x66), (0xFF10, 0xFF19), (0xFF21, 0xFF26),
      (0xFF41, 0xFF46)])
  | _ => .none

/-- The class of a name. -/
def ofProperty? (name : List Char) : Option CharClass :=
  let name := String.ofList (looseName name)
  ((ofFlagName? name).orElse fun _ => ofCategoryName? name).orElse fun _ => ofScriptName? name

/-- The class of a value of a property. -/
def ofPropertyValue? (property value : List Char) : Option CharClass :=
  let value := String.ofList (looseName value)
  match String.ofList (looseName property) with
  | "generalcategory" | "gc" => ofCategoryName? value
  | "script" | "sc" => ofScriptName? value
  | _ => .none

end CharClass

end DocSelect

import Highlight.Text.Category
import Highlight.Text.Script
import Highlight.Text.Age
import Highlight.Text.Property.Binary
/-!
# Unicode properties in patterns

The escape `\p{...}` (and `\P{...}` for the complement) names a set of characters by a Unicode
property. The braces hold one name (`\p{Greek}`, `\p{Lu}`, `\p{Alphabetic}`), or a property and a
value joined by `=` or `:` (`\p{sc=Grek}`, `\p{gc:Nd}`), or joined by `!=` for the complement of
that value. `\pL` is short for a one-letter name.

Names match loosely: case, blanks, `_` and `-` are ignored, non-ASCII characters are dropped,
and a leading `is` is ignored. A single name is tried as a binary property first (except `cf`,
`sc` and `lc`, which are taken as general categories), then as a general category, then as a
script. The properties that take values are the general category, the script, the script
extensions and the age; an age names every character assigned in that version or earlier.
-/

namespace Highlight.Regex

open Text

/-- The loose form of a name: a leading `is` (in any case) dropped, then blanks, `_` and `-`
dropped, ASCII letters lowercased and other non-ASCII characters dropped. The one exception is
`isc`, which keeps its `is`. -/
def looseName (s : String) : String :=
  let cs := s.toList
  let startsWithIs := match cs with
    | a :: b :: _ => (a == 'i' || a == 'I') && (b == 's' || b == 'S')
    | _ => false
  let body := (if startsWithIs then cs.drop 2 else cs).filterMap fun c =>
    if c == ' ' || c == '_' || c == '-' then none
    else if 'A' ≤ c && c ≤ 'Z' then some (Char.ofNat (c.toNat + 32))
    else if c.toNat ≤ 0x7F then some c
    else none
  if startsWithIs && body == ['c'] then "isc" else String.ofList body

/-- The properties a pattern can name, each by its long name with its other names. -/
def propertyNames : List (String × List String) := [
  ("ASCII_Hex_Digit", ["AHex"]), ("Alphabetic", ["Alpha"]), ("Bidi_Control", ["Bidi_C"]),
  ("Bidi_Mirrored", ["Bidi_M"]), ("Case_Ignorable", ["CI"]), ("Cased", []),
  ("Changes_When_Casefolded", ["CWCF"]), ("Changes_When_Casemapped", ["CWCM"]),
  ("Changes_When_Lowercased", ["CWL"]), ("Changes_When_Titlecased", ["CWT"]),
  ("Changes_When_Uppercased", ["CWU"]), ("Dash", []), ("Default_Ignorable_Code_Point", ["DI"]),
  ("Deprecated", ["Dep"]), ("Diacritic", ["Dia"]), ("Emoji", []), ("Emoji_Component", ["EComp"]),
  ("Emoji_Modifier", ["EMod"]), ("Emoji_Modifier_Base", ["EBase"]),
  ("Emoji_Presentation", ["EPres"]), ("Extended_Pictographic", ["ExtPict"]), ("Extender", ["Ext"]),
  ("Grapheme_Base", ["Gr_Base"]), ("Grapheme_Extend", ["Gr_Ext"]), ("Grapheme_Link", ["Gr_Link"]),
  ("Hex_Digit", ["Hex"]), ("Hyphen", []), ("IDS_Binary_Operator", ["IDSB"]),
  ("IDS_Trinary_Operator", ["IDST"]), ("IDS_Unary_Operator", ["IDSU"]),
  ("ID_Compat_Math_Continue", []), ("ID_Compat_Math_Start", []), ("ID_Continue", ["IDC"]),
  ("ID_Start", ["IDS"]), ("Ideographic", ["Ideo"]), ("Join_Control", ["Join_C"]),
  ("Logical_Order_Exception", ["LOE"]), ("Lowercase", ["Lower"]), ("Math", []),
  ("Modifier_Combining_Mark", ["MCM"]), ("Noncharacter_Code_Point", ["NChar"]),
  ("Other_Alphabetic", ["OAlpha"]), ("Other_Default_Ignorable_Code_Point", ["ODI"]),
  ("Other_Grapheme_Extend", ["OGr_Ext"]), ("Other_ID_Continue", ["OIDC"]),
  ("Other_ID_Start", ["OIDS"]), ("Other_Lowercase", ["OLower"]), ("Other_Math", ["OMath"]),
  ("Other_Uppercase", ["OUpper"]), ("Pattern_Syntax", ["Pat_Syn"]),
  ("Pattern_White_Space", ["Pat_WS"]), ("Prepended_Concatenation_Mark", ["PCM"]),
  ("Quotation_Mark", ["QMark"]), ("Radical", []), ("Regional_Indicator", ["RI"]),
  ("Sentence_Terminal", ["STerm"]), ("Soft_Dotted", ["SD"]), ("Terminal_Punctuation", ["Term"]),
  ("Unified_Ideograph", ["UIdeo"]), ("Uppercase", ["Upper"]), ("Variation_Selector", ["VS"]),
  ("White_Space", ["WSpace", "space"]), ("XID_Continue", ["XIDC"]), ("XID_Start", ["XIDS"]),
  ("Age", []), ("General_Category", ["gc"]), ("Script", ["sc"]),
  ("Script_Extensions", ["scx"])]

/-- The general categories and their groups, each by its names and the categories it holds. -/
def categoryNames : List (List String × List GeneralCategory) :=
  open GeneralCategory in [
  (["C", "Other"], [control, format, unassigned, privateUse, surrogate]),
  (["Cc", "Control", "cntrl"], [control]), (["Cf", "Format"], [format]),
  (["Cn", "Unassigned"], [unassigned]), (["Co", "Private_Use"], [privateUse]),
  (["Cs", "Surrogate"], [surrogate]),
  (["L", "Letter"], [uppercaseLetter, lowercaseLetter, titlecaseLetter, modifierLetter,
    otherLetter]),
  (["LC", "Cased_Letter"], [uppercaseLetter, lowercaseLetter, titlecaseLetter]),
  (["Ll", "Lowercase_Letter"], [lowercaseLetter]), (["Lm", "Modifier_Letter"], [modifierLetter]),
  (["Lo", "Other_Letter"], [otherLetter]), (["Lt", "Titlecase_Letter"], [titlecaseLetter]),
  (["Lu", "Uppercase_Letter"], [uppercaseLetter]),
  (["M", "Mark", "Combining_Mark"], [nonspacingMark, spacingMark, enclosingMark]),
  (["Mc", "Spacing_Mark"], [spacingMark]), (["Me", "Enclosing_Mark"], [enclosingMark]),
  (["Mn", "Nonspacing_Mark"], [nonspacingMark]),
  (["N", "Number"], [decimalNumber, letterNumber, otherNumber]),
  (["Nd", "Decimal_Number", "digit"], [decimalNumber]), (["Nl", "Letter_Number"], [letterNumber]),
  (["No", "Other_Number"], [otherNumber]),
  (["P", "Punctuation", "punct"], [connectorPunctuation, dashPunctuation, openPunctuation,
    closePunctuation, initialPunctuation, finalPunctuation, otherPunctuation]),
  (["Pc", "Connector_Punctuation"], [connectorPunctuation]),
  (["Pd", "Dash_Punctuation"], [dashPunctuation]),
  (["Pe", "Close_Punctuation"], [closePunctuation]),
  (["Pf", "Final_Punctuation"], [finalPunctuation]),
  (["Pi", "Initial_Punctuation"], [initialPunctuation]),
  (["Po", "Other_Punctuation"], [otherPunctuation]),
  (["Ps", "Open_Punctuation"], [openPunctuation]),
  (["S", "Symbol"], [mathSymbol, currencySymbol, modifierSymbol, otherSymbol]),
  (["Sc", "Currency_Symbol"], [currencySymbol]), (["Sk", "Modifier_Symbol"], [modifierSymbol]),
  (["Sm", "Math_Symbol"], [mathSymbol]), (["So", "Other_Symbol"], [otherSymbol]),
  (["Z", "Separator"], [spaceSeparator, lineSeparator, paragraphSeparator]),
  (["Zl", "Line_Separator"], [lineSeparator]), (["Zp", "Paragraph_Separator"], [paragraphSeparator]),
  (["Zs", "Space_Separator"], [spaceSeparator])]

/-- Whether some name of a list has the loose form `loose`. -/
def namesMatch (names : List String) (loose : String) : Bool :=
  names.any (looseName · == loose)

/-- The long name of the property with loose name `loose`. -/
def propertyName? (loose : String) : Option String :=
  (propertyNames.find? fun (long, others) => namesMatch (long :: others) loose).map (·.1)

/-- The characters of the general category (or group of categories) with loose name `loose`;
`Any`, `Assigned` and `ASCII` count as categories too. -/
def categorySet? (loose : String) : Option CharRanges :=
  if loose == "any" then some (CharRanges.range 0 CharRanges.maxCodePoint)
  else if loose == "assigned" then
    some (CharRanges.negate (categoryRanges (· == .unassigned)))
  else if loose == "ascii" then some (CharRanges.range 0 0x7F)
  else (categoryNames.find? fun (names, _) => namesMatch names loose).map fun (_, members) =>
    categoryRanges (members.contains ·)

/-- The code of the script with loose name `loose`. -/
def scriptCode? (loose : String) : Option String :=
  (scriptNames.find? fun s => namesMatch (s.code :: s.name :: s.aliases) loose).map (·.code)

/-- The version with loose name `loose`, written either as `6.0` or as `V6_0`. -/
def ageVersion? (loose : String) : Option String :=
  ageVersions.find? fun v => namesMatch [v, "V" ++ v.replace "." "_"] loose

/-- The set a single name stands for. -/
def namedSet (name : String) : Except String CharRanges := do
  let loose := looseName name
  if loose != "cf" && loose != "sc" && loose != "lc" then
    if let some long := propertyName? loose then
      match Property.binary? long with
      | some s => return s
      | none => throw s!"the property {long} takes a value"
  if let some s := categorySet? loose then return s
  if let some code := scriptCode? loose then return scriptRanges code
  throw s!"unknown property {name}"

/-- The set that a property and one of its values stand for. -/
def valueSet (property value : String) : Except String CharRanges := do
  let some long := propertyName? (looseName property) | throw s!"unknown property {property}"
  let loose := looseName value
  let found : Option CharRanges := match long with
    | "General_Category" => categorySet? loose
    | "Script" => (scriptCode? loose).map scriptRanges
    | "Script_Extensions" => (scriptCode? loose).map scriptExtensionRanges
    | "Age" => (ageVersion? loose).map assignedBy
    | _ => none
  match found with
  | some s => pure s
  | none => throw s!"unknown value {value} of {long}"

/-- The set named by the text of a `\p` escape (between the braces, or the one letter), and
whether `!=` asks for its complement. -/
def propertySet (text : String) : Except String (CharRanges × Bool) :=
  match text.splitOn "!=" with
  | name :: rest@(_ :: _) => do pure (← valueSet name ("!=".intercalate rest), true)
  | _ =>
    match text.splitOn ":" with
    | name :: rest@(_ :: _) => do pure (← valueSet name (":".intercalate rest), false)
    | _ =>
      match text.splitOn "=" with
      | name :: rest@(_ :: _) => do pure (← valueSet name ("=".intercalate rest), false)
      | _ => do pure (← namedSet text, false)

end Highlight.Regex

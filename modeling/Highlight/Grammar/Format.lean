/-!
# Format classes

Every attribute of a grammar carries a format class: the meaning of the text it marks (a keyword,
a string, a comment, ...), which a host turns into colours. Definitions name a class by a style
name such as `dsKeyword`; the leading `ds` may be left out.
-/

namespace Highlight

/-- The meaning of highlighted text, independent of presentation. -/
inductive FormatClass where
  | normal | keyword | function | variableName | controlFlow | operator | builtIn | extension
  | preprocessor | attributeName | char | specialChar | string | verbatimString | specialString
  | importName | dataType | decVal | baseN | float | constant | comment | documentation
  | annotation | commentVar | regionMarker | information | warning | alert | others | error
  deriving DecidableEq, Repr, Inhabited

namespace FormatClass

/-- Every class, in the order of the style names. -/
def all : List FormatClass :=
  [normal, keyword, function, variableName, controlFlow, operator, builtIn, extension,
    preprocessor, attributeName, char, specialChar, string, verbatimString, specialString,
    importName, dataType, decVal, baseN, float, constant, comment, documentation, annotation,
    commentVar, regionMarker, information, warning, alert, others, error]

/-- The style name of a class without its `ds` prefix: the class name in upper camel case. -/
def styleName : FormatClass → String
  | normal => "Normal" | keyword => "Keyword" | function => "Function"
  | variableName => "Variable" | controlFlow => "ControlFlow" | operator => "Operator"
  | builtIn => "BuiltIn" | extension => "Extension" | preprocessor => "Preprocessor"
  | attributeName => "Attribute" | char => "Char" | specialChar => "SpecialChar"
  | string => "String" | verbatimString => "VerbatimString" | specialString => "SpecialString"
  | importName => "Import" | dataType => "DataType" | decVal => "DecVal" | baseN => "BaseN"
  | float => "Float" | constant => "Constant" | comment => "Comment"
  | documentation => "Documentation" | annotation => "Annotation" | commentVar => "CommentVar"
  | regionMarker => "RegionMarker" | information => "Information" | warning => "Warning"
  | alert => "Alert" | others => "Others" | error => "Error"

/-- The name of a class in output: its style name in kebab case (`control-flow`, `base-n`). -/
def kebabName : FormatClass → String
  | normal => "normal" | keyword => "keyword" | function => "function"
  | variableName => "variable" | controlFlow => "control-flow" | operator => "operator"
  | builtIn => "built-in" | extension => "extension" | preprocessor => "preprocessor"
  | attributeName => "attribute" | char => "char" | specialChar => "special-char"
  | string => "string" | verbatimString => "verbatim-string" | specialString => "special-string"
  | importName => "import" | dataType => "data-type" | decVal => "dec-val" | baseN => "base-n"
  | float => "float" | constant => "constant" | comment => "comment"
  | documentation => "documentation" | annotation => "annotation" | commentVar => "comment-var"
  | regionMarker => "region-marker" | information => "information" | warning => "warning"
  | alert => "alert" | others => "others" | error => "error"

/-- The class a style name denotes. One leading `ds` is dropped, then the rest must be a class's
style name exactly. -/
def ofStyleName? (name : String) : Option FormatClass :=
  let bare := if name.startsWith "ds" then name.drop 2 |>.toString else name
  all.find? fun c => c.styleName == bare

/-- Comment-like classes: comments, documentation, annotations, comment variables, alerts and
region markers. -/
def isComment : FormatClass → Bool
  | comment | documentation | annotation | commentVar | alert | regionMarker => true
  | _ => false

/-- String-like classes: strings of every kind and character literals. -/
def isString : FormatClass → Bool
  | string | verbatimString | specialString | char | specialChar => true
  | _ => false

/-- Reading back the style name of a class gives the class, with or without `ds`. -/
theorem ofStyleName?_styleName (c : FormatClass) : ofStyleName? c.styleName = some c := by
  cases c <;> decide +kernel

end FormatClass

end Highlight

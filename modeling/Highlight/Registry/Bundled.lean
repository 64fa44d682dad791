/-!
# Bundled definitions

The definitions that ship with the library, and the index that names them: C, C++, Bash, JSON and
SQL.
-/

namespace Highlight.Bundled

/-- The index of the bundled definitions, as JSON. -/
def indexText : String := String.intercalate "\n" [
    "\x7b",
    "  \"grammars\": [",
    "    \x7b",
    "      \"file\": \"c.xml\",",
    "      \"name\": \"C\",",
    "      \"mime_types\": [\"text/x-csrc\", \"text/x-chdr\"],",
    "      \"patterns\": [\"*.c\", \"*.C\", \"*.h\"],",
    "      \"first_line\": null,",
    "      \"priority\": 5,",
    "      \"hidden\": false",
    "    \x7d,",
    "    \x7b",
    "      \"file\": \"cpp.xml\",",
    "      \"name\": \"C++\",",
    "      \"mime_types\": [\"text/x-c++src\", \"text/x-c++hdr\"],",
    "      \"patterns\": [\"*.cpp\", \"*.cxx\", \"*.cc\", \"*.hpp\", \"*.hxx\", \"*.h\"],",
    "      \"first_line\": null,",
    "      \"priority\": 9,",
    "      \"hidden\": false",
    "    \x7d,",
    "    \x7b",
    "      \"file\": \"bash.xml\",",
    "      \"name\": \"Bash\",",
    "      \"mime_types\": [\"application/x-shellscript\"],",
    "      \"patterns\": [\"*.sh\", \"*.bash\", \".bashrc\", \".bash_profile\", \".profile\"],",
    "      \"first_line\": \"^#!.*\\\\b(ba|k|z)?sh\\\\b\",",
    "      \"priority\": 0,",
    "      \"hidden\": false",
    "    \x7d,",
    "    \x7b",
    "      \"file\": \"json.xml\",",
    "      \"name\": \"JSON\",",
    "      \"mime_types\": [\"application/json\"],",
    "      \"patterns\": [\"*.json\", \".eslintrc\", \"*.geojson\"],",
    "      \"first_line\": null,",
    "      \"priority\": 0,",
    "      \"hidden\": false",
    "    \x7d,",
    "    \x7b",
    "      \"file\": \"sql.xml\",",
    "      \"name\": \"SQL\",",
    "      \"mime_types\": [\"text/x-sql\", \"application/sql\"],",
    "      \"patterns\": [\"*.sql\", \"*.ddl\"],",
    "      \"first_line\": null,",
    "      \"priority\": 0,",
    "      \"hidden\": false",
    "    \x7d",
    "  ]",
    "\x7d",
    ""]

/-- The Bash definition. -/
def bashDefinition : String := String.intercalate "\n" [
    "<?xml version=\"1.0\" encoding=\"UTF-8\"?>",
    "<!DOCTYPE language SYSTEM \"language.dtd\">",
    "<language name=\"Bash\" section=\"Scripts\" version=\"2\" kateversion=\"5.0\"",
    "          extensions=\"*.sh;*.bash;.bashrc;.bash_profile;.profile\" mimetype=\"application/x-shellscript\"",
    "          author=\"synline contributors\" license=\"MIT\">",
    "  <highlighting>",
    "    <list name=\"keywords\">",
    "      <item>case</item>",
    "      <item>do</item>",
    "      <item>done</item>",
    "      <item>elif</item>",
    "      <item>else</item>",
    "      <item>esac</item>",
    "      <item>fi</item>",
    "      <item>for</item>",
    "      <item>function</item>",
    "      <item>if</item>",
    "      <item>in</item>",
    "      <item>then</item>",
    "      <item>until</item>",
    "      <item>while</item>",
    "    </list>",
    "    <list name=\"builtins\">",
    "      <item>cd</item>",
    "      <item>echo</item>",
    "      <item>exit</item>",
    "      <item>export</item>",
    "      <item>local</item>",
    "      <item>read</item>",
    "      <item>return</item>",
    "      <item>set</item>",
    "      <item>shift</item>",
    "      <item>source</item>",
    "      <item>unset</item>",
    "    </list>",
    "    <contexts>",
    "      <context name=\"Command\" attribute=\"Normal Text\" lineEndContext=\"#stay\">",
    "        <DetectSpaces/>",
    "        <DetectChar attribute=\"Comment\" context=\"Comment\" char=\"#\" firstNonSpace=\"true\"/>",
    "        <RegExpr attribute=\"Comment\" context=\"Comment\" String=\"(?&lt;=\\s)#\"/>",
    "        <RegExpr attribute=\"Redirection\" context=\"Here Doc\" String=\"&lt;&lt;-?\\s*[&quot;']?([A-Za-z_][A-Za-z0-9_]*)[&quot;']?\"/>",
    "        <keyword attribute=\"Keyword\" String=\"keywords\"/>",
    "        <keyword attribute=\"Builtin\" String=\"builtins\"/>",
    "        <DetectChar attribute=\"String SingleQ\" context=\"String SingleQ\" char=\"'\"/>",
    "        <DetectChar attribute=\"String DoubleQ\" context=\"String DoubleQ\" char=\"&quot;\"/>",
    "        <RegExpr attribute=\"Variable\" String=\"\\$(\\\x7b[^\x7d]*\\\x7d|[A-Za-z_][A-Za-z0-9_]*|[0-9@#?$!*-])\"/>",
    "        <Int attribute=\"Number\"/>",
    "        <RegExpr attribute=\"Normal Text\" String=\"[A-Za-z_][A-Za-z0-9_.-]*\"/>",
    "        <AnyChar attribute=\"Operator\" String=\"|&amp;;&lt;&gt;()=\"/>",
    "      </context>",
    "      <context name=\"Comment\" attribute=\"Comment\" lineEndContext=\"#pop\"/>",
    "      <context name=\"String SingleQ\" attribute=\"String SingleQ\" lineEndContext=\"#stay\">",
    "        <DetectChar attribute=\"String SingleQ\" context=\"#pop\" char=\"'\"/>",
    "      </context>",
    "      <context name=\"String DoubleQ\" attribute=\"String DoubleQ\" lineEndContext=\"#stay\">",
    "        <Detect2Chars attribute=\"String Escape\" char=\"\\\" char1=\"&quot;\"/>",
    "        <Detect2Chars attribute=\"String Escape\" char=\"\\\" char1=\"$\"/>",
    "        <RegExpr attribute=\"Variable\" String=\"\\$(\\\x7b[^\x7d]*\\\x7d|[A-Za-z_][A-Za-z0-9_]*)\"/>",
    "        <DetectChar attribute=\"String DoubleQ\" context=\"#pop\" char=\"&quot;\"/>",
    "      </context>",
    "      <context name=\"Here Doc\" attribute=\"Here Doc\" lineEndContext=\"#stay\" dynamic=\"true\">",
    "        <RegExpr attribute=\"Redirection\" context=\"#pop\" String=\"^\\t*%1$\" dynamic=\"true\"/>",
    "        <RegExpr attribute=\"Variable\" String=\"\\$(\\\x7b[^\x7d]*\\\x7d|[A-Za-z_][A-Za-z0-9_]*)\"/>",
    "      </context>",
    "    </contexts>",
    "    <itemDatas>",
    "      <itemData name=\"Normal Text\" defStyleNum=\"dsNormal\"/>",
    "      <itemData name=\"Comment\" defStyleNum=\"dsComment\"/>",
    "      <itemData name=\"Keyword\" defStyleNum=\"dsKeyword\"/>",
    "      <itemData name=\"Builtin\" defStyleNum=\"dsBuiltIn\"/>",
    "      <itemData name=\"Variable\" defStyleNum=\"dsVariable\"/>",
    "      <itemData name=\"Number\" defStyleNum=\"dsDecVal\"/>",
    "      <itemData name=\"Operator\" defStyleNum=\"dsOperator\"/>",
    "      <itemData name=\"Redirection\" defStyleNum=\"dsOperator\"/>",
    "      <itemData name=\"String SingleQ\" defStyleNum=\"dsString\"/>",
    "      <itemData name=\"String DoubleQ\" defStyleNum=\"dsString\"/>",
    "      <itemData name=\"String Escape\" defStyleNum=\"dsSpecialChar\"/>",
    "      <itemData name=\"Here Doc\" defStyleNum=\"dsVerbatimString\"/>",
    "    </itemDatas>",
    "  </highlighting>",
    "  <general>",
    "    <comments>",
    "      <comment name=\"singleLine\" start=\"#\"/>",
    "    </comments>",
    "    <keywords casesensitive=\"1\" weakDeliminator=\"-\" additionalDeliminator=\"&quot;'`\"/>",
    "  </general>",
    "</language>",
    ""]

/-- The C definition. -/
def cDefinition : String := String.intercalate "\n" [
    "<?xml version=\"1.0\" encoding=\"UTF-8\"?>",
    "<!DOCTYPE language SYSTEM \"language.dtd\">",
    "<language name=\"C\" section=\"Sources\" version=\"3\" kateversion=\"5.0\"",
    "          extensions=\"*.c;*.C;*.h\" mimetype=\"text/x-csrc;text/x-chdr\"",
    "          priority=\"5\" author=\"synline contributors\" license=\"MIT\">",
    "  <highlighting>",
    "    <list name=\"keywords\">",
    "      <item>break</item>",
    "      <item>case</item>",
    "      <item>continue</item>",
    "      <item>default</item>",
    "      <item>do</item>",
    "      <item>else</item>",
    "      <item>enum</item>",
    "      <item>extern</item>",
    "      <item>for</item>",
    "      <item>goto</item>",
    "      <item>if</item>",
    "      <item>return</item>",
    "      <item>sizeof</item>",
    "      <item>static</item>",
    "      <item>struct</item>",
    "      <item>switch</item>",
    "      <item>typedef</item>",
    "      <item>union</item>",
    "      <item>while</item>",
    "    </list>",
    "    <list name=\"types\">",
    "      <item>char</item>",
    "      <item>const</item>",
    "      <item>double</item>",
    "      <item>float</item>",
    "      <item>int</item>",
    "      <item>long</item>",
    "      <item>short</item>",
    "      <item>signed</item>",
    "      <item>unsigned</item>",
    "      <item>void</item>",
    "    </list>",
    "    <list name=\"alerts\">",
    "      <item>FIXME</item>",
    "      <item>NOTE</item>",
    "      <item>TODO</item>",
    "      <item>XXX</item>",
    "    </list>",
    "    <contexts>",
    "      <context name=\"Normal\" attribute=\"Normal Text\" lineEndContext=\"#stay\">",
    "        <DetectSpaces/>",
    "        <RegExpr attribute=\"Preprocessor\" context=\"Preprocessor\" String=\"#\\s*[a-z]+\" firstNonSpace=\"true\"/>",
    "        <keyword attribute=\"Keyword\" String=\"keywords\"/>",
    "        <keyword attribute=\"Data Type\" String=\"types\"/>",
    "        <DetectIdentifier/>",
    "        <HlCHex attribute=\"Hex\"/>",
    "        <Float attribute=\"Float\">",
    "          <AnyChar attribute=\"Float\" String=\"fFlL\"/>",
    "        </Float>",
    "        <HlCOct attribute=\"Octal\"/>",
    "        <Int attribute=\"Decimal\">",
    "          <StringDetect attribute=\"Decimal\" String=\"ULL\" insensitive=\"true\"/>",
    "          <StringDetect attribute=\"Decimal\" String=\"LU\" insensitive=\"true\"/>",
    "          <StringDetect attribute=\"Decimal\" String=\"UL\" insensitive=\"true\"/>",
    "          <AnyChar attribute=\"Decimal\" String=\"uUlL\"/>",
    "        </Int>",
    "        <HlCChar attribute=\"Char\"/>",
    "        <DetectChar attribute=\"String\" context=\"String\" char=\"&quot;\"/>",
    "        <Detect2Chars attribute=\"Comment\" context=\"Line Comment\" char=\"/\" char1=\"/\"/>",
    "        <Detect2Chars attribute=\"Comment\" context=\"Block Comment\" char=\"/\" char1=\"*\"/>",
    "        <AnyChar attribute=\"Symbol\" String=\":!%&amp;()+,-/.*&lt;=&gt;?[]|~^;\x7b\x7d\"/>",
    "      </context>",
    "      <context name=\"String\" attribute=\"String\" lineEndContext=\"#pop\">",
    "        <LineContinue attribute=\"String\"/>",
    "        <HlCStringChar attribute=\"String Char\"/>",
    "        <DetectChar attribute=\"String\" context=\"#pop\" char=\"&quot;\"/>",
    "      </context>",
    "      <context name=\"Line Comment\" attribute=\"Comment\" lineEndContext=\"#pop\">",
    "        <LineContinue attribute=\"Comment\"/>",
    "        <keyword attribute=\"Alert\" String=\"alerts\"/>",
    "      </context>",
    "      <context name=\"Block Comment\" attribute=\"Comment\" lineEndContext=\"#stay\">",
    "        <Detect2Chars attribute=\"Comment\" context=\"#pop\" char=\"*\" char1=\"/\"/>",
    "        <keyword attribute=\"Alert\" String=\"alerts\"/>",
    "      </context>",
    "      <context name=\"Preprocessor\" attribute=\"Preprocessor\" lineEndContext=\"#pop\">",
    "        <LineContinue attribute=\"Preprocessor\"/>",
    "        <RangeDetect attribute=\"Prep. Lib\" char=\"&lt;\" char1=\"&gt;\"/>",
    "        <DetectChar attribute=\"Prep. Lib\" context=\"String\" char=\"&quot;\"/>",
    "        <Detect2Chars attribute=\"Comment\" context=\"Line Comment\" char=\"/\" char1=\"/\"/>",
    "        <Detect2Chars attribute=\"Comment\" context=\"Block Comment\" char=\"/\" char1=\"*\"/>",
    "      </context>",
    "    </contexts>",
    "    <itemDatas>",
    "      <itemData name=\"Normal Text\" defStyleNum=\"dsNormal\"/>",
    "      <itemData name=\"Keyword\" defStyleNum=\"dsControlFlow\"/>",
    "      <itemData name=\"Data Type\" defStyleNum=\"dsDataType\"/>",
    "      <itemData name=\"Decimal\" defStyleNum=\"dsDecVal\"/>",
    "      <itemData name=\"Octal\" defStyleNum=\"dsBaseN\"/>",
    "      <itemData name=\"Hex\" defStyleNum=\"dsBaseN\"/>",
    "      <itemData name=\"Float\" defStyleNum=\"dsFloat\"/>",
    "      <itemData name=\"Char\" defStyleNum=\"dsChar\"/>",
    "      <itemData name=\"String\" defStyleNum=\"dsString\"/>",
    "      <itemData name=\"String Char\" defStyleNum=\"dsSpecialChar\"/>",
    "      <itemData name=\"Comment\" defStyleNum=\"dsComment\"/>",
    "      <itemData name=\"Alert\" defStyleNum=\"dsAlert\"/>",
    "      <itemData name=\"Symbol\" defStyleNum=\"dsOperator\"/>",
    "      <itemData name=\"Preprocessor\" defStyleNum=\"dsPreprocessor\"/>",
    "      <itemData name=\"Prep. Lib\" defStyleNum=\"dsImport\"/>",
    "    </itemDatas>",
    "  </highlighting>",
    "  <general>",
    "    <comments>",
    "      <comment name=\"singleLine\" start=\"//\"/>",
    "      <comment name=\"multiLine\" start=\"/*\" end=\"*/\"/>",
    "    </comments>",
    "    <keywords casesensitive=\"1\"/>",
    "  </general>",
    "</language>",
    ""]

/-- The C++ definition; it includes C. -/
def cppDefinition : String := String.intercalate "\n" [
    "<?xml version=\"1.0\" encoding=\"UTF-8\"?>",
    "<!DOCTYPE language SYSTEM \"language.dtd\">",
    "<language name=\"C++\" section=\"Sources\" version=\"3\" kateversion=\"5.0\"",
    "          extensions=\"*.cpp;*.cxx;*.cc;*.hpp;*.hxx;*.h\" mimetype=\"text/x-c++src;text/x-c++hdr\"",
    "          priority=\"9\" author=\"synline contributors\" license=\"MIT\">",
    "  <highlighting>",
    "    <list name=\"keywords\">",
    "      <item>class</item>",
    "      <item>constexpr</item>",
    "      <item>delete</item>",
    "      <item>namespace</item>",
    "      <item>new</item>",
    "      <item>nullptr</item>",
    "      <item>private</item>",
    "      <item>protected</item>",
    "      <item>public</item>",
    "      <item>template</item>",
    "      <item>this</item>",
    "      <item>typename</item>",
    "      <item>using</item>",
    "      <item>virtual</item>",
    "    </list>",
    "    <contexts>",
    "      <context name=\"Main\" attribute=\"Normal Text\" lineEndContext=\"#stay\">",
    "        <DetectSpaces/>",
    "        <keyword attribute=\"Keyword\" String=\"keywords\"/>",
    "        <RangeDetect attribute=\"Raw String\" char=\"R&quot;(\" char1=\")&quot;\"/>",
    "        <IncludeRules context=\"##C\"/>",
    "      </context>",
    "    </contexts>",
    "    <itemDatas>",
    "      <itemData name=\"Normal Text\" defStyleNum=\"dsNormal\"/>",
    "      <itemData name=\"Keyword\" defStyleNum=\"dsKeyword\"/>",
    "      <itemData name=\"Raw String\" defStyleNum=\"dsVerbatimString\"/>",
    "    </itemDatas>",
    "  </highlighting>",
    "  <general>",
    "    <comments>",
    "      <comment name=\"singleLine\" start=\"//\"/>",
    "      <comment name=\"multiLine\" start=\"/*\" end=\"*/\"/>",
    "    </comments>",
    "    <keywords casesensitive=\"1\"/>",
    "  </general>",
    "</language>",
    ""]

/-- The JSON definition. -/
def jsonDefinition : String := String.intercalate "\n" [
    "<?xml version=\"1.0\" encoding=\"UTF-8\"?>",
    "<!DOCTYPE language SYSTEM \"language.dtd\">",
    "<language name=\"JSON\" section=\"Markup\" version=\"2\" kateversion=\"5.0\"",
    "          extensions=\"*.json;.eslintrc;*.geojson\" mimetype=\"application/json\"",
    "          author=\"synline contributors\" license=\"MIT\">",
    "  <highlighting>",
    "    <list name=\"constants\">",
    "      <item>true</item>",
    "      <item>false</item>",
    "      <item>null</item>",
    "    </list>",
    "    <contexts>",
    "      <context name=\"Value\" attribute=\"Normal Text\" lineEndContext=\"#stay\">",
    "        <DetectSpaces/>",
    "        <RegExpr attribute=\"Key\" String=\"&quot;(?:[^&quot;\\\\]|\\\\.)*&quot;(?=\\s*:)\"/>",
    "        <DetectChar attribute=\"String\" context=\"String\" char=\"&quot;\"/>",
    "        <keyword attribute=\"Constant\" String=\"constants\"/>",
    "        <RegExpr attribute=\"Number\" String=\"-?(?:0|[1-9][0-9]*)(?:\\.[0-9]+)?(?:[eE][+-]?[0-9]+)?\"/>",
    "        <AnyChar attribute=\"Symbol\" String=\"\x7b\x7d[],:\"/>",
    "      </context>",
    "      <context name=\"String\" attribute=\"String\" lineEndContext=\"#pop\">",
    "        <RegExpr attribute=\"Escape\" String=\"\\\\(?:[&quot;\\\\/bfnrt]|u[0-9a-fA-F]\x7b4\x7d)\"/>",
    "        <DetectChar attribute=\"String\" context=\"#pop\" char=\"&quot;\"/>",
    "      </context>",
    "    </contexts>",
    "    <itemDatas>",
    "      <itemData name=\"Normal Text\" defStyleNum=\"dsNormal\"/>",
    "      <itemData name=\"Key\" defStyleNum=\"dsAttribute\"/>",
    "      <itemData name=\"String\" defStyleNum=\"dsString\"/>",
    "      <itemData name=\"Escape\" defStyleNum=\"dsSpecialChar\"/>",
    "      <itemData name=\"Constant\" defStyleNum=\"dsConstant\"/>",
    "      <itemData name=\"Number\" defStyleNum=\"dsDecVal\"/>",
    "      <itemData name=\"Symbol\" defStyleNum=\"dsOperator\"/>",
    "    </itemDatas>",
    "  </highlighting>",
    "  <general>",
    "    <keywords casesensitive=\"1\"/>",
    "  </general>",
    "</language>",
    ""]

/-- The SQL definition. -/
def sqlDefinition : String := String.intercalate "\n" [
    "<?xml version=\"1.0\" encoding=\"UTF-8\"?>",
    "<!DOCTYPE language SYSTEM \"language.dtd\">",
    "<language name=\"SQL\" section=\"Database\" version=\"2\" kateversion=\"5.0\"",
    "          extensions=\"*.sql;*.ddl\" mimetype=\"text/x-sql;application/sql\"",
    "          author=\"synline contributors\" license=\"MIT\">",
    "  <highlighting>",
    "    <list name=\"keywords\">",
    "      <item>alter</item>",
    "      <item>and</item>",
    "      <item>as</item>",
    "      <item>by</item>",
    "      <item>create</item>",
    "      <item>delete</item>",
    "      <item>distinct</item>",
    "      <item>drop</item>",
    "      <item>from</item>",
    "      <item>group</item>",
    "      <item>having</item>",
    "      <item>in</item>",
    "      <item>index</item>",
    "      <item>insert</item>",
    "      <item>into</item>",
    "      <item>is</item>",
    "      <item>join</item>",
    "      <item>left</item>",
    "      <item>like</item>",
    "      <item>not</item>",
    "      <item>null</item>",
    "      <item>on</item>",
    "      <item>or</item>",
    "      <item>order</item>",
    "      <item>primary</item>",
    "      <item>key</item>",
    "      <item>select</item>",
    "      <item>set</item>",
    "      <item>table</item>",
    "      <item>update</item>",
    "      <item>values</item>",
    "      <item>where</item>",
    "    </list>",
    "    <list name=\"types\">",
    "      <item>bigint</item>",
    "      <item>boolean</item>",
    "      <item>char</item>",
    "      <item>date</item>",
    "      <item>decimal</item>",
    "      <item>integer</item>",
    "      <item>int</item>",
    "      <item>numeric</item>",
    "      <item>text</item>",
    "      <item>timestamp</item>",
    "      <item>varchar</item>",
    "    </list>",
    "    <list name=\"functions\">",
    "      <item>avg</item>",
    "      <item>coalesce</item>",
    "      <item>count</item>",
    "      <item>lower</item>",
    "      <item>max</item>",
    "      <item>min</item>",
    "      <item>sum</item>",
    "      <item>upper</item>",
    "    </list>",
    "    <contexts>",
    "      <context name=\"Normal\" attribute=\"Normal Text\" lineEndContext=\"#stay\">",
    "        <DetectSpaces/>",
    "        <keyword attribute=\"Keyword\" String=\"keywords\"/>",
    "        <keyword attribute=\"Data Type\" String=\"types\"/>",
    "        <keyword attribute=\"Function\" String=\"functions\"/>",
    "        <Float attribute=\"Float\"/>",
    "        <Int attribute=\"Decimal\"/>",
    "        <DetectChar attribute=\"String\" context=\"String\" char=\"'\"/>",
    "        <DetectChar attribute=\"Identifier\" context=\"Quoted Identifier\" char=\"&quot;\"/>",
    "        <Detect2Chars attribute=\"Comment\" context=\"Line Comment\" char=\"-\" char1=\"-\"/>",
    "        <Detect2Chars attribute=\"Comment\" context=\"Block Comment\" char=\"/\" char1=\"*\"/>",
    "        <DetectIdentifier/>",
    "        <AnyChar attribute=\"Operator\" String=\"+-*/%=&lt;&gt;!|,;.()\"/>",
    "      </context>",
    "      <context name=\"String\" attribute=\"String\" lineEndContext=\"#stay\">",
    "        <Detect2Chars attribute=\"String Char\" char=\"'\" char1=\"'\"/>",
    "        <DetectChar attribute=\"String\" context=\"#pop\" char=\"'\"/>",
    "      </context>",
    "      <context name=\"Quoted Identifier\" attribute=\"Identifier\" lineEndContext=\"#pop\">",
    "        <DetectChar attribute=\"Identifier\" context=\"#pop\" char=\"&quot;\"/>",
    "      </context>",
    "      <context name=\"Line Comment\" attribute=\"Comment\" lineEndContext=\"#pop\"/>",
    "      <context name=\"Block Comment\" attribute=\"Comment\" lineEndContext=\"#stay\">",
    "        <Detect2Chars attribute=\"Comment\" context=\"#pop\" char=\"*\" char1=\"/\"/>",
    "      </context>",
    "    </contexts>",
    "    <itemDatas>",
    "      <itemData name=\"Normal Text\" defStyleNum=\"dsNormal\"/>",
    "      <itemData name=\"Keyword\" defStyleNum=\"dsKeyword\"/>",
    "      <itemData name=\"Data Type\" defStyleNum=\"dsDataType\"/>",
    "      <itemData name=\"Function\" defStyleNum=\"dsFunction\"/>",
    "      <itemData name=\"Decimal\" defStyleNum=\"dsDecVal\"/>",
    "      <itemData name=\"Float\" defStyleNum=\"dsFloat\"/>",
    "      <itemData name=\"String\" defStyleNum=\"dsString\"/>",
    "      <itemData name=\"String Char\" defStyleNum=\"dsSpecialChar\"/>",
    "      <itemData name=\"Identifier\" defStyleNum=\"dsVariable\"/>",
    "      <itemData name=\"Comment\" defStyleNum=\"dsComment\"/>",
    "      <itemData name=\"Operator\" defStyleNum=\"dsOperator\"/>",
    "    </itemDatas>",
    "  </highlighting>",
    "  <general>",
    "    <comments>",
    "      <comment name=\"singleLine\" start=\"--\"/>",
    "      <comment name=\"multiLine\" start=\"/*\" end=\"*/\"/>",
    "    </comments>",
    "    <keywords casesensitive=\"0\"/>",
    "  </general>",
    "</language>",
    ""]

/-- The bundled definition files, by file name. -/
def definitions : List (String × String) :=
  [("bash.xml", bashDefinition), ("c.xml", cDefinition), ("cpp.xml", cppDefinition), ("json.xml", jsonDefinition), ("sql.xml", sqlDefinition)]

/-- The text of a bundled definition file. -/
def definition? (file : String) : Option String := definitions.lookup file

end Highlight.Bundled

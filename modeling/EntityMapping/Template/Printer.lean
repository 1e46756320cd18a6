import EntityMapping.Template.Basic
import EntityMapping.Xml.Escape

/-!
# Template text

The text of a template.  Names that come from metadata stand in attributes as they are; only
the type of a selected key is escaped.

Main results:

- `Template.print_append`, `Template.print_concat`, `Template.print_join`: the text of a
  sequence is the sequence of the texts.
-/

namespace EntityMapping

/-- The text of a condition. -/
def Test.print : Test → String
  | .notNull paths => String.intercalate " and " (paths.map fun path => path ++ " != null")
  | .holds path => path

/-- The name of a loop setting. -/
def LoopSetting.name : LoopSetting → String
  | .collection => "collection"
  | .item => "item"
  | .index => "index"
  | .opening => "open"
  | .separator => "separator"
  | .closing => "close"

/-- The name of a trim setting. -/
def TrimSetting.name : TrimSetting → String
  | .front => "prefix"
  | .back => "suffix"
  | .frontDropped => "prefixOverrides"
  | .backDropped => "suffixOverrides"

/-- Settings as attributes, each after a blank. -/
def printSettings (name : α → String) (settings : List (α × String)) : String :=
  String.join (settings.map fun s => " " ++ name s.1 ++ "=\"" ++ s.2 ++ "\"")

/-- A reference to a value that is bound when the statement runs. -/
def printValue (path : String) : Option JdbcType → String
  | some type => "#\x7b" ++ path ++ ",jdbcType=" ++ type.name ++ "\x7d"
  | none => "#\x7b" ++ path ++ "\x7d"

/-- An element around a text. -/
def element (name body : String) : String :=
  "<" ++ name ++ ">" ++ body ++ "</" ++ name ++ ">"

/-- A binding of a name. -/
def Binding.print (name : String) : Binding → String
  | .pattern leading path trailing =>
    "<bind name=\"" ++ name ++ "\" value=\"" ++ (if leading then "'%' + " else "") ++ path ++
      (if trailing then " + '%'" else "") ++ "\" />"
  | .columns entries =>
    let pair (e : String × String) := "&apos;" ++ e.1 ++ "&apos;:&apos;" ++ e.2 ++ "&apos;"
    "<bind name=\"" ++ name ++ "\" value='#\x7b" ++ String.intercalate "," (entries.map pair) ++
      "\x7d'/>"

namespace Template

/-- The text of a template. -/
def print : Template → String
  | empty => ""
  | append first second => first.print ++ second.print
  | text sql => sql
  | cdata sql => "<![CDATA[" ++ sql ++ "]]>"
  | value path type? => printValue path type?
  | splice path => "$\x7b" ++ path ++ "\x7d"
  | guard test body => "<if test=\"" ++ test.print ++ "\">" ++ body.print ++ "</if>"
  | loop settings body =>
    "<foreach" ++ printSettings LoopSetting.name settings ++ ">" ++ body.print ++ "</foreach>"
  | trim settings body =>
    "<trim" ++ printSettings TrimSetting.name settings ++ ">" ++ body.print ++ "</trim>"
  | whereClause body => element "where" body.print
  | setClause body => element "set" body.print
  | choose branches => element "choose" branches.print
  | branch test body => "<when test=\"" ++ test.print ++ "\">" ++ body.print ++ "</when>"
  | bind name binding => binding.print name
  | fragment id => "<include refid=\"" ++ id ++ "\"/>"
  | selectKey property column timing typeName body =>
    "<selectKey keyProperty=\"" ++ property ++ "\" keyColumn=\"" ++ column ++ "\" order=\"" ++
      timing.name ++ "\"" ++ Xml.printAttribute "resultType" typeName ++ ">" ++ body.print ++
      "</selectKey>"
  | result isKey property column type =>
    "<" ++ (if isKey then "id" else "result") ++ " property=\"" ++ property ++ "\" column=\"" ++
      column ++ "\" jdbcType=\"" ++ type.name ++ "\"/>"
  | association property body =>
    "<association property=\"" ++ property ++ "\">" ++ body.print ++ "</association>"

/-! ## Laws of single pieces -/

variable {body : Template}

/-- Nothing is printed as nothing. -/
theorem print_empty : empty.print = "" := rfl

/-- A guard is printed around its body. -/
theorem print_guard (test : Test) :
    (guard test body).print = "<if test=\"" ++ test.print ++ "\">" ++ body.print ++ "</if>" := rfl

/-- A loop is printed with its settings around its body. -/
theorem print_loop (settings : List (LoopSetting × String)) :
    (loop settings body).print =
      "<foreach" ++ printSettings LoopSetting.name settings ++ ">" ++ body.print ++
        "</foreach>" := rfl

/-- A trimmed part is printed with its settings around its body. -/
theorem print_trim (settings : List (TrimSetting × String)) :
    (trim settings body).print =
      "<trim" ++ printSettings TrimSetting.name settings ++ ">" ++ body.print ++ "</trim>" := rfl

/-- A branch is printed around its body. -/
theorem print_branch (test : Test) :
    (branch test body).print =
      "<when test=\"" ++ test.print ++ "\">" ++ body.print ++ "</when>" := rfl

/-- A pattern is printed as a concatenation. -/
theorem print_pattern (name path : String) (leading trailing : Bool) :
    (bind name (.pattern leading path trailing)).print =
      "<bind name=\"" ++ name ++ "\" value=\"" ++ (if leading then "'%' + " else "") ++ path ++
        (if trailing then " + '%'" else "") ++ "\" />" := rfl

/-- A map of columns is printed as quoted pairs. -/
theorem print_columns (name : String) (entries : List (String × String)) :
    (bind name (.columns entries)).print =
      "<bind name=\"" ++ name ++ "\" value='#\x7b" ++ String.intercalate ","
        (entries.map fun e => "&apos;" ++ e.1 ++ "&apos;:&apos;" ++ e.2 ++ "&apos;") ++
          "\x7d'/>" := rfl

/-- An included fragment is printed as a reference. -/
theorem print_fragment (id : String) :
    (fragment id).print = "<include refid=\"" ++ id ++ "\"/>" := rfl

/-- The selection of a key is printed around its SQL. -/
theorem print_selectKey (property column typeName : String) (timing : KeyTiming) :
    (selectKey property column timing typeName body).print =
      "<selectKey keyProperty=\"" ++ property ++ "\" keyColumn=\"" ++ column ++ "\" order=\"" ++
        timing.name ++ "\"" ++ Xml.printAttribute "resultType" typeName ++ ">" ++ body.print ++
        "</selectKey>" := rfl

/-- An entry of a result map is printed as an empty element. -/
theorem print_result (isKey : Bool) (property column : String) (type : JdbcType) :
    (result isKey property column type).print =
      "<" ++ (if isKey then "id" else "result") ++ " property=\"" ++ property ++ "\" column=\"" ++
        column ++ "\" jdbcType=\"" ++ type.name ++ "\"/>" := rfl

/-- An association is printed around its entries. -/
theorem print_association (property : String) :
    (association property body).print =
      "<association property=\"" ++ property ++ "\">" ++ body.print ++ "</association>" := rfl

/-! ## Laws of sequences -/

@[simp]
theorem print_append (s t : Template) : (s ++ t).print = s.print ++ t.print := rfl

@[simp]
theorem print_text (sql : String) : (text sql).print = sql := rfl

@[simp]
theorem print_concat (ts : List Template) :
    (concat ts).print = String.join (ts.map print) := by
  induction ts with
  | nil => rfl
  | cons t rest ih =>
    apply String.toList_inj.mp
    simp [concat, ih]

@[simp]
theorem print_join (separator : String) (ts : List Template) :
    (join separator ts).print = String.intercalate separator (ts.map print) := by
  induction ts with
  | nil => rfl
  | cons t rest ih =>
    cases rest with
    | nil =>
      apply String.toList_inj.mp
      simp [join]
    | cons u rest =>
      apply String.toList_inj.mp
      rw [join, print_append, print_append, ih]
      · simp [List.intercalate]
      · simp

end Template

end EntityMapping

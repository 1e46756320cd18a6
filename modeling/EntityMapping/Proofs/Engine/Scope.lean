import EntityMapping.Json.Printer
import EntityMapping.Params.Request
import EntityMapping.Template.Basic

/-!
# Scopes

Where a template finds values while it runs: under the names bound so far, and otherwise in
the parameter of the call.  A path is a sequence of names between dots; a member that is not
there is null.

Main results:

- `pathNames_inside`, `pathNames_member`: a path inside a value starts with the name of the value.
- `Scope.value_bind_self`, `Scope.value_bind_inside`: a name is found where it was bound.
- `Request.member?_json`, `Request.field_json`: a request gives every parameter its value.
- `Scope.Sees.value`, `Scope.Sees.value_member`: as long as no parameter is hidden, paths
  into parameters lead to their values.
- `Scope.Carries.value`: a value that is the whole parameter is found from its members on.
-/

namespace EntityMapping

/-! ## Values -/

namespace Json

/-- The member of a value, null if there is none. -/
def field (name : String) (v : Json) : Json := (v.member? name).getD .null

/-- The value at the end of a sequence of names. -/
def follow (v : Json) (names : List String) : Json := names.foldl (fun v name => v.field name) v

/-- The items over which a loop runs. -/
def items : Json → List Json
  | .array items => items
  | _ => []

/-- Whether a value counts as true. -/
def holds : Json → Bool
  | .null => false
  | .bool b => b
  | .int n => n ≠ 0
  | .float x => x.significand ≠ 0
  | _ => true

/-- The text for which a value stands when it becomes part of a text. -/
def spelled : Json → String
  | .null => ""
  | .string s => s
  | v => v.print

/-- The value under a name in a parameter.  A parameter without members is the value of any
name. -/
def named (name : String) : Json → Json
  | .object members => field name (.object members)
  | v => v

/-- The value has nothing but members: it is an object, or null, which has none. -/
def IsRecord : Json → Prop
  | .null => True
  | .object _ => True
  | _ => False

/-- Nothing is found in null. -/
theorem follow_null (names : List String) : follow .null names = .null := by
  induction names with
  | nil => rfl
  | cons name rest ih => exact ih

/-- In a record a name finds the field of that name. -/
theorem IsRecord.named {v : Json} (h : v.IsRecord) (name : String) :
    v.named name = v.field name := by
  cases v with
  | null => rfl
  | object members => rfl
  | _ => cases h

end Json

/-! ## Paths -/

/-- The names on a path. -/
def pathNames (path : String) : List String := (path.toList.splitOn '.').map String.ofList

/-- Every path has a first name. -/
theorem pathNames_ne_nil (path : String) : pathNames path ≠ [] := by
  simp [pathNames]

/-- A name without dots is a path of its own. -/
theorem pathNames_of_plain {name : String} (h : '.' ∉ name.toList) : pathNames name = [name] := by
  rw [pathNames, List.splitOn_eq_singleton h]
  simp

/-- A path inside a value starts with the name of the value. -/
theorem pathNames_inside {name : String} (h : '.' ∉ name.toList) (path : String) :
    pathNames (name ++ "." ++ path) = name :: pathNames path := by
  have hsplit : (name ++ "." ++ path).toList = name.toList ++ '.' :: path.toList := by
    simp
  rw [pathNames, hsplit, List.splitOn_append_cons_self_of_not_mem h]
  simp [pathNames]

/-- No parameter has a dot in its name. -/
theorem parameter_plain (p : Parameter) : '.' ∉ p.name.toList := by
  cases p <;> decide

/-- A path inside a parameter starts with the name of the parameter. -/
theorem pathNames_member (p : Parameter) (path : String) :
    pathNames (p.member path) = p.name :: pathNames path :=
  pathNames_inside (parameter_plain p) path

/-! ## Scopes -/

/-- The names bound so far, the latest first, and the parameter of the call. -/
structure Scope where
  bindings : List (String × Json)
  parameter : Json

namespace Scope

/-- The scope in which a statement starts. -/
def of (parameter : Json) : Scope := ⟨[("_parameter", parameter)], parameter⟩

/-- The scope with a further name. -/
def bind (s : Scope) (name : String) (value : Json) : Scope :=
  { s with bindings := (name, value) :: s.bindings }

/-- The value of a name. -/
def root (s : Scope) (name : String) : Json :=
  (s.bindings.lookup name).getD (s.parameter.named name)

/-- The value at a path. -/
def value (s : Scope) (path : String) : Json :=
  match pathNames path with
  | [] => .null
  | name :: rest => (s.root name).follow rest

/-- The value at a path that may look up a member by another value, as in `a[b.c]`. -/
def indexed (s : Scope) (path : String) : Json :=
  match path.toList.splitOn '[' with
  | [map, index] =>
    (s.value (String.ofList map)).field
      (s.value (String.ofList (index.takeWhile (· != ']')))).spelled
  | _ => s.value path

/-- Whether a test is passed. -/
def passes (s : Scope) : Test → Bool
  | .notNull paths => paths.all fun path => !(s.value path).isNull
  | .holds path => (s.value path).holds

/-- The value that a binding gives a name. -/
def bound (s : Scope) : Binding → Json
  | .pattern leading path trailing =>
    .string ((if leading then "%" else "") ++ (s.value path).spelled ++
      (if trailing then "%" else ""))
  | .columns entries => .object (entries.map fun e => (e.1, .string e.2))

/-- A value is found at the root by the first name and followed by the others. -/
theorem value_of_pathNames (s : Scope) {path name : String} {rest : List String}
    (h : pathNames path = name :: rest) : s.value path = (s.root name).follow rest := by
  rw [value, h]

/-- A name is found where it was bound. -/
theorem value_bind_self (s : Scope) {name : String} (h : '.' ∉ name.toList) (v : Json) :
    (s.bind name v).value name = v := by
  rw [value_of_pathNames _ (pathNames_of_plain h)]
  simp [root, bind, Json.follow]

/-- Another name is found where it was. -/
theorem value_bind_of_ne (s : Scope) {name other : String} (h : '.' ∉ name.toList)
    (hne : name ≠ other) (v : Json) : (s.bind other v).value name = s.value name := by
  have hlookup : (name == other) = false := beq_eq_false_iff_ne.mpr hne
  rw [value_of_pathNames _ (pathNames_of_plain h), value_of_pathNames _ (pathNames_of_plain h)]
  simp [root, bind, List.lookup_cons, hlookup]

/-- The members of a value are found under its name. -/
theorem value_bind_inside (s : Scope) {name : String} (h : '.' ∉ name.toList) (v : Json)
    (path : String) : (s.bind name v).value (name ++ "." ++ path) = v.follow (pathNames path) := by
  rw [value_of_pathNames _ (pathNames_inside h path)]
  simp [root, bind]

/-- A look-up of a member by the value at another path. -/
theorem indexed_lookup (s : Scope) {map index : String} (hmap : '[' ∉ map.toList)
    (hopening : '[' ∉ index.toList) (hclosing : ']' ∉ index.toList) :
    s.indexed (map ++ "[" ++ index ++ "]") = (s.value map).field (s.value index).spelled := by
  have hsplit : (map ++ "[" ++ index ++ "]").toList.splitOn '[' =
      [map.toList, index.toList ++ [']']] := by
    have htoList : (map ++ "[" ++ index ++ "]").toList =
        map.toList ++ '[' :: (index.toList ++ [']']) := by
      simp
    rw [htoList, List.splitOn_append_cons_self_of_not_mem hmap, List.splitOn_eq_singleton]
    simpa using hopening
  have htake : (index.toList ++ [']']).takeWhile (· != ']') = index.toList := by
    rw [List.takeWhile_append_of_pos]
    · simp
    · intro c hc
      exact bne_iff_ne.mpr fun heq => hclosing (heq ▸ hc)
  rw [indexed, hsplit]
  simp only [htake, String.ofList_toList]

/-- A path without brackets leads to its value. -/
theorem indexed_of_plain (s : Scope) {path : String} (h : '[' ∉ path.toList) :
    s.indexed path = s.value path := by
  rw [indexed, List.splitOn_eq_singleton h]

end Scope

/-! ## Requests -/

namespace Request

/-- The value of a parameter, null if it is not set. -/
def valueOf (q : Request) : Parameter → Json
  | .entity => q.entity?.getD .null
  | .id => q.id?.getD .null
  | .ids => (q.ids?.map Json.array).getD .null
  | .condition => q.condition?.getD .null
  | .sort => (q.sorting?.map Sorting.json).getD .null
  | .offset => (q.page?.map fun page => Json.int page.offset).getD .null
  | .pageSize => (q.page?.map fun page => Json.int page.size).getD .null

/-- A parameter is found among the members of a request under its own name only. -/
theorem find?_member (p wanted : Parameter) (value? : Option Json) :
    (member p value?).find? (·.1 == wanted.name) =
      if p = wanted then value?.map fun value => (p.name, value) else none := by
  cases value? with
  | none => simp [member]
  | some value => cases p <;> cases wanted <;> rfl

/-- The value of a parameter, if it is set. -/
def value? (q : Request) : Parameter → Option Json
  | .entity => q.entity?
  | .id => q.id?
  | .ids => q.ids?.map Json.array
  | .condition => q.condition?
  | .sort => q.sorting?.map Sorting.json
  | .offset => q.page?.map fun page => Json.int page.offset
  | .pageSize => q.page?.map fun page => Json.int page.size

/-- A request has a member for every parameter that is set. -/
theorem member?_json (q : Request) (p : Parameter) : q.json.member? p.name = q.value? p := by
  have hpage : ∀ page : Page, page.members =
      member .offset (some (.int page.offset)) ++ member .pageSize (some (.int page.size)) :=
    fun page => rfl
  simp only [json, Json.member?, members, List.find?_append, find?_member]
  cases hq : q.page? with
  | none => cases p <;> simp [value?, hq, Function.comp_def]
  | some page =>
    simp only [Option.map_some, Option.getD_some, hpage, List.find?_append, find?_member]
    cases p <;> simp [value?, hq, Function.comp_def]

/-- A request gives every parameter its value. -/
theorem field_json (q : Request) (p : Parameter) : q.json.field p.name = q.valueOf p := by
  rw [Json.field, member?_json]
  cases p <;> rfl

end Request

/-! ## Scopes that hide no parameter -/

namespace Scope

/-- The scope runs on a request and hides none of its parameters. -/
structure Sees (s : Scope) (q : Request) : Prop where
  parameter : s.parameter = q.json
  unbound : ∀ p : Parameter, s.bindings.lookup p.name = none

namespace Sees

variable {s : Scope} {q : Request}

/-- The scope of a request sees the request. -/
theorem of (q : Request) : (Scope.of q.json).Sees q where
  parameter := rfl
  unbound p := by cases p <;> rfl

/-- A further name that is no parameter hides none. -/
theorem bind (h : s.Sees q) {name : String} (free : ∀ p : Parameter, p.name ≠ name)
    (v : Json) : (s.bind name v).Sees q where
  parameter := h.parameter
  unbound p := by
    have hne : (p.name == name) = false := beq_eq_false_iff_ne.mpr (free p)
    simp [Scope.bind, List.lookup_cons, hne, h.unbound p]

/-- A parameter of the request is found at the root. -/
theorem root (h : s.Sees q) (p : Parameter) : s.root p.name = q.valueOf p := by
  rw [Scope.root, h.unbound p, h.parameter, ← Request.field_json]
  rfl

/-- A parameter of the request is found by its name. -/
theorem value (h : s.Sees q) (p : Parameter) : s.value p.name = q.valueOf p := by
  rw [value_of_pathNames s (pathNames_of_plain (parameter_plain p)), h.root p]
  rfl

/-- A path inside a parameter is followed in the value of the request. -/
theorem value_member (h : s.Sees q) (p : Parameter) (path : String) :
    s.value (p.member path) = (q.valueOf p).follow (pathNames path) := by
  rw [value_of_pathNames s (pathNames_member p path), h.root p]

end Sees

/-! ## Scopes of one value -/

/-- The scope runs on a value as its whole parameter and hides none of the paths into it. -/
structure Carries (s : Scope) (v : Json) (paths : List String) : Prop where
  parameter : s.parameter = v
  unbound : ∀ path ∈ paths, ∀ name ∈ (pathNames path).head?, s.bindings.lookup name = none

/-- A value that is the whole parameter is found from its members on. -/
theorem Carries.value {s : Scope} {v : Json} {paths : List String} (h : s.Carries v paths)
    (hv : v.IsRecord) {path : String} (hpath : path ∈ paths) :
    s.value path = v.follow (pathNames path) := by
  obtain ⟨name, rest, hnames⟩ := List.exists_cons_of_ne_nil (pathNames_ne_nil path)
  have hroot : s.root name = v.field name := by
    rw [root, h.unbound path hpath name (by simp [hnames]), h.parameter, ← hv.named name]
    rfl
  rw [value_of_pathNames s hnames, hroot, hnames]
  rfl

/-- The scope in which a statement starts hides no path but those inside `_parameter`. -/
theorem Carries.of {v : Json} {paths : List String}
    (h : ∀ path ∈ paths, "_parameter" ∉ (pathNames path).head?) : (Scope.of v).Carries v paths where
  parameter := rfl
  unbound path hpath name hname := by
    have hne : (name == "_parameter") = false :=
      beq_eq_false_iff_ne.mpr fun heq => h path hpath (heq ▸ hname)
    simp [Scope.of, List.lookup_cons, hne]

end Scope

end EntityMapping

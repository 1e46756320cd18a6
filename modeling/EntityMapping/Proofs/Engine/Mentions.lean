import EntityMapping.Proofs.Engine.Splicing

/-!
# What templates refer to

A template refers to values by their paths, in bound and spliced texts, in tests, in loops and
in bindings, and to fragments by their ids.  A loop gives its item and index out to its rounds,
and a binding its name to what follows it in the same element.

Main results:

- `Template.Closed.mono`: more names in scope do no harm.
- `Template.Closed.append_bound`, `Template.Closed.loop`: where the names come from.
-/

namespace EntityMapping

/-! ## Mentions -/

/-- A value that a template refers to: its path, and the names that enclosing loops and earlier
bindings have given out where it stands. -/
structure Mention where
  path : String
  names : List String
deriving DecidableEq, Repr

/-- The path leads to what a name stands for, or into it. -/
def StartsAt (path name : String) : Prop := (pathNames path).head? = some name

instance (path name : String) : Decidable (StartsAt path name) :=
  inferInstanceAs (Decidable (_ = _))

/-- A name without dots starts at itself. -/
theorem startsAt_self {name : String} (h : '.' ∉ name.toList) : StartsAt name name := by
  rw [StartsAt, pathNames_of_plain h]
  rfl

/-- A path inside a value starts at the name of the value. -/
theorem startsAt_inside {name : String} (h : '.' ∉ name.toList) (rest : String) :
    StartsAt (name ++ "." ++ rest) name := by
  rw [StartsAt, pathNames_inside h]
  rfl

/-- The paths that a binding reads. -/
def Binding.paths : Binding → List String
  | .pattern _ path _ => [path]
  | .columns _ => []

/-- The paths of a spliced reference, which are two if it looks a member up, as in `a[b.c]`. -/
def indexedPaths (path : String) : List String :=
  match path.toList.splitOn '[' with
  | [map, index] => [String.ofList map, String.ofList (index.takeWhile (· != ']'))]
  | _ => [path]

/-- A path without an index is the only one that is read for it. -/
theorem indexedPaths_of_plain {path : String} (h : '[' ∉ path.toList) :
    indexedPaths path = [path] := by
  rw [indexedPaths, List.splitOn_eq_singleton h]

/-- The names that a loop gives out to its rounds. -/
def roundNames (settings : List (LoopSetting × String)) : List String :=
  (settings.lookup .item).toList ++ (settings.lookup .index).toList

namespace Template

/-- The names that a template gives out to what follows it in the same element, the latest first. -/
def introduced : Template → List String
  | append first second => second.introduced ++ first.introduced
  | bind name _ => [name]
  | _ => []

/-- The values that a template refers to, if the given names are in scope. -/
def mentions : Template → List String → List Mention
  | append first second, names =>
    first.mentions names ++ second.mentions (first.introduced ++ names)
  | value path _, names => [⟨path, names⟩]
  | splice path, names => (indexedPaths path).map fun path => ⟨path, names⟩
  | guard test body, names =>
    (test.paths.map fun path => ⟨path, names⟩) ++ body.mentions names
  | loop settings body, names =>
    ⟨loopText settings .collection, names⟩ :: body.mentions (roundNames settings ++ names)
  | trim _ body, names => body.mentions names
  | whereClause body, names => body.mentions names
  | setClause body, names => body.mentions names
  | choose branches, names => branches.mentions names
  | branch test body, names =>
    (test.paths.map fun path => ⟨path, names⟩) ++ body.mentions names
  | bind _ binding, names => binding.paths.map fun path => ⟨path, names⟩
  | selectKey _ _ _ _ body, names => body.mentions names
  | association _ body, names => body.mentions names
  | empty, _ => []
  | text _, _ => []
  | cdata _, _ => []
  | fragment _, _ => []
  | result _ _ _ _, _ => []

/-- The ids of the fragments that a template includes. -/
def fragments : Template → List String
  | append first second => first.fragments ++ second.fragments
  | guard _ body => body.fragments
  | loop _ body => body.fragments
  | trim _ body => body.fragments
  | whereClause body => body.fragments
  | setClause body => body.fragments
  | choose branches => branches.fragments
  | branch _ body => body.fragments
  | fragment id => [id]
  | selectKey _ _ _ _ body => body.fragments
  | association _ body => body.fragments
  | _ => []

/-- No alternative of a choice gives out a name, which the others would not see. -/
def Apart : Template → Prop
  | append first second => first.Apart ∧ second.Apart
  | guard _ body => body.Apart
  | loop _ body => body.Apart
  | trim _ body => body.Apart
  | whereClause body => body.Apart
  | setClause body => body.Apart
  | choose branches => branches.introduced = [] ∧ branches.Apart
  | branch _ body => body.Apart
  | selectKey _ _ _ _ body => body.Apart
  | association _ body => body.Apart
  | _ => True

end Template

/-! ## What is supplied -/

/-- What is supplied to a template: the paths at which values are found, and the fragments. -/
structure Supply where
  values : String → Prop
  fragments : String → Prop

/-- A path leads to a value that is supplied or to one with a name in scope. -/
def Supply.Finds (supply : Supply) (names : List String) (path : String) : Prop :=
  supply.values path ∨ ∃ name ∈ names, StartsAt path name

/-- A path that starts at a name that is given out is found. -/
theorem Supply.finds_name {supply : Supply} {names : List String} {path name : String}
    (hname : name ∈ names) (h : StartsAt path name) : supply.Finds names path :=
  .inr ⟨name, hname, h⟩

/-- What is found with fewer names is found with more. -/
theorem Supply.Finds.mono {supply : Supply} {names more : List String} {path : String}
    (h : supply.Finds names path) (hsubset : names ⊆ more) : supply.Finds more path := by
  rcases h with hvalue | ⟨name, hname, hstarts⟩
  · exact .inl hvalue
  · exact .inr ⟨name, hsubset hname, hstarts⟩

/-- What starts at a parameter is supplied. -/
def Supply.Offers (supply : Supply) (p : Parameter) : Prop :=
  ∀ path, StartsAt path p.name → supply.values path

/-- A parameter that is offered is found. -/
theorem Supply.Offers.finds {supply : Supply} {p : Parameter} (h : supply.Offers p)
    (names : List String) : supply.Finds names p.name :=
  .inl (h _ (startsAt_self (parameter_plain p)))

/-- So is every path inside a parameter that is offered. -/
theorem Supply.Offers.finds_member {supply : Supply} {p : Parameter} (h : supply.Offers p)
    (path : String) (names : List String) : supply.Finds names (p.member path) :=
  .inl (h _ (startsAt_inside (parameter_plain p) path))

namespace Template

variable {supply : Supply} {names more : List String} {first second body : Template}

/-- Everything that the template refers to is supplied or has a name in scope. -/
structure Closed (supply : Supply) (names : List String) (t : Template) : Prop where
  values : ∀ m ∈ t.mentions names, supply.Finds m.names m.path
  fragments : ∀ id ∈ t.fragments, supply.fragments id
  apart : t.Apart

/-- Nothing refers to nothing. -/
theorem closed_empty : empty.Closed supply names :=
  ⟨List.forall_mem_nil _, List.forall_mem_nil _, trivial⟩

/-- Text refers to nothing. -/
theorem closed_text (sql : String) : (text sql).Closed supply names :=
  ⟨List.forall_mem_nil _, List.forall_mem_nil _, trivial⟩

/-- Unparsed text refers to nothing. -/
theorem closed_cdata (sql : String) : (cdata sql).Closed supply names :=
  ⟨List.forall_mem_nil _, List.forall_mem_nil _, trivial⟩

/-- An entry of a result map refers to nothing. -/
theorem closed_result (isKey : Bool) (property column : String) (type : JdbcType) :
    (result isKey property column type).Closed supply names :=
  ⟨List.forall_mem_nil _, List.forall_mem_nil _, trivial⟩

/-- A bound value refers to its path. -/
theorem closed_value {path : String} (h : supply.Finds names path) (type? : Option JdbcType) :
    (value path type?).Closed supply names :=
  ⟨List.forall_mem_singleton.mpr h, List.forall_mem_nil _, trivial⟩

/-- A spliced value refers to its path and to that of its index. -/
theorem closed_splice {path : String} (h : ∀ p ∈ indexedPaths path, supply.Finds names p) :
    (splice path).Closed supply names :=
  ⟨List.forall_mem_map.mpr h, List.forall_mem_nil _, trivial⟩

/-- A binding refers to the paths that it reads. -/
theorem closed_bind {binding : Binding} (h : ∀ path ∈ binding.paths, supply.Finds names path)
    (name : String) : (bind name binding).Closed supply names :=
  ⟨List.forall_mem_map.mpr h, List.forall_mem_nil _, trivial⟩

/-- An included fragment is to be supplied. -/
theorem closed_fragment {id : String} (h : supply.fragments id) :
    (fragment id).Closed supply names :=
  ⟨List.forall_mem_nil _, List.forall_mem_singleton.mpr h, trivial⟩

/-- A guard refers to the paths of its test and to what its body refers to. -/
theorem Closed.guard {test : Test} (htest : ∀ path ∈ test.paths, supply.Finds names path)
    (hbody : body.Closed supply names) : (guard test body).Closed supply names where
  values m hm := by
    rcases List.mem_append.mp hm with hm | hm
    · rcases List.mem_map.mp hm with ⟨path, hpath, rfl⟩
      exact htest path hpath
    · exact hbody.values m hm
  fragments := hbody.fragments
  apart := hbody.apart

/-- A branch refers to the paths of its test and to what its body refers to. -/
theorem Closed.branch {test : Test} (htest : ∀ path ∈ test.paths, supply.Finds names path)
    (hbody : body.Closed supply names) : (branch test body).Closed supply names :=
  ⟨(hbody.guard htest).values, hbody.fragments, hbody.apart⟩

/-- In its rounds a loop gives out the names of its item and its index. -/
theorem Closed.loop {settings : List (LoopSetting × String)}
    (hcollection : supply.Finds names (loopText settings .collection))
    (hbody : body.Closed supply (roundNames settings ++ names)) :
    (loop settings body).Closed supply names where
  values m hm := by
    rcases List.mem_cons.mp hm with rfl | hm
    · exact hcollection
    · exact hbody.values m hm
  fragments := hbody.fragments
  apart := hbody.apart

/-- Trimming adds no reference. -/
theorem Closed.trim (h : body.Closed supply names) (settings : List (TrimSetting × String)) :
    (trim settings body).Closed supply names := ⟨h.values, h.fragments, h.apart⟩

/-- A where clause adds no reference. -/
theorem Closed.whereClause (h : body.Closed supply names) :
    (whereClause body).Closed supply names := ⟨h.values, h.fragments, h.apart⟩

/-- A set clause adds no reference. -/
theorem Closed.setClause (h : body.Closed supply names) :
    (setClause body).Closed supply names := ⟨h.values, h.fragments, h.apart⟩

/-- A choice between branches that give out no names adds no reference. -/
theorem Closed.choose (h : body.Closed supply names) (halone : body.introduced = []) :
    (choose body).Closed supply names := ⟨h.values, h.fragments, halone, h.apart⟩

/-- The selection of a key adds no reference. -/
theorem Closed.selectKey (h : body.Closed supply names) (property column typeName : String)
    (timing : KeyTiming) : (selectKey property column timing typeName body).Closed supply names :=
  ⟨h.values, h.fragments, h.apart⟩

/-- An association adds no reference. -/
theorem Closed.association (h : body.Closed supply names) (property : String) :
    (association property body).Closed supply names := ⟨h.values, h.fragments, h.apart⟩

/-! ## Sequences -/

/-- More names stay more behind the same front. -/
theorem append_subset_append {front : List String} (hsubset : names ⊆ more) :
    front ++ names ⊆ front ++ more := by
  intro name hname
  rcases List.mem_append.mp hname with hname | hname
  · exact List.mem_append_left _ hname
  · exact List.mem_append_right _ (hsubset hname)

/-- A template whose references are found with fewer names finds them with more. -/
theorem finds_mentions_mono {t : Template} (hsubset : names ⊆ more)
    (h : ∀ m ∈ t.mentions names, supply.Finds m.names m.path) :
    ∀ m ∈ t.mentions more, supply.Finds m.names m.path := by
  -- The names grow inwards, so the induction is for all of them.
  induction t generalizing names more with
  | append first second ihFirst ihSecond =>
    rw [mentions, List.forall_mem_append] at h ⊢
    exact ⟨ihFirst hsubset h.1, ihSecond (append_subset_append hsubset) h.2⟩
  | value path type? =>
    rw [mentions, List.forall_mem_singleton] at h ⊢
    exact h.mono hsubset
  | splice path =>
    rw [mentions, List.forall_mem_map] at h ⊢
    exact fun path hpath => (h path hpath).mono hsubset
  | guard test body ih =>
    rw [mentions, List.forall_mem_append, List.forall_mem_map] at h ⊢
    exact ⟨fun path hpath => (h.1 path hpath).mono hsubset, ih hsubset h.2⟩
  | loop settings body ih =>
    rw [mentions, List.forall_mem_cons] at h ⊢
    exact ⟨h.1.mono hsubset, ih (append_subset_append hsubset) h.2⟩
  | trim settings body ih => exact ih hsubset h
  | whereClause body ih => exact ih hsubset h
  | setClause body ih => exact ih hsubset h
  | choose branches ih => exact ih hsubset h
  | branch test body ih =>
    rw [mentions, List.forall_mem_append, List.forall_mem_map] at h ⊢
    exact ⟨fun path hpath => (h.1 path hpath).mono hsubset, ih hsubset h.2⟩
  | bind name binding =>
    rw [mentions, List.forall_mem_map] at h ⊢
    exact fun path hpath => (h path hpath).mono hsubset
  | selectKey property column timing typeName body ih => exact ih hsubset h
  | association property body ih => exact ih hsubset h
  | _ => exact List.forall_mem_nil _

/-- More names in scope do no harm. -/
theorem Closed.mono {t : Template} (h : t.Closed supply names) (hsubset : names ⊆ more) :
    t.Closed supply more := ⟨finds_mentions_mono hsubset h.values, h.fragments, h.apart⟩

/-- What follows in a sequence sees the names that were given out before it. -/
theorem Closed.append_bound (hfirst : first.Closed supply names)
    (hsecond : second.Closed supply (first.introduced ++ names)) :
    (first ++ second).Closed supply names where
  values := List.forall_mem_append.mpr ⟨hfirst.values, hsecond.values⟩
  fragments := List.forall_mem_append.mpr ⟨hfirst.fragments, hsecond.fragments⟩
  apart := ⟨hfirst.apart, hsecond.apart⟩

/-- Parts are closed together if each is, for names of the first part serve the second. -/
theorem Closed.append (hfirst : first.Closed supply names) (hsecond : second.Closed supply names) :
    (first ++ second).Closed supply names :=
  hfirst.append_bound (hsecond.mono (List.subset_append_right _ _))

/-- A sequence of closed templates is closed. -/
theorem closed_concat {ts : List Template} (h : ∀ t ∈ ts, t.Closed supply names) :
    (concat ts).Closed supply names := by
  induction ts with
  | nil => exact closed_empty
  | cons t rest ih =>
    rw [List.forall_mem_cons] at h
    exact h.1.append (ih h.2)

/-- Closed templates are closed when joined by a separator. -/
theorem closed_join (separator : String) {ts : List Template}
    (h : ∀ t ∈ ts, t.Closed supply names) : (join separator ts).Closed supply names := by
  induction ts with
  | nil => exact closed_empty
  | cons t rest ih =>
    rw [List.forall_mem_cons] at h
    cases rest with
    | nil => exact h.1
    | cons next rest => exact (h.1.append (closed_text separator)).append (ih h.2)

end Template

end EntityMapping

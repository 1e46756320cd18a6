import EntityMapping.Proofs.Engine.Scope
import EntityMapping.Proofs.Json.Objects

/-!
# Requests after several changes

A request is made by changes, one after the other.  Each change is about one subject, and what a
request says of a subject is what the last change about it gave; changes about other subjects do
not matter, and neither does their order.  A null is given like any other value, an empty sorting
gives nothing and so takes an older one away, and a page gives two parameters at once.

Main results:

- `Request.value?_apply`: one change decides about its own subject and no other.
- `Request.value?_applyAll`: after several changes the last one about a subject counts.
- `Request.members_eq`: the members of a request are in the order of the parameters.
- `Request.changes_settle`: the value and the text of a request that is made by changes.
-/

namespace EntityMapping

namespace Request

/-! ## Subjects -/

/-- What a change is about. -/
inductive Subject
  | entity
  | id
  | ids
  | condition
  | sorting
  | page
deriving DecidableEq

/-- The subject of a change. -/
def Change.subject : Change → Subject
  | .entity _ => .entity
  | .id _ => .id
  | .ids _ => .ids
  | .condition _ => .condition
  | .sorting _ => .sorting
  | .page _ => .page

/-- The subject to which a parameter belongs. -/
def subjectOf : Parameter → Subject
  | .entity => .entity
  | .id => .id
  | .ids => .ids
  | .condition => .condition
  | .sort => .sorting
  | .offset => .page
  | .pageSize => .page

/-- What a change gives for a parameter. -/
def Change.value? : Change → Parameter → Option Json
  | .entity v, .entity => some v
  | .id v, .id => some v
  | .ids vs, .ids => some (.array vs)
  | .condition v, .condition => some v
  | .sorting orders, .sort => if orders = [] then none else some orders.json
  | .page p, .offset => some (.int p.offset)
  | .page p, .pageSize => some (.int p.size)
  | _, _ => none

/-! ## Changes one after the other -/

/-- The request after several changes. -/
def applyAll (r : Request) (cs : List Change) : Request := cs.foldl apply r

/-- The change is the last one about its subject. -/
def IsLast (cs : List Change) (c : Change) : Prop :=
  ∃ before after, cs = before ++ c :: after ∧ ∀ d ∈ after, d.subject ≠ c.subject

/-- The last change about a subject. -/
def lastAbout (cs : List Change) (s : Subject) : Option Change :=
  cs.reverse.find? (·.subject = s)

variable {cs : List Change} {c : Change} {p : Parameter}

/-- A change is the last of its kind exactly if it is the last about its subject. -/
theorem isLast_iff : IsLast cs c ↔ lastAbout cs c.subject = some c := by
  simp only [lastAbout, List.find?_eq_some_iff_append, decide_eq_true_eq, Bool.not_eq_true',
    decide_eq_false_iff_not, true_and]
  constructor
  · rintro ⟨before, after, rfl, hafter⟩
    exact ⟨after.reverse, before.reverse, by simp, fun d hd => hafter d (by simpa using hd)⟩
  · rintro ⟨after, before, hsplit, hafter⟩
    refine ⟨before.reverse, after.reverse, ?_, fun d hd => hafter d (by simpa using hd)⟩
    rw [← List.reverse_reverse cs, hsplit]
    simp

/-- The last change about a subject is about it. -/
theorem subject_of_lastAbout {s : Subject} (h : lastAbout cs s = some c) : c.subject = s := by
  simpa using List.find?_some h

/-- Changes of which the same ones are the last about their subjects have the same last change
about every subject. -/
theorem lastAbout_congr {cs' : List Change} (h : ∀ c, IsLast cs' c ↔ IsLast cs c) (s : Subject) :
    lastAbout cs' s = lastAbout cs s := by
  refine Option.ext fun c => ?_
  constructor
  · intro hc
    obtain rfl := subject_of_lastAbout hc
    exact isLast_iff.mp ((h c).mp (isLast_iff.mpr hc))
  · intro hc
    obtain rfl := subject_of_lastAbout hc
    exact isLast_iff.mp ((h c).mpr (isLast_iff.mpr hc))

/-- A change decides about its own subject and no other. -/
theorem value?_apply (r : Request) (c : Change) (p : Parameter) :
    (r.apply c).value? p = if c.subject = subjectOf p then c.value? p else r.value? p := by
  cases c with
  | sorting orders => cases orders <;> cases p <;> rfl
  | _ => cases p <;> rfl

/-- After several changes the last one about a subject counts. -/
theorem value?_applyAll (r : Request) (cs : List Change) (p : Parameter) :
    (r.applyAll cs).value? p =
      ((lastAbout cs (subjectOf p)).map (·.value? p)).getD (r.value? p) := by
  induction cs generalizing r with
  | nil => rfl
  | cons c rest ih =>
    have hrest : r.applyAll (c :: rest) = (r.apply c).applyAll rest := rfl
    rw [hrest, ih, value?_apply, lastAbout, lastAbout, List.reverse_cons, List.find?_append]
    cases rest.reverse.find? (·.subject = subjectOf p) with
    | some d => rfl
    | none =>
      by_cases hsubject : c.subject = subjectOf p <;> simp [hsubject]

/-- What changes give for a parameter. -/
def given? (cs : List Change) (p : Parameter) : Option Json :=
  (lastAbout cs (subjectOf p)).bind (·.value? p)

/-- After all changes a parameter has the value that was given last. -/
theorem value?_empty_applyAll (cs : List Change) (p : Parameter) :
    (empty.applyAll cs).value? p = given? cs p := by
  have hempty : empty.value? p = none := by cases p <;> rfl
  rw [value?_applyAll, given?, hempty]
  cases lastAbout cs (subjectOf p) <;> rfl

/-! ## Values and texts -/

/-- The members of a request are in the order of the parameters. -/
theorem members_eq (r : Request) :
    r.members = Parameter.all.filterMap fun p => (r.value? p).map fun v => (p.name, v) := by
  obtain ⟨entity?, id?, ids?, condition?, sorting?, page?⟩ := r
  cases entity? <;> cases id? <;> cases ids? <;> cases condition? <;> cases sorting? <;>
    cases page? <;> rfl

/-- The keys of a request are the names of the parameters that are set, in order. -/
theorem keys_members (r : Request) :
    r.members.map (·.1) = (Parameter.all.filter fun p => (r.value? p).isSome).map Parameter.name := by
  rw [members_eq]
  induction Parameter.all with
  | nil => rfl
  | cons p rest ih =>
    cases hvalue : r.value? p <;> simp [hvalue, ih]

/-- A request has each key once. -/
theorem nodup_keys_members (r : Request) : (r.members.map (·.1)).Nodup := by
  have hnames : (Parameter.all.map Parameter.name).Nodup := by decide
  rw [keys_members]
  exact (List.filter_sublist.map Parameter.name).nodup hnames

/-- In its value a request has a member for every parameter that is set. -/
theorem member?_normal_json (r : Request) (p : Parameter) :
    r.json.normal.member? p.name = (r.value? p).map Json.normal := by
  rw [← member?_json]
  exact Json.member?_normal_of_nodup r.nodup_keys_members

/-- Every key of a request names a parameter. -/
theorem mem_keys_normal_json {r : Request} {key : String}
    (h : (r.json.normal.member? key).isSome = true) : ∃ p : Parameter, key = p.name := by
  have hmember : r.json.normal.member? key = (Json.last? key r.members).map Json.normal :=
    Json.member?_normal key r.members
  rw [hmember, Option.isSome_map, Json.last?_isSome_iff, keys_members] at h
  obtain ⟨p, -, rfl⟩ := List.mem_map.mp h
  exact ⟨p, rfl⟩

/-- The text of a request has the members that are set in the order of the parameters. -/
theorem print_json (r : Request) :
    r.json.print = "\x7b" ++ String.intercalate "," (Parameter.all.filterMap fun p =>
      (r.value? p).map fun v => Json.quote p.name ++ ":" ++ v.print) ++ "\x7d" := by
  have htexts : Json.printMembers r.members = Parameter.all.filterMap fun p =>
      (r.value? p).map fun v => Json.quote p.name ++ ":" ++ v.print := by
    rw [members_eq]
    induction Parameter.all with
    | nil => rfl
    | cons p rest ih =>
      cases hvalue : r.value? p <;> simp [hvalue, ih, Json.printMembers]
  rw [json, Json.print, htexts]

/-! ## What a request shows -/

/-- Under the key of a parameter, a value shows what the last change of one kind gave, and nothing
if there was no such change. -/
structure ShowsLast {α : Type} (cs : List Change) (value : Json) (p : Parameter)
    (kind : α → Change) (written : α → Option Json) : Prop where
  last : ∀ a, IsLast cs (kind a) → value.member? p.name = (written a).map Json.normal
  never : (∀ a, kind a ∉ cs) → value.member? p.name = none

/-- The value shows what changes give: each parameter from the last change of its kind, an empty
sorting like none at all, both parameters of a page, and no other key. -/
structure Shows (cs : List Change) (value : Json) : Prop where
  entity : ShowsLast cs value .entity .entity some
  id : ShowsLast cs value .id .id some
  ids : ShowsLast cs value .ids .ids fun vs => some (.array vs)
  condition : ShowsLast cs value .condition .condition some
  sort : ShowsLast cs value .sort .sorting fun orders =>
    if orders = [] then none else some orders.json
  offset : ShowsLast cs value .offset .page fun page => some (.int page.offset)
  pageSize : ShowsLast cs value .pageSize .page fun page => some (.int page.size)
  others : ∀ key, (value.member? key).isSome = true → ∃ p : Parameter, key = p.name

/-- A parameter that only one kind of change is about shows the last of that kind. -/
theorem showsLast_of_kind {α : Type} (cs : List Change) {p : Parameter} {kind : α → Change}
    {written : α → Option Json}
    (hsubject : ∀ c, c.subject = subjectOf p ↔ ∃ a, c = kind a := by
      intro c
      cases c <;> simp [Change.subject, subjectOf])
    (hwritten : ∀ a, (kind a).value? p = written a := by
      intro a
      rfl) :
    ShowsLast cs (empty.applyAll cs).json.normal p kind written where
  last a ha := by
    have hlast := isLast_iff.mp ha
    rw [(hsubject (kind a)).mpr ⟨a, rfl⟩] at hlast
    rw [member?_normal_json, value?_empty_applyAll, given?, hlast, Option.bind_some, hwritten]
  never hnever := by
    have hnone : lastAbout cs (subjectOf p) = none := by
      rw [lastAbout, List.find?_eq_none]
      intro c hc hsame
      obtain ⟨a, rfl⟩ := (hsubject c).mp (by simpa using hsame)
      exact hnever a (by simpa using hc)
    rw [member?_normal_json, value?_empty_applyAll, given?, hnone]
    rfl

/-- The text of a request shows what its changes settled. -/
theorem shows_applyAll (cs : List Change) : Shows cs (empty.applyAll cs).json.normal where
  entity := showsLast_of_kind cs
  id := showsLast_of_kind cs
  ids := showsLast_of_kind cs
  condition := showsLast_of_kind cs
  sort := showsLast_of_kind cs
  offset := showsLast_of_kind cs
  pageSize := showsLast_of_kind cs
  others _ h := mem_keys_normal_json h

/-- A request that is made by changes depends on the last change about each subject alone.  Its
value shows what these gave, and its text has what is set in the order of the parameters. -/
theorem changes_settle (cs : List Change) :
    (∀ cs', (∀ c, IsLast cs' c ↔ IsLast cs c) →
        (empty.applyAll cs').json = (empty.applyAll cs).json) ∧
      Shows cs (empty.applyAll cs).json.normal ∧
      (empty.applyAll cs).json.print =
        "\x7b" ++ String.intercalate "," (Parameter.all.filterMap fun p =>
          (given? cs p).map fun v => Json.quote p.name ++ ":" ++ v.print) ++ "\x7d" := by
  refine ⟨fun cs' hlast => ?_, shows_applyAll cs, ?_⟩
  · have hvalues : (empty.applyAll cs').value? = (empty.applyAll cs).value? := by
      funext p
      rw [value?_empty_applyAll, value?_empty_applyAll, given?, given?, lastAbout_congr hlast]
    rw [json, json, members_eq, members_eq, hvalues]
  · rw [print_json, funext (value?_empty_applyAll cs)]

/-- Changes in two orders, some of them overruled: a null, a page, and an empty sorting that takes
an older one away. -/
theorem changes_settle_twice :
    let cs : List Change :=
      [.sorting [⟨"name", .ascending, false⟩], .id (.int 1), .entity .null, .page ⟨75, 25⟩,
        .id (.int 2), .sorting []]
    let cs' : List Change := [.id (.int 2), .sorting [], .page ⟨75, 25⟩, .entity .null]
    (∀ c, IsLast cs' c ↔ IsLast cs c) ∧
      (empty.applyAll cs').json = (empty.applyAll cs).json ∧
      (empty.applyAll cs).json.print =
        "\x7b\"__entity\":null,\"__id\":2,\"__offset\":75,\"__pageSize\":25\x7d" := by
  intro cs cs'
  have hsame : ∀ c, IsLast cs' c ↔ IsLast cs c := by
    have hlast : lastAbout cs' = lastAbout cs := by
      funext s
      cases s <;> rfl
    intro c
    rw [isLast_iff, isLast_iff, hlast]
  exact ⟨hsame, (changes_settle cs).1 cs' hsame, by decide⟩

end Request

end EntityMapping

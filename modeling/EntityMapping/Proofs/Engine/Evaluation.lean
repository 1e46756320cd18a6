import EntityMapping.Proofs.Engine.Scope
import EntityMapping.Proofs.Engine.Sql

/-!
# Running templates

What the mapper makes of a template when a statement is called.  Text is taken as it stands,
guards keep or drop their body, loops run over a list, and names stay bound from where they are
bound on.  Elements that only describe a statement, such as result mappings and included
fragments, leave nothing in its text.

Main results:

- `Template.eval_append`: a sequence runs from front to back.
- `Template.eval_loop_of_rounds`: a loop gives every round its item.
-/

namespace EntityMapping

/-! ## Settings -/

/-- The text of a loop setting, empty if it is not given. -/
def loopText (settings : List (LoopSetting × String)) (setting : LoopSetting) : String :=
  (settings.lookup setting).getD ""

/-- The text of a trim setting, empty if it is not given. -/
def trimText (settings : List (TrimSetting × String)) (setting : TrimSetting) : String :=
  (settings.lookup setting).getD ""

/-- The scope of a round of a loop. -/
def Scope.round (s : Scope) (settings : List (LoopSetting × String)) (item : Json)
    (index : Nat) : Scope :=
  (s.bind (loopText settings .index) (.int index)).bind (loopText settings .item) item

namespace Template

/-! ## Running -/

mutual

/-- The SQL of a template, and the scope in which the text after it runs. -/
def eval : Template → Scope → Sql × Scope
  | empty, s => ([], s)
  | append first second, s =>
    let (sql, s) := first.eval s
    let (rest, s) := second.eval s
    (sql ++ rest, s)
  | text sql, s => (Sql.text sql, s)
  | cdata sql, s => (Sql.text sql, s)
  | value path type?, s => ([.bound (s.value path) type?], s)
  | splice path, s => (Sql.text (s.indexed path).spelled, s)
  | guard test body, s => if s.passes test then body.eval s else ([], s)
  | loop settings body, s =>
    let items := (s.value (loopText settings .collection)).items
    let rounds := items.zipIdx.map fun (item, index) =>
      (body.eval (s.round settings item index)).1
    (Sql.looped (loopText settings .opening) (loopText settings .separator)
      (loopText settings .closing) rounds, s)
  | trim settings body, s =>
    let (sql, s) := body.eval s
    (Sql.wrapped (trimText settings .front) (trimText settings .frontDropped)
      (trimText settings .back) (trimText settings .backDropped) sql, s)
  | whereClause body, s =>
    let (sql, s) := body.eval s
    (Sql.whereOf sql, s)
  | setClause body, s =>
    let (sql, s) := body.eval s
    (Sql.setOf sql, s)
  | choose branches, s => (branches.choice? s).getD ([], s)
  | branch test body, s => if s.passes test then body.eval s else ([], s)
  | bind name binding, s => ([], s.bind name (s.bound binding))
  | fragment _, s => ([], s)
  | selectKey _ _ _ _ _, s => ([], s)
  | result _ _ _ _, s => ([], s)
  | association _ _, s => ([], s)

/-- What the first branch whose test is passed comes to. -/
def choice? : Template → Scope → Option (Sql × Scope)
  | append first second, s => (first.choice? s).or (second.choice? s)
  | branch test body, s => if s.passes test then some (body.eval s) else none
  | empty, _ => none
  | text _, _ => none
  | cdata _, _ => none
  | value _ _, _ => none
  | splice _, _ => none
  | guard _ _, _ => none
  | loop _ _, _ => none
  | trim _ _, _ => none
  | whereClause _, _ => none
  | setClause _, _ => none
  | choose _, _ => none
  | bind _ _, _ => none
  | fragment _, _ => none
  | selectKey _ _ _ _ _, _ => none
  | result _ _ _ _, _ => none
  | association _ _, _ => none

end

/-- The SQL that a template comes to when it is called with a parameter. -/
def evaluate (t : Template) (parameter : Json) : Sql := (t.eval (Scope.of parameter)).1

/-! ## Laws -/

variable {s : Scope}

@[simp]
theorem eval_empty : empty.eval s = ([], s) := rfl

@[simp]
theorem eval_append (first second : Template) :
    (first ++ second).eval s =
      ((first.eval s).1 ++ (second.eval (first.eval s).2).1, (second.eval (first.eval s).2).2) := rfl

@[simp]
theorem eval_text (sql : String) : (text sql).eval s = (Sql.text sql, s) := rfl

@[simp]
theorem eval_cdata (sql : String) : (cdata sql).eval s = (Sql.text sql, s) := rfl

@[simp]
theorem eval_value (path : String) (type? : Option JdbcType) :
    (value path type?).eval s = ([.bound (s.value path) type?], s) := rfl

@[simp]
theorem eval_splice (path : String) :
    (splice path).eval s = (Sql.text (s.indexed path).spelled, s) := rfl

@[simp]
theorem eval_bind (name : String) (binding : Binding) :
    (bind name binding).eval s = ([], s.bind name (s.bound binding)) := rfl

/-- A guard that passes stands for its body. -/
theorem eval_guard_of_passes {test : Test} (h : s.passes test = true) (body : Template) :
    (guard test body).eval s = body.eval s := by
  change (if s.passes test then body.eval s else ([], s)) = body.eval s
  rw [if_pos h]

/-- A guard that does not pass stands for nothing. -/
theorem eval_guard_of_not {test : Test} (h : s.passes test = false) (body : Template) :
    (guard test body).eval s = ([], s) := by
  change (if s.passes test then body.eval s else ([], s)) = ([], s)
  rw [if_neg (Bool.eq_false_iff.mp h)]

@[simp]
theorem eval_whereClause (body : Template) :
    (whereClause body).eval s = (Sql.whereOf (body.eval s).1, (body.eval s).2) := rfl

@[simp]
theorem eval_setClause (body : Template) :
    (setClause body).eval s = (Sql.setOf (body.eval s).1, (body.eval s).2) := rfl

@[simp]
theorem eval_trim (settings : List (TrimSetting × String)) (body : Template) :
    (trim settings body).eval s =
      (Sql.wrapped (trimText settings .front) (trimText settings .frontDropped)
        (trimText settings .back) (trimText settings .backDropped) (body.eval s).1,
        (body.eval s).2) := rfl

/-- A choice stands for the branch that is chosen, and for nothing if there is none. -/
theorem eval_choose (branches : Template) :
    (choose branches).eval s = (branches.choice? s).getD ([], s) := rfl

/-- The branches of the first part are tried first. -/
theorem choice?_append (first second : Template) :
    (first ++ second).choice? s = (first.choice? s).or (second.choice? s) := rfl

/-- A branch is chosen if its test passes. -/
theorem choice?_branch (test : Test) (body : Template) :
    (branch test body).choice? s = if s.passes test then some (body.eval s) else none := rfl

/-- A loop gives every round its item. -/
theorem eval_loop (settings : List (LoopSetting × String)) (body : Template) :
    (loop settings body).eval s =
      (Sql.looped (loopText settings .opening) (loopText settings .separator)
        (loopText settings .closing)
        ((s.value (loopText settings .collection)).items.zipIdx.map fun (item, index) =>
          (body.eval (s.round settings item index)).1), s) := rfl

/-- A loop over given items comes to what its rounds come to on them. -/
theorem eval_loop_of_rounds {α : Type} {settings : List (LoopSetting × String)}
    {body : Template} {items : List α} {value : α → Json} {round : α → Sql}
    (hitems : (s.value (loopText settings .collection)).items = items.map value)
    (hround : ∀ item ∈ items, ∀ index,
      (body.eval (s.round settings (value item) index)).1 = round item) :
    (loop settings body).eval s =
      (Sql.looped (loopText settings .opening) (loopText settings .separator)
        (loopText settings .closing) (items.map round), s) := by
  have hrounds : (items.map value).zipIdx.map
      (fun x => (body.eval (s.round settings x.1 x.2)).1) = items.map round := by
    rw [List.zipIdx_map, List.map_map]
    calc items.zipIdx.map _ = items.zipIdx.map (round ∘ Prod.fst) := by
          refine List.map_congr_left fun x hx => ?_
          exact hround x.1 (List.fst_mem_of_mem_zipIdx hx) x.2
      _ = items.map round := by
          rw [← List.map_map, List.zipIdx_map_fst]
  rw [eval_loop, hitems, ← hrounds]

end Template

end EntityMapping

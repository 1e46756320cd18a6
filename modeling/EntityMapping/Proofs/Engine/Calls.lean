import EntityMapping.Dialect
import EntityMapping.Proofs.Engine.Evaluation

/-!
# Templates called with a request

What a template comes to wherever it stands in a statement that is called with a request.
The names bound in front of it do not matter as long as they hide no parameter, and it hides
none itself; so the parts of a statement are looked at one by one and put together.

Main results:

- `Template.Yields.append`, `Template.Yields.concat`: a sequence comes to what its parts come to.
- `Template.Yields.guard`: a guard that depends on the request alone keeps or drops its body.
- `Template.Yields.window`: a page window adds text at both ends of its query, nothing else.
- `Template.Gives.join`: joined parts that bind no names, as in the rounds of a loop.
-/

namespace EntityMapping

namespace Template

variable {q : Request} {s : Scope} {t first second body : Template} {sql a b : Sql}

/-! ## In one scope -/

/-- In this scope the template comes to the SQL and binds no names. -/
def Gives (t : Template) (s : Scope) (sql : Sql) : Prop := t.eval s = (sql, s)

/-- Text gives itself. -/
theorem gives_text (text : String) : (Template.text text).Gives s (Sql.text text) :=
  eval_text text

/-- A bound value gives the value of its path, with its type. -/
theorem gives_value (path : String) (type? : Option JdbcType) :
    (value path type?).Gives s [.bound (s.value path) type?] :=
  eval_value path type?

/-- What parts give is joined. -/
theorem Gives.append (hfirst : first.Gives s a) (hsecond : second.Gives s b) :
    (first ++ second).Gives s (a ++ b) := by
  rw [Gives] at *
  rw [eval_append, hfirst, hsecond]

/-- Joined parts that bind no names come to what each of them comes to. -/
theorem Gives.join {α : Type} {separator : String} {items : List α} {t : α → Template}
    {sql : α → Sql} (h : ∀ item ∈ items, (t item).Gives s (sql item)) :
    (Template.join separator (items.map t)).Gives s (Sql.join separator (items.map sql)) := by
  induction items with
  | nil => exact eval_empty
  | cons item rest ih =>
    have hitem := h item (List.mem_cons_self ..)
    have hrest := ih fun other hother => h other (List.mem_cons_of_mem _ hother)
    cases rest with
    | nil => simpa [Template.join] using hitem
    | cons next rest =>
      have hsequence := (hitem.append (gives_text separator)).append hrest
      simp only [List.map_cons, Sql.join_cons_cons]
      exact hsequence

/-! ## In every scope that hides no parameter -/

/-- Called with the request, the template comes to the SQL and leaves the parameters visible. -/
def Yields (t : Template) (q : Request) (sql : Sql) : Prop :=
  ∀ s : Scope, s.Sees q → ∃ after, t.eval s = (sql, after) ∧ after.Sees q

/-- A statement whose body comes to the SQL is run as this SQL. -/
theorem Yields.evaluate (h : t.Yields q sql) : t.evaluate q.json = sql := by
  obtain ⟨after, heval, _⟩ := h _ (Scope.Sees.of q)
  rw [Template.evaluate, heval]

/-- What is given in every scope that sees the call is yielded. -/
theorem yields_of_gives (h : ∀ s : Scope, s.Sees q → t.Gives s sql) : t.Yields q sql :=
  fun s hs => ⟨s, h s hs, hs⟩

/-- Nothing yields nothing. -/
theorem yields_empty : empty.Yields q [] := yields_of_gives fun _ _ => eval_empty

/-- Text yields itself. -/
theorem yields_text (text : String) : (Template.text text).Yields q (Sql.text text) :=
  yields_of_gives fun _ _ => eval_text text

/-- Unparsed text yields itself. -/
theorem yields_cdata (text : String) : (cdata text).Yields q (Sql.text text) :=
  yields_of_gives fun _ _ => eval_cdata text

/-- What parts yield is joined. -/
theorem Yields.append (hfirst : first.Yields q a) (hsecond : second.Yields q b) :
    (first ++ second).Yields q (a ++ b) := by
  intro s hs
  obtain ⟨middle, hmiddle, hseesMiddle⟩ := hfirst s hs
  obtain ⟨after, hafter, hseesAfter⟩ := hsecond middle hseesMiddle
  refine ⟨after, ?_, hseesAfter⟩
  rw [eval_append, hmiddle, hafter]

/-- A guard that depends on the request alone keeps or drops its body. -/
theorem Yields.guard {test : Test} {passed : Bool} (htest : ∀ s : Scope, s.Sees q →
    s.passes test = passed) (hbody : passed = true → body.Yields q sql) :
    (guard test body).Yields q (if passed then sql else []) := by
  intro s hs
  cases passed with
  | false => exact ⟨s, eval_guard_of_not (htest s hs) body, hs⟩
  | true =>
    obtain ⟨after, hafter, hsees⟩ := hbody rfl s hs
    exact ⟨after, by rw [eval_guard_of_passes (htest s hs), hafter]; rfl, hsees⟩

/-- A part that counts if a parameter is set to something. -/
theorem Yields.whenPresent {p : Parameter}
    (hbody : (q.valueOf p).isNull = false → body.Yields q sql) :
    (Template.guard (.notNull [p.name]) body).Yields q
      (if (q.valueOf p).isNull then [] else sql) := by
  have htest : ∀ s : Scope, s.Sees q → s.passes (.notNull [p.name]) = !(q.valueOf p).isNull := by
    intro s hs
    simp [Scope.passes, hs.value p]
  have hguard := Yields.guard htest fun hpassed => hbody (by simpa using hpassed)
  cases hnull : (q.valueOf p).isNull with
  | false => simpa [hnull] using hguard
  | true => simpa [hnull] using hguard

/-- A where clause yields what its body yields, with the connective in front replaced. -/
theorem Yields.whereClause (h : body.Yields q sql) :
    (Template.whereClause body).Yields q (Sql.whereOf sql) := by
  intro s hs
  obtain ⟨after, hafter, hsees⟩ := h s hs
  exact ⟨after, by rw [eval_whereClause, hafter], hsees⟩

end Template

/-! ## Page windows -/

namespace Dialect

/-- What a page window puts before its query. -/
def windowFront : Dialect → Sql
  | .oracle => Sql.text "select * from ( select row_.*, rownum rownum_ from ( "
  | _ => []

/-- What a page window puts after its query. -/
def windowBack (d : Dialect) (offset size : Json) : Sql :=
  let offset : Sql := [.bound offset none]
  let size : Sql := [.bound size none]
  match d with
  | .postgres => Sql.text " limit " ++ size ++ Sql.text " offset " ++ offset
  | .h2 => Sql.text " limit " ++ size ++ Sql.text " offset " ++ offset
  | .mysql => Sql.text " limit " ++ offset ++ Sql.text ", " ++ size
  | .oracle =>
    Sql.text " ) row_ where rownum <= " ++ offset ++ Sql.text " + " ++ size ++
      Sql.text " ) where rownum_ > " ++ offset

end Dialect

/-- A page window adds text at both ends of its query, nothing else. -/
theorem Template.Yields.window {q : Request} {t : Template} {sql : Sql} (d : Dialect)
    (h : t.Yields q sql) :
    (d.window t).Yields q
      (d.windowFront ++ sql ++ d.windowBack (q.valueOf .offset) (q.valueOf .pageSize)) := by
  intro s hs
  obtain ⟨after, heval, hsees⟩ := h s hs
  have hoffset := hsees.value .offset
  have hsize := hsees.value .pageSize
  refine ⟨after, ?_, hsees⟩
  cases d <;>
    simp [Dialect.window, Dialect.windowFront, Dialect.windowBack, heval, hoffset, hsize,
      ← Sql.text_append]

end EntityMapping

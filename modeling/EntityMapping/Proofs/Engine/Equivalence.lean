import EntityMapping.Proofs.Engine.Mentions
import EntityMapping.Proofs.Engine.Pieces

/-!
# Equivalent templates

Templates that differ only in how their text is cut into pieces do the same: in every scope they
come to the same SQL, and they refer to the same values and fragments and give out the same names.

Main results:

- `Template.Equivalent.append`, `Template.Equivalent.loop`: equivalent parts may stand for each
  other.
- `Template.equivalent_text_append`: a text may be cut in two.
- `Template.Equivalent.evaluate`: a call comes to the same SQL.
-/

namespace EntityMapping

namespace Template

/-- Both templates come to the same SQL in all scopes, also as alternatives of a choice, and have
the same names, values and fragments. -/
structure Equivalent (t u : Template) : Prop where
  eval : ∀ s, t.eval s = u.eval s
  choice : ∀ s, t.choice? s = u.choice? s
  introduced : t.introduced = u.introduced
  mentions : ∀ names, t.mentions names = u.mentions names
  fragments : t.fragments = u.fragments
  patternNames : t.patternNames = u.patternNames

variable {t u v first second front : Template}

namespace Equivalent

/-- Every template is equivalent to itself. -/
@[refl]
theorem refl (t : Template) : t.Equivalent t :=
  ⟨fun _ => rfl, fun _ => rfl, rfl, fun _ => rfl, rfl, rfl⟩

/-- Equivalence goes both ways. -/
@[symm]
theorem symm (h : t.Equivalent u) : u.Equivalent t where
  eval s := (h.eval s).symm
  choice s := (h.choice s).symm
  introduced := h.introduced.symm
  mentions names := (h.mentions names).symm
  fragments := h.fragments.symm
  patternNames := h.patternNames.symm

/-- Equivalence is passed on. -/
theorem trans (h : t.Equivalent u) (h' : u.Equivalent v) : t.Equivalent v where
  eval s := (h.eval s).trans (h'.eval s)
  choice s := (h.choice s).trans (h'.choice s)
  introduced := h.introduced.trans h'.introduced
  mentions names := (h.mentions names).trans (h'.mentions names)
  fragments := h.fragments.trans h'.fragments
  patternNames := h.patternNames.trans h'.patternNames

/-- A call comes to the same SQL. -/
theorem evaluate (h : t.Equivalent u) (parameter : Json) :
    t.evaluate parameter = u.evaluate parameter :=
  congrArg Prod.fst (h.eval _)

/-! ## Sequences -/

/-- The parts of a sequence may be replaced. -/
theorem append (hfirst : t.Equivalent u) (hsecond : first.Equivalent second) :
    (t ++ first).Equivalent (u ++ second) where
  eval s := by rw [eval_append, eval_append, hfirst.eval, hsecond.eval]
  choice s := by rw [choice?_append, choice?_append, hfirst.choice, hsecond.choice]
  introduced := congrArg₂ (· ++ ·) hsecond.introduced hfirst.introduced
  mentions names := by
    change t.mentions names ++ first.mentions (t.introduced ++ names) = _
    rw [hfirst.mentions, hsecond.mentions, hfirst.introduced]
    rfl
  fragments := congrArg₂ (· ++ ·) hfirst.fragments hsecond.fragments
  patternNames := congrArg₂ (· ++ ·) hfirst.patternNames hsecond.patternNames

end Equivalent

/-- How a sequence is put together does not matter. -/
theorem equivalent_assoc (t u v : Template) : (t ++ u ++ v).Equivalent (t ++ (u ++ v)) where
  eval s := by simp only [eval_append, List.append_assoc]
  choice s := by simp only [choice?_append, Option.or_assoc]
  introduced := (List.append_assoc ..).symm
  mentions names := by
    change (t.mentions names ++ u.mentions (t.introduced ++ names)) ++
        v.mentions ((u.introduced ++ t.introduced) ++ names) =
      t.mentions names ++ (u.mentions (t.introduced ++ names) ++
        v.mentions (u.introduced ++ (t.introduced ++ names)))
    rw [List.append_assoc, List.append_assoc]
  fragments := List.append_assoc ..
  patternNames := List.append_assoc ..

/-- Nothing in front of a template changes nothing. -/
theorem equivalent_empty_append (t : Template) : (empty ++ t).Equivalent t :=
  ⟨fun _ => rfl, fun _ => rfl, List.append_nil _, fun _ => rfl, rfl, rfl⟩

/-- Nothing behind a template changes nothing. -/
theorem equivalent_append_empty (t : Template) : (t ++ empty).Equivalent t where
  eval s := by rw [eval_append, eval_empty, List.append_nil]
  choice s := Option.or_none
  introduced := rfl
  mentions names := List.append_nil _
  fragments := List.append_nil _
  patternNames := List.append_nil _

/-- It does not matter whether a text stands in character data. -/
theorem equivalent_cdata (sql : String) : (text sql).Equivalent (cdata sql) :=
  ⟨fun _ => rfl, fun _ => rfl, rfl, fun _ => rfl, rfl, rfl⟩

/-- A text without characters is nothing. -/
theorem equivalent_text_empty : empty.Equivalent (text "") :=
  ⟨fun _ => rfl, fun _ => rfl, rfl, fun _ => rfl, rfl, rfl⟩

/-- A text may be cut in two. -/
theorem equivalent_text_append (a b : String) : (text a ++ text b).Equivalent (text (a ++ b)) where
  eval s := by rw [eval_append, eval_text, eval_text, eval_text, Sql.text_append]
  choice _ := rfl
  introduced := rfl
  mentions _ := rfl
  fragments := rfl
  patternNames := rfl

/-! ## Elements -/

namespace Equivalent

/-- The body of a guard may be replaced. -/
theorem guard (h : t.Equivalent u) (test : Test) : (guard test t).Equivalent (guard test u) where
  eval s := by
    change (if s.passes test then t.eval s else ([], s)) = _
    rw [h.eval]
    rfl
  choice _ := rfl
  introduced := rfl
  mentions names := congrArg _ (h.mentions names)
  fragments := h.fragments
  patternNames := h.patternNames

/-- The body of an alternative may be replaced. -/
theorem branch (h : t.Equivalent u) (test : Test) :
    (branch test t).Equivalent (branch test u) where
  eval s := (h.guard test).eval s
  choice s := by rw [choice?_branch, choice?_branch, h.eval]
  introduced := rfl
  mentions names := congrArg _ (h.mentions names)
  fragments := h.fragments
  patternNames := h.patternNames

/-- The body of a loop may be replaced. -/
theorem loop (h : t.Equivalent u) (settings : List (LoopSetting × String)) :
    (loop settings t).Equivalent (loop settings u) where
  eval s := by simp only [eval_loop, h.eval]
  choice _ := rfl
  introduced := rfl
  mentions names := congrArg _ (h.mentions _)
  fragments := h.fragments
  patternNames := h.patternNames

/-- The trimmed part may be replaced. -/
theorem trim (h : t.Equivalent u) (settings : List (TrimSetting × String)) :
    (trim settings t).Equivalent (trim settings u) where
  eval s := by rw [eval_trim, eval_trim, h.eval]
  choice _ := rfl
  introduced := rfl
  mentions := h.mentions
  fragments := h.fragments
  patternNames := h.patternNames

/-- The conditions of a clause may be replaced. -/
theorem whereClause (h : t.Equivalent u) : (whereClause t).Equivalent (whereClause u) where
  eval s := by rw [eval_whereClause, eval_whereClause, h.eval]
  choice _ := rfl
  introduced := rfl
  mentions := h.mentions
  fragments := h.fragments
  patternNames := h.patternNames

/-- The assignments of a clause may be replaced. -/
theorem setClause (h : t.Equivalent u) : (setClause t).Equivalent (setClause u) where
  eval s := by rw [eval_setClause, eval_setClause, h.eval]
  choice _ := rfl
  introduced := rfl
  mentions := h.mentions
  fragments := h.fragments
  patternNames := h.patternNames

/-- The alternatives of a choice may be replaced. -/
theorem choose (h : t.Equivalent u) : (choose t).Equivalent (choose u) where
  eval s := by rw [eval_choose, eval_choose, h.choice]
  choice _ := rfl
  introduced := rfl
  mentions := h.mentions
  fragments := h.fragments
  patternNames := h.patternNames

/-- The SQL that selects a key may be replaced. -/
theorem selectKey (h : t.Equivalent u) (property column typeName : String) (timing : KeyTiming) :
    (selectKey property column timing typeName t).Equivalent
      (selectKey property column timing typeName u) :=
  ⟨fun _ => rfl, fun _ => rfl, rfl, h.mentions, h.fragments, h.patternNames⟩

/-- The members of an association may be replaced. -/
theorem association (h : t.Equivalent u) (property : String) :
    (association property t).Equivalent (association property u) :=
  ⟨fun _ => rfl, fun _ => rfl, rfl, h.mentions, h.fragments, h.patternNames⟩

end Equivalent

end Template

end EntityMapping

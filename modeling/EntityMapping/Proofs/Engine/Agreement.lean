import EntityMapping.Proofs.Engine.Mentions

/-!
# What closed templates depend on

Two scopes that find the same values at all paths that are supplied cannot be told apart by a
closed template: what is not supplied, it gives out itself.  So the values that a template
refers to are all values that it reads.

Main results:

- `Scope.AgreeOn.bind`: scopes that agree do so after a further name too.
- `Template.Closed.eval_congr`: a closed template comes to the same SQL in scopes that agree.
-/

namespace EntityMapping

variable {supply : Supply} {names more : List String}

/-! ## Scopes that agree -/

namespace Scope

variable {s other : Scope} {path name : String}

/-- Both scopes find the same values at the paths that are supplied and inside the names. -/
def AgreeOn (supply : Supply) (names : List String) (s other : Scope) : Prop :=
  ∀ path, supply.Finds names path → s.value path = other.value path

/-- Scopes that agree on more names agree on fewer. -/
theorem AgreeOn.mono (h : s.AgreeOn supply more other) (hsubset : names ⊆ more) :
    s.AgreeOn supply names other :=
  fun path hpath => h path (hpath.mono hsubset)

/-- A path that starts at the name bound last leads into its value. -/
theorem value_bind_of_startsAt (s : Scope) (h : StartsAt path name) (v : Json) :
    (s.bind name v).value path = v.follow (pathNames path).tail := by
  rcases List.head?_eq_some_iff.mp h with ⟨rest, hnames⟩
  rw [value_of_pathNames _ hnames, hnames]
  simp [root, Scope.bind]

/-- A path that starts elsewhere leads where it led. -/
theorem value_bind_of_not_startsAt (s : Scope) (h : ¬ StartsAt path name) (v : Json) :
    (s.bind name v).value path = s.value path := by
  rcases List.exists_cons_of_ne_nil (pathNames_ne_nil path) with ⟨first, rest, hnames⟩
  have hne : (first == name) = false := by
    apply beq_eq_false_iff_ne.mpr
    rintro rfl
    exact h (by rw [StartsAt, hnames]; rfl)
  rw [value_of_pathNames _ hnames, value_of_pathNames _ hnames]
  simp [root, Scope.bind, List.lookup_cons, hne]

/-- Scopes that agree do so after a further name too. -/
theorem AgreeOn.bind (h : s.AgreeOn supply names other) (name : String) (v : Json) :
    (s.bind name v).AgreeOn supply (name :: names) (other.bind name v) := by
  intro path hpath
  by_cases hstarts : StartsAt path name
  · rw [value_bind_of_startsAt s hstarts, value_bind_of_startsAt other hstarts]
  · rw [value_bind_of_not_startsAt s hstarts, value_bind_of_not_startsAt other hstarts]
    apply h
    rcases hpath with hvalue | ⟨given, hgiven, hinto⟩
    · exact .inl hvalue
    · rcases List.mem_cons.mp hgiven with rfl | hgiven
      · exact absurd hinto hstarts
      · exact .inr ⟨given, hgiven, hinto⟩

/-- In each round of a loop they agree on the names that the loop gives out. -/
theorem AgreeOn.round (h : s.AgreeOn supply names other)
    (settings : List (LoopSetting × String)) (item : Json) (index : Nat) :
    (s.round settings item index).AgreeOn supply (roundNames settings ++ names)
      (other.round settings item index) := by
  apply ((h.bind (loopText settings .index) (.int index)).bind (loopText settings .item) item).mono
  unfold roundNames loopText
  cases settings.lookup .item <;> cases settings.lookup .index <;> simp

/-- A test passes alike where its paths have the same values. -/
theorem passes_congr {test : Test}
    (h : ∀ path ∈ test.paths, s.value path = other.value path) :
    s.passes test = other.passes test := by
  cases test with
  | notNull paths =>
    rw [Bool.eq_iff_iff]
    simp only [passes, List.all_eq_true]
    exact forall₂_congr fun path hpath => by rw [h path hpath]
  | holds path => simp only [passes, h path List.mem_cons_self]

/-- A binding gives the same where its paths have the same values. -/
theorem bound_congr {binding : Binding}
    (h : ∀ path ∈ binding.paths, s.value path = other.value path) :
    s.bound binding = other.bound binding := by
  cases binding with
  | pattern leading path trailing => simp only [bound, h path List.mem_cons_self]
  | columns entries => rfl

/-- An indexed path gives the same where both of its parts have the same values. -/
theorem indexed_congr (h : ∀ p ∈ indexedPaths path, s.value p = other.value p) :
    s.indexed path = other.indexed path := by
  unfold indexed
  split
  · next map index hsplit =>
    rw [indexedPaths, hsplit] at h
    rw [h _ List.mem_cons_self, h _ (List.mem_cons_of_mem _ List.mem_cons_self)]
  · next hsplit =>
    rw [indexedPaths] at h
    split at h
    · next map index heq => exact absurd heq (hsplit map index)
    · exact h path List.mem_cons_self

end Scope

/-! ## Templates that cannot tell scopes apart -/

namespace Template

variable {s other : Scope}

/-- The same SQL, and scopes that agree on what follows. -/
def Alike (supply : Supply) (names : List String) (a b : Sql × Scope) : Prop :=
  a.1 = b.1 ∧ a.2.AgreeOn supply names b.2

/-- Outcomes that are alike on more names are alike on fewer. -/
theorem Alike.mono {a b : Sql × Scope} (h : Alike supply more a b) (hsubset : names ⊆ more) :
    Alike supply names a b := ⟨h.1, h.2.mono hsubset⟩

/-- What is done to the same SQL leaves it the same. -/
theorem Alike.map {a b : Sql × Scope} (h : Alike supply more a b) (hsubset : names ⊆ more)
    (f : Sql → Sql) : Alike supply names (f a.1, a.2) (f b.1, b.2) :=
  ⟨congrArg f h.1, h.2.mono hsubset⟩

/-- The first of two choices that is made is made alike. -/
theorem alike_or {a b c d : Option (Sql × Scope)} (hfirst : Option.Rel (Alike supply names) a b)
    (hsecond : Option.Rel (Alike supply names) c d) :
    Option.Rel (Alike supply names) (a.or c) (b.or d) := by
  cases hfirst with
  | some hfound => exact .some hfound
  | none => exact hsecond

/-- Where no choice is made the scopes are as they were. -/
theorem alike_getD {a b : Option (Sql × Scope)} (h : Option.Rel (Alike supply names) a b)
    (hagree : s.AgreeOn supply names other) :
    Alike supply names (a.getD ([], s)) (b.getD ([], other)) := by
  cases h with
  | some hfound => exact hfound
  | none => exact ⟨rfl, hagree⟩

/-- A template that refers to what is supplied evaluates alike in scopes that agree on it. -/
theorem alike_eval {t : Template} (hapart : t.Apart)
    (hfinds : ∀ m ∈ t.mentions names, supply.Finds m.names m.path)
    (hagree : s.AgreeOn supply names other) :
    Alike supply (t.introduced ++ names) (t.eval s) (t.eval other) ∧
      (t.introduced = [] → Option.Rel (Alike supply names) (t.choice? s) (t.choice? other)) := by
  -- The induction is on what alternatives choose as well; they run in the scope of the choice.
  induction t generalizing names s other with
  | append first second ihFirst ihSecond =>
    rw [mentions, List.forall_mem_append] at hfinds
    have hfirst := ihFirst hapart.1 hfinds.1 hagree
    constructor
    · have hsecond := (ihSecond hapart.2 hfinds.2 hfirst.1.2).1
      refine ⟨congrArg₂ (· ++ ·) hfirst.1.1 hsecond.1, hsecond.2.mono ?_⟩
      intro name hname
      simp only [introduced, List.mem_append] at hname ⊢
      tauto
    · intro hnone
      rcases List.append_eq_nil_iff.mp hnone with ⟨hnoneSecond, hnoneFirst⟩
      rw [hnoneFirst] at hfinds
      exact alike_or (hfirst.2 hnoneFirst)
        ((ihSecond hapart.2 hfinds.2 hagree).2 hnoneSecond)
  | value path type? =>
    rw [mentions, List.forall_mem_singleton] at hfinds
    refine ⟨⟨?_, hagree⟩, fun _ => .none⟩
    rw [eval_value, eval_value, hagree path hfinds]
  | splice path =>
    rw [mentions, List.forall_mem_map] at hfinds
    refine ⟨⟨?_, hagree⟩, fun _ => .none⟩
    rw [eval_splice, eval_splice, Scope.indexed_congr fun p hp => hagree p (hfinds p hp)]
  | guard test body ih =>
    rw [mentions, List.forall_mem_append, List.forall_mem_map] at hfinds
    have htest := Scope.passes_congr fun p hp => hagree p (hfinds.1 p hp)
    refine ⟨?_, fun _ => .none⟩
    cases hpasses : s.passes test with
    | true =>
      rw [eval_guard_of_passes hpasses, eval_guard_of_passes (htest ▸ hpasses)]
      exact (ih hapart hfinds.2 hagree).1.mono (List.subset_append_right _ _)
    | false =>
      rw [eval_guard_of_not hpasses, eval_guard_of_not (htest ▸ hpasses)]
      exact ⟨rfl, hagree⟩
  | loop settings body ih =>
    rw [mentions, List.forall_mem_cons] at hfinds
    refine ⟨⟨?_, hagree⟩, fun _ => .none⟩
    rw [eval_loop, eval_loop, hagree _ hfinds.1]
    apply congrArg (Sql.looped _ _ _)
    apply List.map_congr_left
    intro x _
    exact (ih hapart hfinds.2 (hagree.round settings x.1 x.2)).1.1
  | trim settings body ih =>
    exact ⟨(ih hapart hfinds hagree).1.map (List.subset_append_right _ _) _, fun _ => .none⟩
  | whereClause body ih =>
    exact ⟨(ih hapart hfinds hagree).1.map (List.subset_append_right _ _) _, fun _ => .none⟩
  | setClause body ih =>
    exact ⟨(ih hapart hfinds hagree).1.map (List.subset_append_right _ _) _, fun _ => .none⟩
  | choose branches ih =>
    have hchosen := (ih hapart.2 hfinds hagree).2 hapart.1
    exact ⟨alike_getD hchosen hagree, fun _ => .none⟩
  | branch test body ih =>
    rw [mentions, List.forall_mem_append, List.forall_mem_map] at hfinds
    have htest := Scope.passes_congr fun p hp => hagree p (hfinds.1 p hp)
    have hbody := (ih hapart hfinds.2 hagree).1.mono (List.subset_append_right _ _)
    constructor
    · change Alike supply names (if s.passes test then body.eval s else ([], s))
        (if other.passes test then body.eval other else ([], other))
      rw [← htest]
      cases s.passes test with
      | true => exact hbody
      | false => exact ⟨rfl, hagree⟩
    · intro _
      rw [choice?_branch, choice?_branch, ← htest]
      cases s.passes test with
      | true => exact .some hbody
      | false => exact .none
  | bind name binding =>
    rw [mentions, List.forall_mem_map] at hfinds
    have hbound := Scope.bound_congr fun p hp => hagree p (hfinds p hp)
    refine ⟨⟨rfl, ?_⟩, fun _ => .none⟩
    rw [eval_bind, eval_bind, hbound]
    exact hagree.bind name _
  | _ => exact ⟨⟨rfl, hagree⟩, fun _ => .none⟩

/-- A closed template comes to the same SQL in scopes that agree. -/
theorem Closed.eval_congr {t : Template} (h : t.Closed supply names)
    (hagree : s.AgreeOn supply names other) : (t.eval s).1 = (t.eval other).1 :=
  (alike_eval h.apart h.values hagree).1.1

end Template

end EntityMapping

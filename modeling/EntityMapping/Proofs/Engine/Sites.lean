import EntityMapping.Proofs.Engine.Splicing

/-!
# Texts where they stand

A text of a template stands in its SQL or in an attribute of an element.  A rule says which
characters may stand at each of these sites, and whether values may be spliced in.  Templates
that are put together from parts that follow a rule follow it too.

Main results:

- `Rule.admits_append`, `Rule.admits_intercalate`: a text may stand where its parts may.
- `Template.follows_concat`, `Template.follows_join`: so it is with templates.
- `Template.Follows.isStatic`: the rule without dollar signs is that of static templates.
-/

namespace EntityMapping

/-! ## Sites -/

/-- Where a text stands in the print of a template: in the SQL, as the path of a reference or of a
test, in an attribute as it is, in the map of columns, or escaped in an attribute. -/
inductive Site
  | text
  | path
  | attribute
  | entry
  | escaped
deriving DecidableEq, Repr

/-- The signs that the fixed words of statements have at a site. -/
def Site.signs : Site → List Char
  | .text => ['>', '\'', '"', '\x60', '[', ']', ' ', ',', '(', ')', '=', '*', '+']
  | .path => ['[', ']']
  | .attribute => [' ', ',', '(', ')', '=', '*', '+']
  | .entry => ['"', '\x60']
  | .escaped => [' ', ',', '(', ')', '=', '*', '+']

/-- Whether the fixed words of statements have a character at a site. -/
def Site.standard (site : Site) (c : Char) : Bool :=
  c.isAlphanum || c ∈ ['_', '.'] || c ∈ site.signs

/-- A sign of a comparison, as it stands in character data. -/
def isSign (c : Char) : Bool := c ∈ ['<', '>', '=']

/-! ## Rules -/

/-- Which characters may stand at a site, and whether values may be spliced into the SQL. -/
structure Rule where
  splices : Prop
  allows : Site → Char → Prop

namespace Rule

variable {R : Rule} {site : Site} {a b : String} {texts : List String}

/-- The text may stand at the site. -/
def Admits (R : Rule) (site : Site) (text : String) : Prop := ∀ c ∈ text.toList, R.allows site c

/-- The fixed words of statements may stand where they do, and folding the letter case brings
in nothing that is not allowed. -/
structure IsLenient (R : Rule) : Prop where
  standard : ∀ site c, site.standard c = true → R.allows site c
  lower : ∀ text, R.Admits .text text → R.Admits .text (Text.lower text)

/-- A fixed word may stand at its site. -/
theorem IsLenient.word (hR : R.IsLenient) (h : a.toList.all site.standard = true) :
    R.Admits site a := fun c hc => hR.standard site c (List.all_eq_true.mp h c hc)

@[simp]
theorem admits_append : R.Admits site (a ++ b) ↔ R.Admits site a ∧ R.Admits site b := by
  simp [Admits, or_imp, forall_and]

/-- A text is admitted at a site if each of its characters is. -/
theorem admits_ofList {cs : List Char} :
    R.Admits site (String.ofList cs) ↔ ∀ c ∈ cs, R.allows site c := by
  simp [Admits]

/-- Admitted texts stay admitted when joined by an admitted separator. -/
theorem admits_intercalate (ha : R.Admits site a) (h : ∀ text ∈ texts, R.Admits site text) :
    R.Admits site (String.intercalate a texts) := by
  intro c hc
  by_contra hnot
  have hlacks : Lacks c (String.intercalate a texts) :=
    lacks_intercalate (fun hmem => hnot (ha c hmem)) fun text htext hmem =>
      hnot (h text htext c hmem)
  exact hlacks hc

/-- Each of the joined texts is admitted if the whole is. -/
theorem admits_of_intercalate (h : R.Admits site (String.intercalate a texts)) :
    ∀ text ∈ texts, R.Admits site text := by
  intro text htext c hc
  apply h c
  rw [String.toList_intercalate]
  exact mem_intercalate_of_mem _ hc (List.mem_map_of_mem htext)

/-- A text whose separators became underscores has no other new characters. -/
theorem IsLenient.underscored (hR : R.IsLenient) (h : R.Admits site a) (separators : List Char) :
    R.Admits site (Text.underscored separators a) := by
  have hunderscore : site.standard '_' = true := by cases site <;> decide
  refine admits_ofList.mpr fun c hc => ?_
  obtain ⟨d, hd, rfl⟩ := List.mem_map.mp hc
  split
  · exact hR.standard site '_' hunderscore
  · exact h d hd

/-- A lenient rule admits the digits of a number. -/
theorem IsLenient.repr (hR : R.IsLenient) (n : Nat) : R.Admits site n.repr := by
  intro c hc
  rw [Nat.toList_repr] at hc
  have hdigit := Nat.isDigit_of_mem_toDigits (by decide) (by decide) hc
  exact hR.standard site c (by simp [Site.standard, Char.isAlphanum, hdigit])

end Rule

/-! ## Templates that follow a rule -/

/-- A test reads paths, and they may stand where they do. -/
def Test.Follows (R : Rule) (test : Test) : Prop :=
  test.paths ≠ [] ∧ ∀ path ∈ test.paths, R.Admits .path path

/-- The paths of a binding may stand where they do. -/
def Binding.Follows (R : Rule) : Binding → Prop
  | .pattern _ path _ => R.Admits .path path
  | .columns entries => ∀ e ∈ entries, R.Admits .entry e.1 ∧ R.Admits .entry e.2

namespace Template

variable {R : Rule}

/-- All texts of the template may stand where they do, its character data are comparisons, no test
is empty, nothing is spliced in against the rule, and no setting of an element is given twice. -/
def Follows (R : Rule) : Template → Prop
  | empty => True
  | append first second => first.Follows R ∧ second.Follows R
  | text sql => R.Admits .text sql
  | cdata sql => sql.toList.all isSign = true
  | value path _ => R.Admits .path path
  | splice path => R.splices ∧ R.Admits .path path
  | guard test body => test.Follows R ∧ body.Follows R
  | loop settings body =>
    (settings.map Prod.fst).Nodup ∧ (∀ setting ∈ settings, R.Admits .attribute setting.2) ∧
      body.Follows R
  | trim settings body =>
    (settings.map Prod.fst).Nodup ∧ (∀ setting ∈ settings, R.Admits .attribute setting.2) ∧
      body.Follows R
  | whereClause body => body.Follows R
  | setClause body => body.Follows R
  | choose branches => branches.Follows R
  | branch test body => test.Follows R ∧ body.Follows R
  | bind name binding => R.Admits .attribute name ∧ binding.Follows R
  | fragment id => R.Admits .attribute id
  | selectKey property column _ typeName body =>
    R.Admits .attribute property ∧ R.Admits .attribute column ∧ R.Admits .escaped typeName ∧
      body.Follows R
  | result _ property column _ => R.Admits .attribute property ∧ R.Admits .attribute column
  | association property body => R.Admits .attribute property ∧ body.Follows R

section

variable [Decidable R.splices] [∀ site text, Decidable (R.Admits site text)]

instance (test : Test) : Decidable (test.Follows R) := inferInstanceAs (Decidable (_ ∧ _))

instance (binding : Binding) : Decidable (binding.Follows R) :=
  match binding with
  | .pattern _ path _ => inferInstanceAs (Decidable (R.Admits .path path))
  | .columns entries =>
    inferInstanceAs (Decidable (∀ e ∈ entries, R.Admits .entry e.1 ∧ R.Admits .entry e.2))

/-- Whether a template follows a rule can be decided piece by piece. -/
instance decidableFollows : (t : Template) → Decidable (t.Follows R)
  | empty => .isTrue trivial
  | append first second =>
    haveI := decidableFollows first
    haveI := decidableFollows second
    inferInstanceAs (Decidable (_ ∧ _))
  | text sql => inferInstanceAs (Decidable (R.Admits .text sql))
  | cdata sql => inferInstanceAs (Decidable (sql.toList.all isSign = true))
  | value path _ => inferInstanceAs (Decidable (R.Admits .path path))
  | splice path => inferInstanceAs (Decidable (R.splices ∧ R.Admits .path path))
  | guard test body =>
    haveI := decidableFollows body
    inferInstanceAs (Decidable (test.Follows R ∧ body.Follows R))
  | loop _ body =>
    haveI := decidableFollows body
    inferInstanceAs (Decidable (_ ∧ _ ∧ body.Follows R))
  | trim _ body =>
    haveI := decidableFollows body
    inferInstanceAs (Decidable (_ ∧ _ ∧ body.Follows R))
  | whereClause body => decidableFollows body
  | setClause body => decidableFollows body
  | choose branches => decidableFollows branches
  | branch test body =>
    haveI := decidableFollows body
    inferInstanceAs (Decidable (test.Follows R ∧ body.Follows R))
  | bind name binding => inferInstanceAs (Decidable (R.Admits .attribute name ∧ binding.Follows R))
  | fragment id => inferInstanceAs (Decidable (R.Admits .attribute id))
  | selectKey _ _ _ _ body =>
    haveI := decidableFollows body
    inferInstanceAs (Decidable (_ ∧ _ ∧ _ ∧ body.Follows R))
  | result _ property column _ =>
    inferInstanceAs (Decidable (R.Admits .attribute property ∧ R.Admits .attribute column))
  | association property body =>
    haveI := decidableFollows body
    inferInstanceAs (Decidable (R.Admits .attribute property ∧ body.Follows R))

end

/-- Parts that follow a rule do so in sequence. -/
theorem Follows.append {first second : Template} (hfirst : first.Follows R)
    (hsecond : second.Follows R) : (first ++ second).Follows R := ⟨hfirst, hsecond⟩

/-- Text follows a rule that admits it. -/
theorem follows_text {sql : String} (h : R.Admits .text sql) : (text sql).Follows R := h

/-- A bound value follows a rule that admits its path. -/
theorem follows_value {path : String} (h : R.Admits .path path) (type? : Option JdbcType) :
    (value path type?).Follows R := h

/-- An included fragment follows a rule that admits its id. -/
theorem follows_fragment {id : String} (h : R.Admits .attribute id) :
    (fragment id).Follows R := h

/-- A sequence follows a rule exactly if each of its templates does. -/
theorem follows_concat_iff {ts : List Template} :
    (concat ts).Follows R ↔ ∀ t ∈ ts, t.Follows R := by
  induction ts with
  | nil => simp [concat, Follows]
  | cons t rest ih =>
    rw [List.forall_mem_cons, ← ih]
    rfl

/-- A sequence of templates that follow a rule follows it. -/
theorem follows_concat {ts : List Template} (h : ∀ t ∈ ts, t.Follows R) :
    (concat ts).Follows R := follows_concat_iff.mpr h

/-- Templates that follow a rule do so when joined by an admitted separator. -/
theorem follows_join {separator : String} {ts : List Template}
    (hseparator : R.Admits .text separator) (h : ∀ t ∈ ts, t.Follows R) :
    (join separator ts).Follows R := by
  induction ts with
  | nil => trivial
  | cons t rest ih =>
    have ht := h t List.mem_cons_self
    have hrest := ih fun other hother => h other (List.mem_cons_of_mem _ hother)
    cases rest with
    | nil => exact ht
    | cons next rest => exact (ht.append (follows_text hseparator)).append hrest

end Template

end EntityMapping

import EntityMapping.Declaration.Scribe

/-!
# Nested brackets

Reading tokens bracket by bracket.  Groups are round, square or curly brackets; outside of
groups, marks of less and greater are brackets as well, unless the latter ends an arrow.

Main results:

- `Level.append`, `OpensAngle.closed`: what tokens do to the open brackets, put together.
- `splitGroup_run`: a group that is split off closes what it opens.
- `upToAngle_append`: a closing angle bracket is found behind the tokens that it closes.
-/

namespace EntityMapping.Declaration

/-! ## Depths -/

/-- How many groups are open, how many angle brackets outside of groups, and whether the last
token may begin an arrow. -/
structure Nesting where
  groups : Nat
  angles : Nat
  dashed : Bool
deriving DecidableEq, Repr

namespace Nesting

/-- The depth after a mark outside of groups. -/
def angle (angles : Nat) (dashed : Bool) (t : Token) : Option Nesting :=
  if t.isMark '<' then some ⟨0, angles + 1, false⟩
  else if t.isMark '>' && !dashed then
    if angles = 0 then none else some ⟨0, angles - 1, false⟩
  else some ⟨0, angles, t == .joined "-"⟩

/-- The depth after a token, unless it closes what is not open. -/
def step (n : Nesting) (t : Token) : Option Nesting :=
  match t with
  | .opening _ => some ⟨n.groups + 1, n.angles, false⟩
  | .closing _ => if n.groups = 0 then none else some ⟨n.groups - 1, n.angles, false⟩
  | t => if n.groups = 0 then angle n.angles n.dashed t else some n

/-- The depth after tokens. -/
def run (n : Nesting) (ts : Tokens) : Option Nesting := ts.foldlM step n

@[simp]
theorem run_nil (n : Nesting) : n.run [] = some n := rfl

@[simp]
theorem run_cons (n : Nesting) (t : Token) (ts : Tokens) :
    n.run (t :: ts) = (n.step t).bind fun m => m.run ts := rfl

/-- Tokens open and close their brackets one after the other. -/
theorem run_append (n : Nesting) (xs ys : Tokens) :
    n.run (xs ++ ys) = (n.run xs).bind fun m => m.run ys := by
  simp [run, List.foldlM_append]

end Nesting

/-! ## Marks -/

/-- Whether the token is a mark, joined to the next one or not. -/
def Token.isAnyMark : Token → Bool
  | mark _ => true
  | joined _ => true
  | _ => false

/-- Whether the token is no bracket of any kind and begins no arrow. -/
def Token.isPlain (t : Token) : Bool :=
  match t with
  | opening _ => false
  | closing _ => false
  | t => !t.isMark '<' && !t.isMark '>' && t != .joined "-"

/-! ## What tokens do to the open brackets -/

/-- Tokens that leave the open brackets as they are, within a group at least. -/
def Level (anywhere : Bool) (ts : Tokens) : Prop :=
  ∀ groups angles, (anywhere = true ∨ groups ≠ 0) →
    Nesting.run ⟨groups, angles, false⟩ ts = some ⟨groups, angles, false⟩

/-- Tokens that open an angle bracket, outside of groups. -/
def OpensAngle (ts : Tokens) : Prop :=
  Level false ts ∧ ∀ angles, Nesting.run ⟨0, angles, false⟩ ts = some ⟨0, angles + 1, false⟩

/-- Tokens that close an angle bracket, outside of groups. -/
def ClosesAngle (ts : Tokens) : Prop :=
  Level false ts ∧ ∀ angles, Nesting.run ⟨0, angles + 1, false⟩ ts = some ⟨0, angles, false⟩

/-- No tokens leave the open brackets as they are. -/
theorem Level.nil (anywhere : Bool) : Level anywhere [] := fun _ _ _ => rfl

/-- What is level anywhere is level within a group. -/
theorem Level.within {anywhere : Bool} {ts : Tokens} (h : Level anywhere ts) : Level false ts :=
  fun groups angles inGroup => h groups angles (.inr (by simpa using inGroup))

/-- What is level anywhere is level wherever asked. -/
theorem Level.anywhere {ts : Tokens} (h : Level true ts) (anywhere : Bool) :
    Level anywhere ts := fun groups angles _ => h groups angles (.inl rfl)

/-- Level tokens stay level when joined, wherever both are. -/
theorem Level.append {a b : Bool} {xs ys : Tokens} (hx : Level a xs) (hy : Level b ys) :
    Level (a && b) (xs ++ ys) := by
  intro groups angles place
  rw [Nesting.run_append, hx groups angles (by grind), Option.bind_some,
    hy groups angles (by grind)]

/-- Tokens that are level one by one are level. -/
theorem Level.of_forall {ts : Tokens} {anywhere : Bool} (h : ∀ t ∈ ts, Level anywhere [t]) :
    Level anywhere ts := by
  induction ts with
  | nil => exact Level.nil anywhere
  | cons t rest ih =>
    have front : Level anywhere [t] := h t (by simp)
    have back : Level anywhere rest := ih fun u hu => h u (by simp [hu])
    simpa using front.append back

/-- A mark is level within a group, where angles do not count. -/
theorem Level.of_isAnyMark {t : Token} (h : t.isAnyMark = true) : Level false [t] := by
  intro groups angles place
  have inGroup : groups ≠ 0 := by simpa using place
  cases t <;> simp_all [Token.isAnyMark, Nesting.step]

/-- A plain token is level anywhere. -/
theorem Level.of_isPlain {t : Token} (h : t.isPlain = true) : Level true [t] := by
  intro groups angles _
  cases t <;> simp_all [Token.isPlain, Nesting.step, Nesting.angle]

/-- Brackets of a group around tokens that may stand in it. -/
theorem Level.group {a : Bool} {ts : Tokens} (h : Level a ts) (b b' : Bracket) :
    Level true (.opening b :: ts ++ [.closing b']) := by
  intro groups angles _
  have inside := h (groups + 1) angles (.inr (by omega))
  simp [Nesting.run_append, Nesting.step, inside]

/-- Level tokens behind an opening angle leave it open. -/
theorem OpensAngle.append {xs ys : Tokens} (hx : OpensAngle xs) (hy : Level true ys) :
    OpensAngle (xs ++ ys) := by
  refine ⟨by simpa using hx.1.append hy, fun angles => ?_⟩
  simp [Nesting.run_append, hx.2, hy 0 (angles + 1) (.inl rfl)]

/-- An angle that is opened and closed leaves the brackets as they were. -/
theorem OpensAngle.closed {xs ys : Tokens} (hx : OpensAngle xs) (hy : ClosesAngle ys) :
    Level true (xs ++ ys) := by
  intro groups angles _
  obtain rfl | inGroup := Nat.eq_zero_or_pos groups
  · simp [Nesting.run_append, hx.2, hy.2]
  · exact hx.1.append hy.1 groups angles (.inr (by omega))

/-- The mark of less opens an angle. -/
theorem OpensAngle.of_isMark {t : Token} (h : t.isMark '<' = true) : OpensAngle [t] := by
  refine ⟨Level.of_isAnyMark (by cases t <;> simp_all [Token.isMark, Token.isAnyMark]), ?_⟩
  cases t <;> simp_all [Token.isMark, Nesting.step, Nesting.angle]

/-- The mark of greater closes an angle. -/
theorem ClosesAngle.of_isMark {t : Token} (h : t.isMark '>' = true) : ClosesAngle [t] := by
  refine ⟨Level.of_isAnyMark (by cases t <;> simp_all [Token.isMark, Token.isAnyMark]), ?_⟩
  cases t <;> simp_all [Token.isMark, Nesting.step, Nesting.angle]

/-- An arrow is no bracket. -/
theorem Level.arrow {t : Token} (h : t.isMark '>' = true) : Level true [.joined "-", t] := by
  intro groups angles _
  obtain rfl | inGroup := Nat.eq_zero_or_pos groups
  · cases t <;> simp_all [Token.isMark, Nesting.step, Nesting.angle]
  · have inGroup : groups ≠ 0 := by omega
    cases t <;> simp_all [Token.isMark, Nesting.step]

/-! ## Groups split off -/

/-- The tokens that are split off end with the bracket that closes the group. -/
theorem splitGroup_run {depth : Nat} {ts inside rest : Tokens}
    (h : splitGroup depth ts = some (inside, rest)) :
    ts = inside ++ rest ∧ ∀ groups angles,
      Nesting.run ⟨groups + depth + 1, angles, false⟩ inside = some ⟨groups, angles, false⟩ := by
  fun_induction splitGroup depth ts generalizing inside rest with
  | case1 => cases h
  | case2 b rest =>
    obtain ⟨rfl, rfl⟩ : [.closing b] = inside ∧ _ = _ := by simpa using h
    simp [Nesting.step]
  | case3 depth b rest ih =>
    obtain ⟨⟨more, _⟩, hsplit, e⟩ := Option.map_eq_some_iff.mp h
    obtain ⟨rfl, rfl⟩ := Prod.mk.inj e
    obtain ⟨hrest, hrun⟩ := ih hsplit
    refine ⟨by simp [hrest], fun groups angles => ?_⟩
    simpa [Nesting.step, ← Nat.add_assoc] using hrun groups angles
  | case4 depth b rest ih =>
    obtain ⟨⟨more, _⟩, hsplit, e⟩ := Option.map_eq_some_iff.mp h
    obtain ⟨rfl, rfl⟩ := Prod.mk.inj e
    obtain ⟨hrest, hrun⟩ := ih hsplit
    refine ⟨by simp [hrest], fun groups angles => ?_⟩
    simpa [Nesting.step, Nat.add_assoc] using hrun groups angles
  | case5 depth t rest notClosing notOpening h0 ih =>
    obtain ⟨⟨more, _⟩, hsplit, e⟩ := Option.map_eq_some_iff.mp h
    obtain ⟨rfl, rfl⟩ := Prod.mk.inj e
    obtain ⟨hrest, hrun⟩ := ih hsplit
    refine ⟨by simp [hrest], fun groups angles => ?_⟩
    have stays : Nesting.step ⟨groups + depth + 1, angles, false⟩ t =
        some ⟨groups + depth + 1, angles, false⟩ := by
      cases depth <;> cases t <;> simp_all [Nesting.step]
    simpa [stays] using hrun groups angles

/-! ## Reading up to a closing angle bracket -/

/-- The tokens before the angle bracket that closes what is not open, and those after it. -/
def upToAngle (n : Nesting) : Tokens → Option (Tokens × Tokens)
  | [] => none
  | t :: rest =>
    match n.step t with
    | some m => (upToAngle m rest).map fun r => (t :: r.1, r.2)
    | none => if t.isMark '>' then some ([], rest) else none

/-- Tokens that close no more than they open are passed over in search of the closing angle. -/
theorem upToAngle_of_run {n m : Nesting} {ts : Tokens} (h : n.run ts = some m) (rest : Tokens) :
    upToAngle n (ts ++ rest) = (upToAngle m rest).map fun r => (ts ++ r.1, r.2) := by
  induction ts generalizing n with
  | nil =>
    obtain rfl : n = m := by simpa using h
    simp
  | cons t ts ih =>
    obtain ⟨k, hstep, hrun⟩ := Option.bind_eq_some_iff.mp (Nesting.run_cons n t ts ▸ h)
    simp [upToAngle, hstep, ih hrun, Function.comp_def]

/-- Tokens that leave the brackets as they are end where an angle bracket closes them. -/
theorem upToAngle_append {ts : Tokens} (h : Level true ts) (rest : Tokens) :
    upToAngle ⟨0, 0, false⟩ (ts ++ .mark ">" :: rest) = some (ts, rest) := by
  rw [upToAngle_of_run (h 0 0 (.inl rfl))]
  simp [upToAngle, Nesting.step, Nesting.angle, Token.isMark]

end EntityMapping.Declaration
